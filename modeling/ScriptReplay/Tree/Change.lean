import ScriptReplay.Tree.Basic

namespace ScriptReplay.Tree

def write (t : Tree) (p : Path) (content : Content) : Except FileError Tree :=
  match t.resolve .place p with
  | .error e => .error e
  | .ok (.vacant l) => .ok (t.put l (.file content))
  | .ok (.taken l (.file _)) => .ok (t.put l (.file content))
  | .ok (.taken _ _) => .error .isDirectory

def closeListing (t : Tree) (p : Path) (reason : FileError) : Tree :=
  match t.resolve .target p with
  | .ok (.taken l .directory) => { t with unlisted := (l, reason) :: t.unlisted }
  | _ => t

def make (t : Tree) (p : Path) (node : Node) : Except FileError Tree :=
  match t.resolve .node p with
  | .error e => .error e
  | .ok (.taken _ _) => .error .alreadyExists
  | .ok (.vacant l) => .ok (t.put l node)

def makeDirectories (t : Tree) (absolute : Bool) : List FileName → Except FileError Tree
  | [] => .ok t
  | n :: above =>
    let p := Path.ofNames absolute (n :: above).reverse
    match t.make p .directory with
    | .ok t => .ok t
    | .error .notFound =>
      match t.makeDirectories absolute above with
      | .error e => .error e
      | .ok t =>
        match t.make p .directory with
        | .ok t => .ok t
        | .error e => if t.isDirectory p then .ok t else .error e
    | .error e => if t.isDirectory p then .ok t else .error e

def makeParent (t : Tree) (p : Path) : Except FileError Tree :=
  t.makeDirectories (Path.isAbsolute p) (Path.components p).dropLast.reverse

def changes (old new : Tree) : List (Location × Node) :=
  (new.nodes.filter fun n => old.at? n.1 ≠ some n.2).reverse

end ScriptReplay.Tree
