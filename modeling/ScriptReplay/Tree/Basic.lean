import ScriptReplay.Error
import ScriptReplay.Tree.Content
import ScriptReplay.Tree.Path

/-!
A directory tree as a value. Every node stands at a location, the list of names that lead to it
from the top; a path is resolved to a location by following its names and the symbolic links on
the way.
-/

namespace ScriptReplay

abbrev Location := List FileName

inductive Node where
  | directory
  | file (content : Content)
  | link (target : Path)
  deriving DecidableEq, Repr

/-- The nodes with their locations, the working directory, and the directories that cannot be
listed, each with the reason. What stands in such a directory can still be found by its name. -/
structure Tree where
  nodes : List (Location × Node)
  here : Location
  unlisted : List (Location × FileError) := []
  deriving Repr

namespace Tree

def empty : Tree where
  nodes := []
  here := []

def at? (t : Tree) (l : Location) : Option Node :=
  if l = [] then some .directory else t.nodes.lookup l

def put (t : Tree) (l : Location) (node : Node) : Tree :=
  { t with nodes := (l, node) :: t.nodes.filter (·.1 ≠ l) }

def longestName : Nat := 255

def longestPath : Nat := 4095

def mostLinks : Nat := 40

inductive Place where
  | taken (location : Location) (node : Node)
  | vacant (location : Location)
  deriving DecidableEq, Repr

/-- What a path is followed for: the node at its end, be it a link; the node that all links lead to;
or a place for a file to be written. -/
inductive Aim where
  | node
  | target
  | place
  deriving DecidableEq, Repr

/-- Follows names from the directory `cur`; `links` more links may be met. Nothing is looked up at
the last name of a place for a file if a slash comes after it, as no file can be written there. -/
def walk (t : Tree) (aim : Aim) (links : Nat) (cur : Location) :
    List FileName → Except FileError Place
  | [] => .ok (.taken cur .directory)
  | n :: rest =>
    if n = Path.finalSlash ∨ n = Path.dot then t.walk aim links cur rest
    else if n = Path.dotDot then t.walk aim links cur.dropLast rest
    else if aim = .place ∧ rest = [Path.finalSlash] then .error .isDirectory
    else if longestName < n.length then .error .nameTooLong
    else
      let l := cur ++ [n]
      match t.at? l with
      | none => if rest = [] then .ok (.vacant l) else .error .notFound
      | some .directory => t.walk aim links l rest
      | some (.file content) =>
        if rest = [] then .ok (.taken l (.file content)) else .error .notDirectory
      | some (.link target) =>
        if rest = [] ∧ aim = .node then .ok (.taken l (.link target))
        else
          match links with
          | 0 => .error .linkLoop
          | links + 1 =>
            t.walk aim links (if Path.isAbsolute target then [] else cur)
              (Path.steps target ++ rest)
termination_by ns => (links, ns.length)

def resolve (t : Tree) (aim : Aim) (p : Path) : Except FileError Place :=
  if p.contains 0 then .error .nulByte
  else if p = [] then .error .notFound
  else if longestPath < p.length then .error .nameTooLong
  else t.walk aim mostLinks (if Path.isAbsolute p then [] else t.here) (Path.steps p)

def node? (t : Tree) (p : Path) : Option Node :=
  match t.resolve .target p with
  | .ok (.taken _ node) => some node
  | _ => none

def isDirectory (t : Tree) (p : Path) : Bool :=
  t.node? p == some .directory

def isFile (t : Tree) (p : Path) : Bool :=
  match t.node? p with
  | some (.file _) => true
  | _ => false

def isPresent (t : Tree) (p : Path) : Bool :=
  (t.node? p).isSome

def read (t : Tree) (p : Path) : Except FileError Content :=
  match t.resolve .target p with
  | .error e => .error e
  | .ok (.vacant _) => .error .notFound
  | .ok (.taken _ (.file content)) => .ok content
  | .ok (.taken _ _) => .error .isDirectory

def readText (t : Tree) (p : Path) : Except FileError Text :=
  match t.read p with
  | .error e => .error e
  | .ok content =>
    match content.text? with
    | some text => .ok text
    | none => .error .notUtf8

def entries (t : Tree) (p : Path) : List FileName :=
  match t.resolve .target p with
  | .ok (.taken l .directory) =>
    t.nodes.filterMap fun (m, _) =>
      match m.getLast? with
      | some n => if m.dropLast = l then some n else none
      | none => none
  | _ => []

def listingFault? (t : Tree) (p : Path) : Option FileError :=
  match t.resolve .target p with
  | .ok (.taken l .directory) => t.unlisted.lookup l
  | _ => none

end Tree

end ScriptReplay
