import ScriptReplay.Tree.Basic

namespace ScriptReplay.Tree

def mostSpelledLinks : Nat := 201

def writtenLength (l : Location) : Nat :=
  l.foldl (fun n name => n + name.length + 1) 0

/-- Follows names from the location `cur`. A location of more than `longest` bytes is refused, as is
a name below a file, and in a directory a name that is too long. -/
def spell (t : Tree) (longest links : Nat) (cur : Location) :
    List FileName → Except FileError Location
  | [] => .ok cur
  | n :: rest =>
    if n = Path.dot then t.spell longest links cur rest
    else if n = Path.dotDot then t.spell longest links cur.dropLast rest
    else
      let l := cur ++ [n]
      if longest < writtenLength l then .error .nameTooLong
      else
        match t.at? cur, t.at? l with
        | some (.file _), _ => .error .notDirectory
        | some .directory, none =>
          if longestName < n.length then .error .nameTooLong else t.spell longest links l rest
        | _, some (.link target) =>
          match links with
          | 0 => .error .linkLoop
          | links + 1 =>
            t.spell longest links (if Path.isAbsolute target then [] else cur)
              (Path.names target ++ rest)
        | _, _ => t.spell longest links l rest
termination_by ns => (links, ns.length)

def locate (t : Tree) (longest : Nat) (p : Path) : Except FileError Location :=
  t.spell longest mostSpelledLinks (if Path.isAbsolute p then [] else t.here) (Path.names p)

end ScriptReplay.Tree
