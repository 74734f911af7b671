import ScriptReplay.Tree.Basic

namespace ScriptReplay

structure Entry where
  name : FileName
  isFile : Bool
  deriving DecidableEq, Repr

namespace Listing

def lowerByte (b : UInt8) : UInt8 :=
  if 0x41 ≤ b ∧ b ≤ 0x5A then b + 0x20 else b

def hasExtension (extension : Bytes) (name : FileName) : Bool :=
  match Path.extension? name with
  | none => false
  | some ending => ending.map lowerByte == extension.map lowerByte

def byName (a b : FileName) : Bool :=
  decide (a ≤ b)

def select (extension : Bytes) (entries : List Entry) : List FileName :=
  ((entries.filter fun e => e.isFile && hasExtension extension e.name).map (·.name)).mergeSort
    byName

def entriesOf (t : Tree) (dir : Path) : List Entry :=
  (t.entries dir).map fun name => ⟨name, t.isFile (Path.join dir name)⟩

def scripts? (t : Tree) (dir : Path) (extension : Bytes) : Option (List Path) :=
  if t.isDirectory dir then
    some ((select extension (entriesOf t dir)).map (Path.join dir))
  else none

end Listing

end ScriptReplay
