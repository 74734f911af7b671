import ScriptReplay.Error
import ScriptReplay.Text.Hex
import ScriptReplay.Text.Pieces
import ScriptReplay.Tree.Path

namespace ScriptReplay

inductive OpenMode where
  | readOnly
  | readWrite
  | create
  | memory
  deriving DecidableEq, Repr

namespace OpenMode

def rank : OpenMode → Nat
  | readOnly => 0
  | readWrite => 1
  | create => 2
  | memory => 3

def ofBytes? (name : Bytes) : Option OpenMode :=
  if name = Path.ofString "ro" then some readOnly
  else if name = Path.ofString "rw" then some readWrite
  else if name = Path.ofString "rwc" then some create
  else if name = Path.ofString "memory" then some memory
  else none

end OpenMode

structure Address where
  path : Path
  options : List (Bytes × Bytes)
  deriving DecidableEq, Repr

namespace Address

def decoded : Text → Bytes
  | '%' :: h :: l :: r =>
    match Text.hexValue? h, Text.hexValue? l with
    | some h, some l => if h * 16 + l = 0 then [] else .ofNat (h * 16 + l) :: decoded r
    | _, _ => Utf8.encodeChar '%' ++ decoded (h :: l :: r)
  | c :: r => Utf8.encodeChar c ++ decoded r
  | [] => []

def option (t : Text) : Bytes × Bytes :=
  match Text.breakOn ['='] t with
  | some (name, value) => (decoded name, decoded value)
  | none => (decoded t, [])

def afterHost (t : Text) : Except SessionError Text :=
  match t with
  | '/' :: '/' :: r =>
    let host := r.takeWhile (· ≠ '/')
    if host = [] ∨ host = "localhost".toList then .ok (r.drop host.length)
    else .error (.sqlite 1 (some ("invalid uri authority: " ++ String.ofList host)))
  | t => .ok t

def ofParts (t : Text) : Address :=
  match Text.breakOn ['?'] t with
  | none => ⟨decoded t, []⟩
  | some (path, options) =>
    ⟨decoded path, ((Text.pieces ['&'] options).map option).filter (·.1 ≠ [])⟩

def ofText (t : Text) : Except SessionError Address :=
  if "file:".toList.isPrefixOf t then
    match afterHost (t.drop 5) with
    | .error e => .error e
    | .ok t => .ok (ofParts (t.takeWhile (· ≠ '#')))
  else .ok ⟨Path.ofText t, []⟩

structure Choice where
  mode : OpenMode
  files : Bytes
  deriving DecidableEq, Repr

def fileKinds : List String :=
  ["unix", "unix-none", "unix-dotfile", "unix-excl", "memdb"]

def noSuch (thing : String) (name : Bytes) : SessionError :=
  .sqlite 1 (some s!"no such {thing}: {Path.shown name}")

def choose (c : Choice) (o : Bytes × Bytes) : Except SessionError Choice :=
  if o.1 = Path.ofString "vfs" then .ok { c with files := o.2 }
  else if o.1 = Path.ofString "cache" then
    if o.2 = Path.ofString "shared" ∨ o.2 = Path.ofString "private" then .ok c
    else .error (noSuch "cache mode" o.2)
  else if o.1 = Path.ofString "mode" then
    match OpenMode.ofBytes? o.2 with
    | none => .error (noSuch "access mode" o.2)
    | some mode =>
      if mode = .memory ∨ mode.rank ≤ c.mode.rank then .ok { c with mode := mode }
      else .error (.sqlite 3 (some ("access mode not allowed: " ++ Path.shown o.2)))
  else .ok c

def choice (a : Address) : Except SessionError Choice :=
  match a.options.foldlM choose ⟨.create, Path.ofString "unix"⟩ with
  | .error e => .error e
  | .ok c =>
    if fileKinds.any fun kind => Path.ofString kind == c.files then .ok c
    else .error (noSuch "vfs" c.files)

def leadingNumber (value : Text) : Nat :=
  let number := match value with
    | '0' :: x :: d :: r =>
      if (x = 'x' ∨ x = 'X') ∧ Text.isHexDigit d then
        ((d :: r).takeWhile Text.isHexDigit).foldl (fun n c => n * 16 + (Text.hexValue? c).getD 0) 0
      else decimal value
    | _ => decimal value
  if number < 2147483648 then number else 0
where
  decimal (t : Text) : Nat :=
    (t.takeWhile Char.isDigit).foldl (fun n c => n * 10 + (c.toNat - 48)) 0

def means (value : Bytes) : Bool :=
  let value := Path.shown value
  if value.toList.head?.any Char.isDigit then leadingNumber value.toList % 256 ≠ 0
  else value.toLower ∈ ["on", "yes", "true"]

def has (a : Address) (option : String) : Bool :=
  (a.options.lookup (Path.ofString option)).any means

def isImmutable (a : Address) : Bool :=
  a.has "immutable"

def isUnlocked (a : Address) : Bool :=
  a.has "nolock"

def isNameless (a : Address) (c : Choice) : Bool :=
  c.mode = .memory || a.path = [] || a.path = Path.ofString ":memory:"

def isUnfiled (a : Address) (c : Choice) : Bool :=
  a.isNameless c || c.files = Path.ofString "memdb"

def isReadOnly (a : Address) (c : Choice) : Bool :=
  c.mode = .readOnly || a.isImmutable && !a.isNameless c

def permissionsOf? (a : Address) : Option Path :=
  a.options.lookup (Path.ofString "modeof")

end Address

end ScriptReplay
