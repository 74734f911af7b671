import ScriptReplay.Text.Utf8

namespace ScriptReplay

abbrev FileName := Bytes

abbrev Path := Bytes

namespace Path

def slash : UInt8 := 0x2F

def dot : FileName := [0x2E]

def dotDot : FileName := [0x2E, 0x2E]

def ofText (t : Text) : Path :=
  Utf8.encode t

def ofString (s : String) : Path :=
  ofText s.toList

def shown (p : Path) : String :=
  String.ofList (Utf8.decodeLossy p)

def isAbsolute (p : Path) : Bool :=
  p.head? == some slash

def endsWithSlash (p : Path) : Bool :=
  p.getLast? == some slash

def names : Path → List FileName
  | [] => []
  | b :: r =>
    if b = slash then names r
    else
      match r with
      | [] => [[b]]
      | c :: _ =>
        if c = slash then [b] :: names r
        else
          match names r with
          | [] => [[b]]
          | n :: ns => (b :: n) :: ns

def finalSlash : FileName := []

def steps (p : Path) : List FileName :=
  if endsWithSlash p then names p ++ [finalSlash] else names p

def join (dir p : Path) : Path :=
  if isAbsolute p then p
  else if dir = [] ∨ endsWithSlash dir then dir ++ p
  else dir ++ slash :: p

def components (p : Path) : List FileName :=
  match names p with
  | [] => []
  | n :: ns =>
    if n = dot ∧ !isAbsolute p then n :: ns.filter (· ≠ dot) else (n :: ns).filter (· ≠ dot)

def fileName? (p : Path) : Option FileName :=
  match (components p).getLast? with
  | none => none
  | some n => if n = dot ∨ n = dotDot then none else some n

def ofNames (absolute : Bool) (ns : List FileName) : Path :=
  let relative := [slash].intercalate ns
  if absolute then slash :: relative else relative

def extension? (name : FileName) : Option Bytes :=
  let ending := (name.reverse.takeWhile (· ≠ 0x2E)).reverse
  if name = dotDot ∨ name.length ≤ ending.length + 1 then none else some ending

end Path

end ScriptReplay
