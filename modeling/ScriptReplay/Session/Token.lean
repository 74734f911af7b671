import ScriptReplay.Text.Hex
import ScriptReplay.Text.Pieces
import ScriptReplay.Text.Utf8

namespace ScriptReplay.Sql

open Text

inductive Kind where
  | word
  | number
  | quoted
  | bytes
  | variable
  | sign
  | foreign
  deriving DecidableEq, Repr

structure Token where
  kind : Kind
  text : Text
  position : Nat
  rest : Text
  deriving DecidableEq, Repr

def isSpace (c : Char) : Bool :=
  c == ' ' || c == '\t' || c == '\n' || c == '\x0c' || c == '\r'

def isFurtherSpace (c : Char) : Bool :=
  isSpace c || c == '\x0b'

def isWordChar (c : Char) : Bool :=
  c.isAlphanum || c == '_' || c == '$' || 0x80 ≤ c.toNat

def exponent : Text → Text
  | e :: s :: r =>
    if e ≠ 'e' ∧ e ≠ 'E' then []
    else if s.isDigit then e :: s :: r.takeWhile Char.isDigit
    else if (s = '+' ∨ s = '-') ∧ (r.takeWhile Char.isDigit) ≠ [] then
      e :: s :: r.takeWhile Char.isDigit
    else []
  | _ => []

def fraction : Text → Text
  | '.' :: r => '.' :: r.takeWhile Char.isDigit
  | _ => []

def decimal (t : Text) : Text :=
  let whole := t.takeWhile Char.isDigit
  let fraction := fraction (t.drop whole.length)
  whole ++ fraction ++ exponent (t.drop (whole.length + fraction.length))

def hexadecimal? : Text → Option Text
  | '0' :: x :: d :: r =>
    if (x = 'x' ∨ x = 'X') ∧ isHexDigit d then some ('0' :: x :: d :: r.takeWhile isHexDigit)
    else none
  | _ => none

def number (t : Text) : Kind × Text :=
  match hexadecimal? t with
  | some digits => (.number, digits)
  | none =>
    let digits := decimal t
    let more := (t.drop digits.length).takeWhile isWordChar
    (if more = [] then .number else .foreign, digits ++ more)

def quotedTail (quote : Char) : Text → Option Text
  | [] => none
  | [c] => if c = quote then some [c] else none
  | c :: d :: r =>
    if c ≠ quote then (quotedTail quote (d :: r)).map (c :: ·)
    else if d = quote then (quotedTail quote r).map fun tail => c :: d :: tail
    else some [c]

def blockTail (t : Text) : Text :=
  match breakOn ['*', '/'] t with
  | some (body, _) => body ++ ['*', '/']
  | none => t

def variableArgument (r : Text) : Bool × Text :=
  let body := r.takeWhile fun c => !isFurtherSpace c && c != ')'
  match r.drop body.length with
  | ')' :: _ => (true, body ++ [')'])
  | _ => (false, body)

def variableName (isBegun : Bool) : Text → Bool × Text
  | [] => (isBegun, [])
  | c :: r =>
    if isWordChar c then
      let (isName, name) := variableName true r
      (isName, c :: name)
    else
      match c, r with
      | ':', ':' :: r =>
        let (isName, name) := variableName isBegun r
        (isName, ':' :: ':' :: name)
      | '(', r =>
        if isBegun then
          let (isName, argument) := variableArgument r
          (isName, '(' :: argument)
        else (false, [])
      | _, _ => (isBegun, [])

def byteDigits (r : Text) : Bool × Text :=
  let digits := r.takeWhile isHexDigit
  let other := (r.drop digits.length).takeWhile (· ≠ '\'')
  match r.drop (digits.length + other.length) with
  | [] => (false, r)
  | _ => (other.isEmpty && digits.length % 2 == 0, digits ++ other ++ ['\''])

def doubleSigns : List Text :=
  ["||", "->", "<>", "<=", "<<", ">=", ">>", "==", "!="].map String.toList

def sign (c : Char) (r : Text) : Kind × Text :=
  if ['-', '>', '>'].isPrefixOf (c :: r) then (.sign, ['-', '>', '>'])
  else
    match doubleSigns.find? fun s => s.isPrefixOf (c :: r) with
    | some s => (.sign, s)
    | none => (if c ∈ "%&()*+,-./;<=>?|~".toList then .sign else .foreign, [c])

def piece (c : Char) (r : Text) : Option Kind × Text :=
  if isSpace c then (none, c :: r.takeWhile isFurtherSpace)
  else if c = '\uFEFF' then (none, [c])
  else if c = '-' ∧ r.head? = some '-' then (none, c :: r.takeWhile (· ≠ '\n'))
  else if c = '/' ∧ r.head? = some '*' ∧ 1 < r.length then (none, '/' :: '*' :: blockTail r.tail)
  else if c.isDigit ∨ c = '.' ∧ (r.head?.any Char.isDigit) then
    let (kind, text) := number (c :: r)
    (some kind, text)
  else if c ∈ ['$', '@', '#', ':'] then
    let (isName, name) := variableName false r
    (some (if isName then .variable else .foreign), c :: name)
  else if c = '?' then (some .variable, c :: r.takeWhile Char.isDigit)
  else if (c = 'x' ∨ c = 'X') ∧ r.head? = some '\'' then
    let (isBytes, digits) := byteDigits r.tail
    (some (if isBytes then .bytes else .foreign), c :: '\'' :: digits)
  else if isWordChar c then (some .word, c :: r.takeWhile isWordChar)
  else if c ∈ ['"', '\'', '`'] then
    match quotedTail c r with
    | some tail => (some .quoted, c :: tail)
    | none => (some .foreign, c :: r)
  else if c = '[' then
    match breakOn [']'] r with
    | some (name, _) => (some .quoted, c :: name ++ [']'])
    | none => (some .foreign, c :: r)
  else
    let (kind, text) := sign c r
    (some kind, text)

def unquoted (quote : Char) : Text → Text
  | [] => []
  | [c] => if c = quote then [] else [c]
  | c :: d :: r =>
    if c ≠ quote then c :: unquoted quote (d :: r)
    else if d = quote then c :: unquoted quote r
    else []

def Token.name (t : Token) : Text :=
  match t.kind, t.text with
  | .quoted, '[' :: r => r.dropLast
  | .quoted, quote :: r => unquoted quote r
  | _, text => text

def tokens (start : Nat) : Text → List Token
  | [] => []
  | c :: r =>
    let (kind, text) := piece c r
    let rest := r.drop (text.length - 1)
    let later := tokens (start + Utf8.length text) rest
    match kind with
    | some kind => ⟨kind, text, start, rest⟩ :: later
    | none => later
termination_by t => t.length
decreasing_by
  simp only [List.length_drop, List.length_cons]
  omega

end ScriptReplay.Sql
