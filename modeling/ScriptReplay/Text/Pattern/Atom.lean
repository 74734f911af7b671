import ScriptReplay.Text.Hex
import ScriptReplay.Text.Numeral

namespace ScriptReplay.Text.Pattern

structure Flags where
  areWhole : Bool
  areCaseless : Bool
  areSpaced : Bool
  deriving DecidableEq, Repr

def skipped (inComment : Bool) : Text → Text
  | [] => []
  | c :: r =>
    if inComment then skipped (c ≠ '\n') r
    else if c = '#' then skipped true r
    else if isBlank c then skipped false r
    else c :: r

namespace Flags

def skip (f : Flags) (t : Text) : Text :=
  if f.areSpaced then skipped false t else t

def ahead? (f : Flags) (t : Text) : Option Char :=
  if f.areSpaced then
    match t.dropWhile isBlank with
    | '#' :: r => (r.dropWhile isBlank).head?
    | t => t.head?
  else t.head?

def set (f : Flags) (given : Text) : Flags :=
  let on := given.takeWhile (· ≠ '-')
  let after (c : Char) (before : Bool) : Bool := if c ∈ given then decide (c ∈ on) else before
  ⟨after 'u' f.areWhole, after 'i' f.areCaseless, after 'x' f.areSpaced⟩

end Flags

def givenFlags (seen : Text) : Text → Option (Text × Char × Text)
  | [] => none
  | c :: r =>
    if c = ':' ∨ c = ')' then
      if seen.getLast? = some '-' then none else some (seen, c, r)
    else if c ∈ seen ∨ c ∉ "imsUuxR-".toList then none
    else givenFlags (seen ++ [c]) r

def givenName (begun : Text) : Text → Option (Text × Text)
  | [] => none
  | c :: r =>
    if c = '>' then
      if begun = [] then none else some (begun, r)
    else if c = '_' ∨ isAlphabetic c ∨ begun ≠ [] ∧ (isNumeral c ∨ c ∈ ['.', '[', ']']) then
      givenName (begun ++ [c]) r
    else none

inductive Atom where
  | literal (c : Char) (isByte : Bool)
  | anyChar
  | place (isWordEdge : Bool)
  | shorthand (isNegated : Bool)
  deriving DecidableEq, Repr

namespace Atom

def controls : List (Char × Char) :=
  [('a', '\x07'), ('f', '\x0c'), ('t', '\t'), ('n', '\n'), ('r', '\r'), ('v', '\x0b')]

def codeLengths : List (Char × Nat) :=
  [('x', 2), ('u', 4), ('U', 8)]

def coded (f : Flags) (isByte : Bool) : Nat → Nat → Text → Option (Atom × Text)
  | 0, value, t =>
    if value.isValidChar then some (literal (.ofNat value) isByte, t) else none
  | left + 1, value, c :: r =>
    match hexValue? c with
    | some digit => coded f isByte left (value * 16 + digit) (f.skip r)
    | none => none
  | _ + 1, _, [] => none

def escaped (f : Flags) : Text → Option (Atom × Text)
  | [] => none
  | c :: r =>
    match controls.lookup c, codeLengths.lookup c with
    | some meant, _ => some (literal meant false, r)
    | none, some digits => coded f (c == 'x') digits 0 (f.skip r)
    | none, none =>
      if c ∈ ['A', 'z'] then some (place false, r)
      else if c ∈ ['b', 'B', '<', '>'] then some (place true, r)
      else if c ∈ ['d', 's', 'w'] then some (shorthand false, r)
      else if c ∈ ['D', 'S', 'W'] then some (shorthand true, r)
      else if c.toNat < 0x80 ∧ !c.isAlphanum then some (literal c false, r)
      else none

def ofItem (f : Flags) : Text → Option (Atom × Text)
  | [] => none
  | c :: r => if c = '\\' then escaped f r else some (literal c false, r)

def ofText (f : Flags) : Text → Option (Atom × Text)
  | '.' :: r => some (anyChar, r)
  | '^' :: r | '$' :: r => some (place false, r)
  | t => ofItem f t

def isKnown (f : Flags) : Atom → Bool
  | literal c isByte => if f.areWhole then !f.areCaseless else !(isByte && 0x80 ≤ c.toNat)
  | anyChar => f.areWhole
  | place isWordEdge => !(isWordEdge && f.areWhole)
  | shorthand isNegated => !f.areWhole && !isNegated

def isItem (f : Flags) : Atom → Bool
  | literal c _ => if f.areWhole then !f.areCaseless else c.toNat < 0x80
  | shorthand isNegated => !f.areWhole && !isNegated
  | _ => false

def isRange (f : Flags) : Atom → Atom → Bool
  | literal first x, literal last y =>
    isItem f (literal first x) && isItem f (literal last y) && first ≤ last
  | _, _ => false

end Atom

def classNames : List String :=
  ["alnum", "alpha", "ascii", "blank", "cntrl", "digit", "graph", "lower", "print", "punct",
    "space", "upper", "word", "xdigit"]

def namedClass? : Text → Option (Bool × Text)
  | ':' :: r =>
    let isNegated := r.head? == some '^'
    let r := if isNegated then r.tail else r
    let name := r.takeWhile (· ≠ ':')
    match r.drop name.length with
    | ':' :: ']' :: r => if classNames.any (·.toList == name) then some (isNegated, r) else none
    | _ => none
  | _ => none

end ScriptReplay.Text.Pattern
