import ScriptReplay.Json.Basic

namespace ScriptReplay.Json

inductive Token where
  | openList
  | closeList
  | openObject
  | closeObject
  | comma
  | colon
  | value (v : Json)
  deriving Repr

def isSpace (c : Char) : Bool :=
  c == ' ' || c == '\t' || c == '\n' || c == '\r'

def isNumberChar (c : Char) : Bool :=
  c.isDigit || c == '-' || c == '+' || c == '.' || c == 'e' || c == 'E'

def afterSign (t : Text) : Text :=
  match t with
  | c :: r => if c = '-' ∨ c = '+' then r else t
  | [] => []

def isDigits (t : Text) : Bool :=
  t ≠ [] && t.all Char.isDigit

def isExponent : Text → Bool
  | [] => true
  | c :: r => (c == 'e' || c == 'E') && isDigits (afterSign r)

def isNumberTail : Text → Bool
  | '.' :: r =>
    let digits := r.takeWhile Char.isDigit
    digits ≠ [] && isExponent (r.drop digits.length)
  | t => isExponent t

def isNumber (t : Text) : Bool :=
  let magnitude := match t with
    | '-' :: r => r
    | _ => t
  let whole := magnitude.takeWhile Char.isDigit
  whole ≠ [] && (whole.head? != some '0' || whole.length == 1) &&
    isNumberTail (magnitude.drop whole.length)

def sign? (c : Char) : Option Token :=
  match c with
  | '[' => some .openList
  | ']' => some .closeList
  | '{' => some .openObject
  | '}' => some .closeObject
  | ',' => some .comma
  | ':' => some .colon
  | _ => none

def word? (t : Text) : Option (Json × Text) :=
  match t with
  | 'n' :: 'u' :: 'l' :: 'l' :: r => some (.null, r)
  | 't' :: 'r' :: 'u' :: 'e' :: r => some (.bool true, r)
  | 'f' :: 'a' :: 'l' :: 's' :: 'e' :: r => some (.bool false, r)
  | _ => none

def token? : Text → Option (Token × Text)
  | [] => none
  | c :: r =>
    if c = '"' then (cutString r).map fun p => (.value (.string p.1), p.2)
    else if isNumberChar c then
      if isNumber (c :: r.takeWhile isNumberChar) then
        some (.value (.number (c :: r.takeWhile isNumberChar)), r.dropWhile isNumberChar)
      else none
    else
      match sign? c with
      | some s => some (s, r)
      | none => (word? (c :: r)).map fun p => (.value p.1, p.2)

theorem length_word? {t rest : Text} {v : Json} (h : word? t = some (v, rest)) :
    rest.length < t.length := by
  unfold word? at h
  split at h
  · cases h; simp only [List.length_cons]; omega
  · cases h; simp only [List.length_cons]; omega
  · cases h; simp only [List.length_cons]; omega
  · simp at h

theorem length_token? {t rest : Text} {k : Token} (h : token? t = some (k, rest)) :
    rest.length < t.length := by
  unfold token? at h
  split at h
  · simp at h
  · rename_i c r
    split at h
    · simp only [Option.map_eq_some_iff] at h
      obtain ⟨⟨a, b⟩, hr, he⟩ := h
      cases he
      have := length_cutString hr
      simp only [List.length_cons]
      omega
    · split at h
      · split at h
        · cases h
          have := (List.dropWhile_sublist isNumberChar (l := r)).length_le
          simp only [List.length_cons]
          omega
        · simp at h
      · split at h
        · cases h; simp
        · simp only [Option.map_eq_some_iff] at h
          obtain ⟨⟨a, b⟩, hr, he⟩ := h
          cases he
          exact length_word? hr

def tokens (t : Text) : Option (List Token) :=
  match t with
  | [] => some []
  | c :: r =>
    if isSpace c then tokens r
    else
      match _h : token? (c :: r) with
      | none => none
      | some (k, rest) => (tokens rest).map (k :: ·)
termination_by t.length
decreasing_by
  · simp
  · have := length_token? ‹_›
    exact this

inductive Frame where
  | list (items : List Json)
  | member (members : List (Text × Json)) (name : Text)
  deriving Repr

inductive State where
  | wantValue (stack : List Frame)
  | wantItem (stack : List Frame)
  | wantName (first : Bool) (members : List (Text × Json)) (stack : List Frame)
  | wantColon (members : List (Text × Json)) (name : Text) (stack : List Frame)
  | haveValue (v : Json) (stack : List Frame)
  deriving Repr

def beginValue (stack : List Frame) : Token → Option State
  | .value v => some (.haveValue v stack)
  | .openList => some (.wantItem stack)
  | .openObject => some (.wantName true [] stack)
  | _ => none

def State.step : State → Token → Option State
  | wantValue stack, k => beginValue stack k
  | wantItem stack, .closeList => some (haveValue (.list []) stack)
  | wantItem stack, k => beginValue (.list [] :: stack) k
  | wantName _ members stack, .value (.string name) => some (wantColon members name stack)
  | wantName true members stack, .closeObject => some (haveValue (.object members) stack)
  | wantColon members name stack, .colon => some (wantValue (.member members name :: stack))
  | haveValue v (.list items :: stack), .comma => some (wantValue (.list (items ++ [v]) :: stack))
  | haveValue v (.list items :: stack), .closeList =>
    some (haveValue (.list (items ++ [v])) stack)
  | haveValue v (.member members name :: stack), .comma =>
    some (wantName false (members ++ [(name, v)]) stack)
  | haveValue v (.member members name :: stack), .closeObject =>
    some (haveValue (.object (members ++ [(name, v)])) stack)
  | _, _ => none

def run (s : State) (ks : List Token) : Option State :=
  ks.foldlM State.step s

def read (t : Text) : Option Json :=
  match (tokens t).bind (run (.wantValue [])) with
  | some (.haveValue v []) => some v
  | _ => none

end ScriptReplay.Json
