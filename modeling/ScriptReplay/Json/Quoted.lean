import ScriptReplay.Text.Blank
import ScriptReplay.Text.Hex

namespace ScriptReplay.Json

open Text (hexDigit hexValue?)

def unit? (a b c d : Char) : Option Nat :=
  match hexValue? a, hexValue? b, hexValue? c, hexValue? d with
  | some a, some b, some c, some d => some (((a * 16 + b) * 16 + c) * 16 + d)
  | _, _, _, _ => none

def escapeChar (c : Char) : Text :=
  if c = '"' then ['\\', '"']
  else if c = '\\' then ['\\', '\\']
  else if c = '\x08' then ['\\', 'b']
  else if c = '\x0c' then ['\\', 'f']
  else if c = '\n' then ['\\', 'n']
  else if c = '\r' then ['\\', 'r']
  else if c = '\t' then ['\\', 't']
  else if c.toNat < 0x20 then
    ['\\', 'u', '0', '0', hexDigit (c.toNat / 16), hexDigit (c.toNat % 16)]
  else [c]

def escape (t : Text) : Text :=
  t.flatMap escapeChar

def escaped? (c : Char) : Option Char :=
  match c with
  | '"' => some '"'
  | '\\' => some '\\'
  | '/' => some '/'
  | 'b' => some '\x08'
  | 'f' => some '\x0c'
  | 'n' => some '\n'
  | 'r' => some '\r'
  | 't' => some '\t'
  | _ => none

def putBefore (front : Text) (cut : Option (Text × Text)) : Option (Text × Text) :=
  cut.map fun p => (front ++ p.1, p.2)

def cutString : Text → Option (Text × Text)
  | [] => none
  | c :: r =>
    if c = '"' then some ([], r)
    else if c = '\\' then
      match r with
      | [] => none
      | e :: s =>
        if e = 'u' then
          match s with
          | w :: x :: y :: z :: u =>
            if (unit? w x y z).isSome then putBefore ['\\', 'u', w, x, y, z] (cutString u)
            else none
          | _ => none
        else if (escaped? e).isSome then putBefore ['\\', e] (cutString s)
        else none
    else if c.toNat < 0x20 then none
    else putBefore [c] (cutString r)

theorem putBefore_eq_some {front raw rest : Text} {cut : Option (Text × Text)}
    (h : putBefore front cut = some (raw, rest)) :
    ∃ later, cut = some (later, rest) ∧ raw = front ++ later := by
  simp only [putBefore, Option.map_eq_some_iff, Prod.mk.injEq] at h
  obtain ⟨⟨later, _⟩, rfl, rfl, rfl⟩ := h
  exact ⟨later, rfl, rfl⟩

theorem length_cutString {t raw rest : Text} (h : cutString t = some (raw, rest)) :
    rest.length < t.length := by
  fun_induction cutString t generalizing raw with
  | case1 => simp at h
  | case2 r => cases h; simp
  | case3 => simp at h
  | case4 w x y z u =>
    rename_i ih
    obtain ⟨later, hl, _⟩ := putBefore_eq_some h
    have := ih hl
    simp only [List.length_cons]
    omega
  | case5 => simp at h
  | case6 => simp at h
  | case7 =>
    rename_i ih
    obtain ⟨later, hl, _⟩ := putBefore_eq_some h
    have := ih hl
    simp only [List.length_cons]
    omega
  | case8 => simp at h
  | case9 => simp at h
  | case10 =>
    rename_i ih
    obtain ⟨later, hl, _⟩ := putBefore_eq_some h
    have := ih hl
    simp only [List.length_cons]
    omega

def isLeading (n : Nat) : Bool :=
  0xD800 ≤ n && n ≤ 0xDBFF

def isTrailing (n : Nat) : Bool :=
  0xDC00 ≤ n && n ≤ 0xDFFF

def unescape : Text → Option Text
  | [] => some []
  | c :: r =>
    if c = '\\' then
      match r with
      | [] => none
      | e :: s =>
        if e = 'u' then
          match s with
          | w :: x :: y :: z :: u =>
            match unit? w x y z with
            | none => none
            | some n =>
              if isTrailing n then none
              else if isLeading n then
                match u with
                | '\\' :: 'u' :: w :: x :: y :: z :: v =>
                  match unit? w x y z with
                  | none => none
                  | some m =>
                    if isTrailing m then
                      (unescape v).map
                        (Char.ofNat (0x10000 + (n - 0xD800) * 0x400 + (m - 0xDC00)) :: ·)
                    else none
                | _ => none
              else (unescape u).map (Char.ofNat n :: ·)
          | _ => none
        else
          match escaped? e with
          | some d => (unescape s).map (d :: ·)
          | none => none
    else (unescape r).map (c :: ·)

end ScriptReplay.Json
