import Mathlib.Data.List.TakeWhile
import ScriptReplay.Json.Reader

namespace ScriptReplay

namespace Text

theorem hexValue?_hexDigit : ∀ k < 16, hexValue? (hexDigit k) = some k := by
  decide

end Text

namespace Json

open Text (hexDigit hexValue? hexValue?_hexDigit)

inductive Written (c : Char) : Text → Prop
  | plain (quote : c ≠ '"') (backslash : c ≠ '\\') (control : ¬ c.toNat < 0x20) : Written c [c]
  | letter (e : Char) (ne : e ≠ 'u') (reads : escaped? e = some c) : Written c ['\\', e]
  | unit (w x y z : Char) (reads : unit? w x y z = some c.toNat) (control : c.toNat < 0x20) :
    Written c ['\\', 'u', w, x, y, z]

theorem written_escapeChar (c : Char) : Written c (escapeChar c) := by
  unfold escapeChar
  split
  case isTrue h => exact h ▸ .letter '"' (by decide) rfl
  split
  case isTrue h => exact h ▸ .letter '\\' (by decide) rfl
  split
  case isTrue h => exact h ▸ .letter 'b' (by decide) rfl
  split
  case isTrue h => exact h ▸ .letter 'f' (by decide) rfl
  split
  case isTrue h => exact h ▸ .letter 'n' (by decide) rfl
  split
  case isTrue h => exact h ▸ .letter 'r' (by decide) rfl
  split
  case isTrue h => exact h ▸ .letter 't' (by decide) rfl
  split
  case isTrue h =>
    refine .unit '0' '0' _ _ ?_ h
    have hzero : hexValue? '0' = some 0 := by decide
    simp only [unit?, hzero, hexValue?_hexDigit _ (show c.toNat / 16 < 16 by omega),
      hexValue?_hexDigit _ (show c.toNat % 16 < 16 by omega), Option.some.injEq]
    omega
  case isFalse hquote hbackslash _ _ _ _ _ hcontrol => exact .plain hquote hbackslash hcontrol

inductive Piece : Text → Prop
  | plain {c : Char} (quote : c ≠ '"') (backslash : c ≠ '\\') (control : ¬ c.toNat < 0x20) :
    Piece [c]
  | letter {e : Char} (ne : e ≠ 'u') (reads : (escaped? e).isSome = true) : Piece ['\\', e]
  | unit {w x y z : Char} (reads : (unit? w x y z).isSome = true) : Piece ['\\', 'u', w, x, y, z]

theorem cutString_piece {piece : Text} (h : Piece piece) (r : Text) :
    cutString (piece ++ r) = putBefore piece (cutString r) := by
  cases h with
  | plain hquote hbackslash hcontrol =>
    rw [List.singleton_append, cutString.eq_def]
    simp only [if_neg hquote, if_neg hbackslash, if_neg hcontrol]
  | letter hne hreads =>
    rw [List.cons_append, List.singleton_append, cutString.eq_def]
    simp only [if_neg (show '\\' ≠ '"' by decide), if_true, if_neg hne, hreads]
  | unit hreads =>
    rw [cutString.eq_def]
    simp only [List.cons_append, List.nil_append, if_neg (show '\\' ≠ '"' by decide), if_true,
      hreads]

theorem Written.piece {c : Char} {written : Text} (h : Written c written) : Piece written := by
  cases h with
  | plain hquote hbackslash hcontrol => exact .plain hquote hbackslash hcontrol
  | letter e hne hreads => exact .letter hne (by simp [hreads])
  | unit w x y z hreads hcontrol => exact .unit (by simp [hreads])

theorem unescape_written {c : Char} {written : Text} (h : Written c written) (r : Text) :
    unescape (written ++ r) = (unescape r).map (c :: ·) := by
  cases h with
  | plain hquote hbackslash hcontrol =>
    rw [List.singleton_append, unescape.eq_def]
    simp only [if_neg hbackslash]
  | letter e hne hreads =>
    rw [List.cons_append, List.singleton_append, unescape.eq_def]
    simp only [if_true, if_neg hne, hreads]
  | unit w x y z hreads hcontrol =>
    have hwhole : isTrailing c.toNat = false ∧ isLeading c.toNat = false := by
      simp only [isTrailing, isLeading, Bool.and_eq_false_iff, decide_eq_false_iff_not]
      omega
    rw [unescape.eq_def]
    simp only [List.cons_append, List.nil_append, if_true, hreads, hwhole.1, hwhole.2,
      Char.ofNat_toNat]
    rfl

theorem cutString_escape (t r : Text) :
    cutString (escape t ++ '"' :: r) = some (escape t, r) := by
  induction t with
  | nil => rw [escape, List.flatMap_nil, List.nil_append, cutString.eq_def]; rfl
  | cons c t ih =>
    rw [escape, List.flatMap_cons, List.append_assoc, cutString_piece (written_escapeChar c).piece,
      ← escape, ih]
    rfl

theorem unescape_escape (t : Text) : unescape (escape t) = some t := by
  induction t with
  | nil => rfl
  | cons c t ih =>
    rw [escape, List.flatMap_cons, unescape_written (written_escapeChar c), ← escape, ih]
    rfl

theorem head?_toDigits_small : ∀ n < 10, 0 < n → (Nat.toDigits 10 n).head? ≠ some '0' := by
  decide

theorem head?_toDigits {n : Nat} (h : 0 < n) : (Nat.toDigits 10 n).head? ≠ some '0' := by
  induction n using Nat.strong_induction_on with
  | _ n ih =>
    by_cases hn : n < 10
    · exact head?_toDigits_small n hn h
    · have hfirst := ih (n / 10) (by omega) (by omega)
      rw [Nat.toDigits_of_base_le (by decide) (by omega), List.head?_append]
      cases hhead : (Nat.toDigits 10 (n / 10)).head? with
      | none => exact absurd (List.head?_eq_none_iff.mp hhead) Nat.toDigits_ne_nil
      | some c =>
        rw [hhead] at hfirst
        exact hfirst

theorem isNumber_of_digits {w : Text} (hne : w ≠ []) (hdigits : ∀ c ∈ w, c.isDigit = true)
    (hzero : w.head? = some '0' → w.length = 1) : isNumber w = true := by
  have hwhole : w.takeWhile Char.isDigit = w := List.takeWhile_eq_self_iff.mpr hdigits
  have hleading : (w.head? != some '0' || w.length == 1) = true := by
    by_cases h : w.head? = some '0'
    · simp [hzero h]
    · simp [h]
  unfold isNumber
  split
  · have := hdigits '-' List.mem_cons_self
    contradiction
  · dsimp only
    rw [hwhole, List.drop_length, hleading, decide_eq_true hne]
    rfl

theorem isNumber_toDigits (n : Nat) : isNumber (Nat.toDigits 10 n) = true := by
  refine isNumber_of_digits Nat.toDigits_ne_nil (fun c hc => ?_) fun hzero => ?_
  · exact Nat.isDigit_of_mem_toDigits (by decide) (by decide) hc
  · rcases Nat.eq_zero_or_pos n with rfl | hpos
    · rfl
    · exact absurd hzero (head?_toDigits hpos)

end Json

end ScriptReplay
