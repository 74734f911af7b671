import Mathlib.Data.List.Perm.Basic
import Mathlib.Data.List.Nodup

namespace ScriptReplay

variable {α β : Type} [BEq α] [LawfulBEq α]

theorem lookup_isSome_iff {l : List (α × β)} {a : α} : (l.lookup a).isSome ↔ a ∈ l.map (·.1) := by
  induction l with
  | nil => simp
  | cons x l ih =>
    rw [List.lookup_cons, List.map_cons, List.mem_cons, ← ih]
    cases h : a == x.1 with
    | true => simp [eq_of_beq h]
    | false => simp [beq_eq_false_iff_ne.mp h]

theorem lookup_perm {l l' : List (α × β)} (h : l'.Perm l) (hn : (l.map (·.1)).Nodup) (a : α) :
    l'.lookup a = l.lookup a := by
  induction h with
  | nil => rfl
  | cons x _ ih =>
    obtain ⟨-, hn⟩ := List.nodup_cons.mp hn
    rw [List.lookup_cons, List.lookup_cons, ih hn]
  | swap x y l =>
    simp only [List.map_cons, List.nodup_cons, List.mem_cons, not_or] at hn
    obtain ⟨⟨hne, -⟩, -⟩ := hn
    rw [List.lookup_cons, List.lookup_cons, List.lookup_cons, List.lookup_cons]
    by_cases hx : a = x.1
    · have hy : (a == y.1) = false := by simpa [hx] using hne
      rw [hy]
    · rw [beq_eq_false_iff_ne.mpr hx]
  | trans h₁ h₂ ih₁ ih₂ =>
    have hmid := (h₂.map (·.1)).nodup_iff.mpr hn
    rw [ih₁ hmid, ih₂ hn]

end ScriptReplay
