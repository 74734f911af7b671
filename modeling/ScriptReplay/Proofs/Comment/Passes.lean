import ScriptReplay.Proofs.Comment.Settling

namespace ScriptReplay.Comment

open Text

/-- Passes follow one another until one changes nothing: `n` of them, that one included, lead from
the first text to the second. -/
inductive Passes : Text → Nat → Text → Prop
  | last {t : Text} (h : pass t = t) : Passes t 1 t
  | next {t u : Text} {n : Nat} (h : pass t ≠ t) (rest : Passes (pass t) n u) : Passes t (n + 1) u

theorem length_unifyBreaks_le (t : Text) : (unifyBreaks t).length ≤ t.length := by
  fun_induction unifyBreaks t with
  | case1 => exact Nat.le_refl _
  | case2 r ih =>
    simp only [List.length_cons]
    omega
  | case3 r _ ih =>
    simp only [List.length_cons]
    omega
  | case4 c r _ _ ih =>
    simp only [List.length_cons]
    omega

theorem length_pass_le (t : Text) : (pass t).length ≤ t.length :=
  (pass_sublist t).length_le.trans (length_unifyBreaks_le t)

theorem pass_eq_or_shorter {t : Text} (clean : '\r' ∉ t) :
    pass t = t ∨ (pass t).length < t.length := by
  by_cases h : pass t = t
  · exact .inl h
  · exact .inr (length_pass_lt clean h)

theorem passes_settle (t : Text) (clean : '\r' ∉ t) :
    ∃ n ≤ t.length + 1, Passes t n (settle t clean) := by
  fun_induction settle t clean with
  | case1 t clean h => exact ⟨1, by omega, .last h⟩
  | case2 t clean h ih =>
    obtain ⟨n, hn, hpasses⟩ := ih
    -- The pass counted here has taken a character away, so the bound goes down with it.
    have hshorter := length_pass_lt clean h
    exact ⟨n + 1, by omega, .next h hpasses⟩

/-- The removal of comments comes to an end: what a block takes away has four characters at least, a
pass on a text without carriage returns changes nothing or shortens it, and the first pass is
followed by no more passes than it leaves characters, and one. -/
theorem strip_terminates (t : Text) :
    (∀ u, dropFirstBlock t = some u →
        u.length + 4 ≤ t.length ∧ dropBlockComments t = dropBlockComments u) ∧
      '\r' ∉ pass t ∧ (pass t).length ≤ t.length ∧
      ('\r' ∉ t → pass t = t ∨ (pass t).length < t.length) ∧
      ∃ n ≤ (pass t).length + 1, Passes (pass t) n (strip t) := by
  refine ⟨fun u h => ⟨length_dropFirstBlock h, dropBlockComments_of_some h⟩, ?_⟩
  refine ⟨return_not_mem_pass t, length_pass_le t, pass_eq_or_shorter, ?_⟩
  exact passes_settle (pass t) (return_not_mem_pass t)

end ScriptReplay.Comment
