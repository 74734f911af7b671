import ScriptReplay.Text.Blank

namespace ScriptReplay.Text

def breakOn (sep : Text) : Text → Option (Text × Text)
  | [] => none
  | c :: r =>
    if sep ≠ [] ∧ sep.isPrefixOf (c :: r) then some ([], (c :: r).drop sep.length)
    else (breakOn sep r).map fun p => (c :: p.1, p.2)

def breakOnLast (sep : Text) : Text → Option (Text × Text)
  | [] => none
  | c :: r =>
    match breakOnLast sep r with
    | some p => some (c :: p.1, p.2)
    | none =>
      if sep ≠ [] ∧ sep.isPrefixOf (c :: r) then some ([], (c :: r).drop sep.length) else none

theorem eq_append_of_isPrefixOf {s t : Text} (h : s.isPrefixOf t) : t = s ++ t.drop s.length := by
  obtain ⟨r, rfl⟩ := List.isPrefixOf_iff_prefix.1 h
  simp

theorem breakOn_eq_some {sep t a b : Text} (h : breakOn sep t = some (a, b)) :
    sep ≠ [] ∧ t = a ++ sep ++ b := by
  induction t generalizing a with
  | nil => simp [breakOn] at h
  | cons c r ih =>
    rw [breakOn] at h
    split at h
    · rename_i hp
      cases h
      exact ⟨hp.1, by simpa using eq_append_of_isPrefixOf hp.2⟩
    · simp only [Option.map_eq_some_iff] at h
      obtain ⟨⟨a', b'⟩, hr, he⟩ := h
      cases he
      obtain ⟨hne, ht⟩ := ih hr
      exact ⟨hne, by simp [ht]⟩

theorem length_of_breakOn {sep t a b : Text} (h : breakOn sep t = some (a, b)) :
    a.length + sep.length + b.length = t.length ∧ 0 < sep.length := by
  obtain ⟨hne, rfl⟩ := breakOn_eq_some h
  exact ⟨by simp only [List.length_append], List.length_pos_iff.2 hne⟩

def contains (sep t : Text) : Bool :=
  (breakOn sep t).isSome

def pieces (sep t : Text) : List Text :=
  match _h : breakOn sep t with
  | none => [t]
  | some (a, b) => a :: pieces sep b
termination_by t.length
decreasing_by
  have := length_of_breakOn ‹_›
  omega

end ScriptReplay.Text
