import ScriptReplay.Text.Blank

namespace ScriptReplay.Text

def unifyBreaks : Text → Text
  | [] => []
  | '\r' :: '\n' :: r => '\n' :: unifyBreaks r
  | '\r' :: r => '\n' :: unifyBreaks r
  | c :: r => c :: unifyBreaks r

def lines : Text → List Text
  | [] => []
  | c :: r =>
    if c = '\n' then [] :: lines r
    else
      match lines r with
      | [] => [[c]]
      | l :: ls => (c :: l) :: ls

def joinLines : List Text → Text
  | [] => []
  | [l] => l
  | l :: m :: ls => l ++ '\n' :: joinLines (m :: ls)

theorem return_not_mem_unifyBreaks (t : Text) : '\r' ∉ unifyBreaks t := by
  fun_induction unifyBreaks t with
  | case1 => simp
  | case2 r ih => simp [ih]
  | case3 r _ ih => simp [ih]
  | case4 c r _ hc ih => simp only [List.mem_cons, not_or]; exact ⟨fun h => hc h.symm, ih⟩

theorem unifyBreaks_eq_self {t : Text} (h : '\r' ∉ t) : unifyBreaks t = t := by
  fun_induction unifyBreaks t with
  | case1 => rfl
  | case2 r ih => simp at h
  | case3 r _ ih => simp at h
  | case4 c r _ hc ih =>
    simp only [List.mem_cons, not_or] at h
    rw [ih h.2]

theorem joinLines_cons_cons (c : Char) (l : Text) (ls : List Text) :
    joinLines ((c :: l) :: ls) = c :: joinLines (l :: ls) := by
  cases ls <;> rfl

theorem joinLines_lines_sublist (t : Text) : (joinLines (lines t)).Sublist t := by
  induction t with
  | nil => simp [lines, joinLines]
  | cons c r ih =>
    by_cases hc : c = '\n'
    · subst hc
      simp only [lines, if_true]
      cases hl : lines r with
      | nil => simp [joinLines]
      | cons m ls =>
        rw [hl] at ih
        simpa [joinLines] using ih
    · simp only [lines, hc, if_false]
      cases hl : lines r with
      | nil => simp [joinLines]
      | cons m ls =>
        rw [hl] at ih
        rw [joinLines_cons_cons]
        exact ih.cons_cons c

theorem joinLines_map_sublist {f : Text → Text} (hf : ∀ l, (f l).Sublist l) (ls : List Text) :
    (joinLines (ls.map f)).Sublist (joinLines ls) := by
  induction ls with
  | nil => simp [joinLines]
  | cons l ls ih =>
    cases ls with
    | nil => simpa [joinLines] using hf l
    | cons m ls =>
      simp only [List.map_cons, joinLines] at ih ⊢
      exact (hf l).append (ih.cons_cons '\n')

end ScriptReplay.Text
