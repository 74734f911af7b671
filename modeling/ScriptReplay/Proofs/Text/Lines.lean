import ScriptReplay.Proofs.Text.Trim
import ScriptReplay.Text.Lines

namespace ScriptReplay.Text

def terminated (ls : List Text) : Text :=
  ls.flatMap (· ++ ['\n'])

theorem terminated_cons (l : Text) (ls : List Text) :
    terminated (l :: ls) = l ++ ['\n'] ++ terminated ls :=
  List.flatMap_cons

theorem terminated_concat (ls : List Text) (l : Text) :
    terminated (ls ++ [l]) = terminated ls ++ l ++ ['\n'] := by
  rw [terminated, terminated, List.flatMap_append, List.flatMap_singleton, List.append_assoc]

theorem terminated_lines (t : Text) :
    terminated (lines t) = t ∨ terminated (lines t) = t ++ ['\n'] := by
  induction t with
  | nil => exact .inl rfl
  | cons c r ih =>
    by_cases hc : c = '\n'
    · have hl : terminated (lines (c :: r)) = c :: terminated (lines r) := by
        rw [lines, if_pos hc, terminated_cons, hc]
        rfl
      rw [hl]
      rcases ih with h | h
      · exact .inl (by rw [h])
      · exact .inr (by rw [h]; rfl)
    · rw [lines, if_neg hc]
      cases hr : lines r with
      | nil =>
        rw [hr] at ih
        have hr0 : r = [] := by
          rcases ih with h | h
          · exact h.symm
          · exact absurd h.symm (List.append_ne_nil_of_right_ne_nil _ (List.cons_ne_nil _ _))
        right
        rw [hr0]
        rfl
      | cons l ls =>
        have hl : terminated ((c :: l) :: ls) = c :: terminated (lines r) := by
          rw [hr, terminated_cons, terminated_cons]
          rfl
        rw [hl]
        rcases ih with h | h
        · exact .inl (by rw [h])
        · exact .inr (by rw [h]; rfl)

@[elab_as_elim]
theorem line_induction {P : Text → Prop} (last : ∀ l, '\n' ∉ l → P l)
    (line : ∀ l r, '\n' ∉ l → P r → P (l ++ '\n' :: r)) (t : Text) : P t := by
  by_cases h : '\n' ∈ t
  · obtain ⟨l, r, ht, hl⟩ := List.eq_append_cons_of_mem h
    have hr : r.length < t.length := by
      rw [ht, List.length_append, List.length_cons]
      omega
    rw [ht]
    exact line l r hl (line_induction last line r)
  · exact last t h
termination_by t.length

theorem rest_isSuffix (l r : Text) : r <:+ l ++ '\n' :: r :=
  (List.suffix_cons _ r).trans (List.suffix_append l _)

theorem all_ne_lineFeed {l : Text} (h : '\n' ∉ l) : ∀ c ∈ l, decide (c ≠ '\n') = true := by
  intro c hc
  apply decide_eq_true
  rintro rfl
  exact h hc

theorem lines_line_append {l : Text} (h : '\n' ∉ l) (r : Text) :
    lines (l ++ '\n' :: r) = l :: lines r := by
  induction l with
  | nil => simp [lines]
  | cons c l ih =>
    have hc : c ≠ '\n' := fun hc => h (by simp [hc])
    have hl : '\n' ∉ l := fun hl => h (List.mem_cons_of_mem c hl)
    simp only [List.cons_append, lines, ih hl, if_neg hc]

theorem lines_line {l : Text} (h : '\n' ∉ l) (hne : l ≠ []) : lines l = [l] := by
  induction l with
  | nil => exact absurd rfl hne
  | cons c l ih =>
    have hc : c ≠ '\n' := fun hc => h (by simp [hc])
    have hl : '\n' ∉ l := fun hl => h (List.mem_cons_of_mem c hl)
    by_cases hl0 : l = []
    · simp [hl0, lines, hc]
    · simp only [lines, ih hl hl0, if_neg hc]

theorem lines_ne_nil {t : Text} (h : t ≠ []) : lines t ≠ [] := by
  induction t using line_induction with
  | last l hl => simp [lines_line hl h]
  | line l r hl ih => simp [lines_line_append hl]

theorem headD_lines (t : Text) : (lines t).headD [] = t.takeWhile (· ≠ '\n') := by
  induction t using line_induction with
  | last l h =>
    rw [List.takeWhile_eq_self_iff.mpr (all_ne_lineFeed h)]
    by_cases hne : l = []
    · rw [hne]
      rfl
    · rw [lines_line h hne, List.headD_cons]
  | line l r h ih =>
    rw [lines_line_append h, List.headD_cons, List.takeWhile_append_of_pos (all_ne_lineFeed h)]
    simp

theorem lines_terminated {ls : List Text} (h : ∀ l ∈ ls, '\n' ∉ l) : lines (terminated ls) = ls := by
  induction ls with
  | nil => rfl
  | cons l ls ih =>
    rw [List.forall_mem_cons] at h
    rw [terminated_cons, List.append_assoc, List.singleton_append, lines_line_append h.1, ih h.2]

theorem mem_lines {l t : Text} (h : l ∈ lines t) : '\n' ∉ l ∧ l <:+: t := by
  induction t using line_induction with
  | last m hm =>
    by_cases hne : m = []
    · rw [hne] at h
      cases h
    · rw [lines_line hm hne, List.mem_singleton] at h
      rw [h]
      exact ⟨hm, List.infix_refl m⟩
  | line m r hm ih =>
    rw [lines_line_append hm] at h
    rcases List.mem_cons.mp h with rfl | h
    · exact ⟨hm, (List.prefix_append l _).isInfix⟩
    · obtain ⟨hl, hr⟩ := ih h
      exact ⟨hl, hr.trans (rest_isSuffix m r).isInfix⟩

theorem lines_lineFeed_ne_nil (t : Text) : lines (t ++ ['\n']) ≠ [] := by
  induction t using line_induction with
  | last l h => simp [lines_line_append h]
  | line l r h ih => simp [lines_line_append h]

theorem joinLines_cons {l : Text} {ls : List Text} (h : ls ≠ []) :
    joinLines (l :: ls) = l ++ '\n' :: joinLines ls := by
  obtain ⟨m, ms, rfl⟩ := List.exists_cons_of_ne_nil h
  rfl

theorem joinLines_lines_lineFeed (t : Text) : joinLines (lines (t ++ ['\n'])) = t := by
  induction t using line_induction with
  | last l h => simp [lines_line_append h, lines, joinLines]
  | line l r h ih =>
    rw [List.append_assoc, List.cons_append, lines_line_append h,
      joinLines_cons (lines_lineFeed_ne_nil r), ih]

theorem lines_lineFeed (t : Text) :
    t = [] ∨ lines (t ++ ['\n']) = lines t ∨ ∃ u, t = u ++ ['\n'] := by
  induction t using line_induction with
  | last l h =>
    by_cases hne : l = []
    · exact .inl hne
    · right
      left
      rw [lines_line_append h, lines_line h hne]
      rfl
  | line l r h ih =>
    right
    rcases ih with rfl | hr | ⟨u, rfl⟩
    · exact .inr ⟨l, rfl⟩
    · left
      rw [List.append_assoc, List.cons_append, lines_line_append h, lines_line_append h, hr]
    · exact .inr ⟨l ++ '\n' :: u, by simp⟩

theorem lines_append_lineFeed (t u : Text) :
    lines (t ++ '\n' :: u) = lines (t ++ ['\n']) ++ lines u := by
  induction t using line_induction with
  | last l h =>
    rw [lines_line_append h, lines_line_append h]
    rfl
  | line l r h ih =>
    rw [List.append_assoc, List.append_assoc, List.cons_append, List.cons_append,
      lines_line_append h, lines_line_append h, ih]
    rfl

theorem lines_lineFeed_cases (t : Text) :
    lines (t ++ ['\n']) = lines t ∨ lines (t ++ ['\n']) = lines t ++ [[]] := by
  rcases lines_lineFeed t with rfl | h | ⟨u, rfl⟩
  · exact .inr rfl
  · exact .inl h
  · right
    rw [List.append_assoc]
    exact lines_append_lineFeed u ['\n']

def Within (u t : Text) : Prop := ∀ k, '\n' ∉ k → k <:+: u → k <:+: t

theorem within_refl (t : Text) : Within t t := fun _ _ h => h

theorem within_trans {u v t : Text} (huv : Within u v) (hvt : Within v t) : Within u t :=
  fun k hk h => hvt k hk (huv k hk h)

theorem within_of_isInfix {u t : Text} (h : u <:+: t) : Within u t :=
  fun _ _ hk => hk.trans h

theorem infix_of_cut {k a b : Text} {c : Char} (hk : c ∉ k) (h : k <:+: a ++ c :: b) :
    k <:+: a ∨ k <:+: b := by
  obtain ⟨x, y, hxy⟩ := h
  rcases List.append_eq_append_iff.mp hxy with ⟨m, rfl, -⟩ | ⟨m, hm, hb⟩
  · exact .inl ⟨x, m, rfl⟩
  · rcases List.cons_eq_append_iff.mp hb with ⟨rfl, -⟩ | ⟨n, rfl, rfl⟩
    · rw [List.append_nil] at hm
      exact .inl ⟨x, [], by rw [List.append_nil, hm]⟩
    · right
      rcases List.append_eq_append_iff.mp hm with ⟨z, -, hz⟩ | ⟨z, rfl, hz⟩
      · exact absurd (by rw [hz]; simp) hk
      · rcases List.cons_eq_append_iff.mp hz with ⟨-, rfl⟩ | ⟨z', -, rfl⟩
        · exact absurd (by simp) hk
        · exact ⟨z', y, rfl⟩

theorem infix_of_joinLines {k : Text} (hne : k ≠ []) (hk : '\n' ∉ k) {ls : List Text}
    (h : k <:+: joinLines ls) : ∃ l ∈ ls, k <:+: l := by
  induction ls with
  | nil => exact absurd (List.infix_nil.mp h) hne
  | cons l ls ih =>
    by_cases hls : ls = []
    · rw [hls, joinLines] at h
      exact ⟨l, List.mem_cons_self, h⟩
    · rw [joinLines_cons hls] at h
      rcases infix_of_cut hk h with h | h
      · exact ⟨l, List.mem_cons_self, h⟩
      · obtain ⟨m, hm, hkm⟩ := ih h
        exact ⟨m, List.mem_cons_of_mem l hm, hkm⟩

theorem infix_of_append_free {k u v : Text} {c : Char} (hc : c ∉ v) (h : k ++ [c] <:+: u ++ v) :
    k ++ [c] <:+: u := by
  obtain ⟨x, y, hxy⟩ := h
  rcases List.append_eq_append_iff.mp hxy with ⟨m, rfl, -⟩ | ⟨m, hm, rfl⟩
  · exact ⟨x, m, rfl⟩
  · rcases List.eq_nil_or_concat m with rfl | ⟨m, d, rfl⟩
    · exact ⟨x, [], by rw [hm, List.append_nil, List.append_nil]⟩
    · rw [List.concat_eq_append, ← List.append_assoc, ← List.append_assoc] at hm
      have hcd := List.append_inj_right' hm rfl
      exact absurd (by simp [List.singleton_inj.mp hcd]) hc

theorem suffix_joinLines (ls : List Text) (l : Text) : l <:+ joinLines (ls ++ [l]) := by
  induction ls with
  | nil => exact List.suffix_refl l
  | cons m ls ih =>
    have hne : ls ++ [l] ≠ [] := by simp
    rw [List.cons_append, joinLines_cons hne]
    exact ih.trans (rest_isSuffix m _)

theorem lineFeed_not_ends {u t : Text} (hne : u ≠ []) (hu : '\n' ∉ u) (h : u <:+ t) :
    ¬ ['\n'] <:+ t := by
  intro hlast
  have hlen := List.length_pos_iff.mpr hne
  have hend : ['\n'] <:+ u := List.suffix_of_suffix_length_le hlast h hlen
  exact hu (hend.subset (List.mem_singleton_self _))

theorem mem_unifyBreaks {t : Text} {c : Char} (h : c ∈ unifyBreaks t) : c ∈ t ∨ c = '\n' := by
  fun_induction unifyBreaks t with
  | case1 => exact .inl h
  | case2 r ih | case3 r _ ih =>
    rcases List.mem_cons.mp h with rfl | h
    · exact .inr rfl
    · rcases ih h with h | h
      · left; simp [h]
      · exact .inr h
  | case4 d r _ hd ih =>
    rcases List.mem_cons.mp h with rfl | h
    · exact .inl List.mem_cons_self
    · rcases ih h with h | h
      · exact .inl (List.mem_cons_of_mem d h)
      · exact .inr h

theorem allBlank_unifyBreaks {t : Text} (h : AllBlank t) : AllBlank (unifyBreaks t) := by
  intro c hc
  rcases mem_unifyBreaks hc with hc | rfl
  · exact h c hc
  · rfl

theorem eq_nil_of_begins_line {k r : Text} (hk : '\n' ∉ k) (h : k <+: '\n' :: r) : k = [] := by
  rcases List.prefix_cons_iff.mp h with rfl | ⟨k', rfl, -⟩
  · rfl
  · exact absurd List.mem_cons_self hk

theorem begins_of_unifyBreaks {t k : Text} (hk : '\n' ∉ k) (h : k <+: unifyBreaks t) : k <+: t := by
  fun_induction unifyBreaks t generalizing k with
  | case1 => exact h
  | case2 r ih | case3 r _ ih =>
    rw [eq_nil_of_begins_line hk h]
    exact List.nil_prefix
  | case4 c r _ hc ih =>
    rcases List.prefix_cons_iff.mp h with rfl | ⟨k', rfl, hk'⟩
    · exact List.nil_prefix
    · have hrest : '\n' ∉ k' := fun hm => hk (List.mem_cons_of_mem c hm)
      exact List.cons_prefix_cons.mpr ⟨rfl, ih hrest hk'⟩

theorem unifyBreaks_append {t : Text} (h : ¬ ['\r'] <:+ t) (u : Text) :
    unifyBreaks (t ++ u) = unifyBreaks t ++ unifyBreaks u := by
  fun_induction unifyBreaks t with
  | case1 => rfl
  | case2 r ih =>
    have hr : ¬ ['\r'] <:+ r := fun hr => h (hr.trans (List.suffix_append ['\r', '\n'] r))
    rw [List.cons_append, List.cons_append, unifyBreaks, ih hr, List.cons_append]
  | case3 r hn ih =>
    cases r with
    | nil => exact absurd (List.suffix_refl _) h
    | cons c r =>
      have hr : ¬ ['\r'] <:+ c :: r := fun hr => h (hr.trans (List.suffix_cons '\r' _))
      have hc : c ≠ '\n' := fun hc => hn r (by rw [hc])
      rw [List.cons_append, List.cons_append, unifyBreaks, ← List.cons_append, ih hr,
        List.cons_append]
      intro r' hr'
      exact hc (List.cons.inj hr').1
  | case4 c r hn hc ih =>
    have hr : ¬ ['\r'] <:+ r := fun hr => h (hr.trans (List.suffix_cons c r))
    rw [List.cons_append, unifyBreaks, ih hr, List.cons_append]
    · intro r' hcr
      exact absurd hcr hc
    · exact hc

theorem unifyBreaks_lineFeed (t : Text) :
    ∃ x, unifyBreaks (t ++ ['\n']) = x ++ ['\n'] ∧
      (unifyBreaks t = x ∨ unifyBreaks t = x ++ ['\n']) := by
  fun_induction unifyBreaks t with
  | case1 => exact ⟨[], rfl, .inl rfl⟩
  | case2 r ih =>
    obtain ⟨x, hx, ht⟩ := ih
    refine ⟨'\n' :: x, by rw [List.cons_append, List.cons_append, unifyBreaks, hx]; rfl, ?_⟩
    exact ht.imp (congrArg _) (congrArg _)
  | case3 r hn ih =>
    cases r with
    | nil => exact ⟨[], rfl, .inr rfl⟩
    | cons c r =>
      obtain ⟨x, hx, ht⟩ := ih
      have hc : ∀ r', c :: (r ++ ['\n']) = '\n' :: r' → False :=
        fun r' hr' => hn r (by rw [(List.cons.inj hr').1])
      refine ⟨'\n' :: x, ?_, ht.imp (congrArg _) (congrArg _)⟩
      rw [List.cons_append, List.cons_append, unifyBreaks, ← List.cons_append, hx]
      · rfl
      · exact hc
  | case4 c r hn hc ih =>
    obtain ⟨x, hx, ht⟩ := ih
    refine ⟨c :: x, ?_, ht.imp (congrArg _) (congrArg _)⟩
    rw [List.cons_append, unifyBreaks, hx]
    · rfl
    · exact fun r' hcr => absurd hcr hc
    · exact hc

theorem lines_unifyBreaks_append (t u : Text) :
    ∃ gap, (gap = [] ∨ gap = [[]]) ∧
      lines (unifyBreaks (t ++ '\n' :: u)) =
        lines (unifyBreaks t) ++ gap ++ lines (unifyBreaks u) := by
  obtain ⟨x, hx, ht⟩ := unifyBreaks_lineFeed t
  have hend : ¬ ['\r'] <:+ t ++ ['\n'] := by
    rintro ⟨v, hv⟩
    exact absurd (List.append_inj_right' hv rfl) (by decide)
  have hcut : lines (unifyBreaks (t ++ '\n' :: u)) =
      lines (x ++ ['\n']) ++ lines (unifyBreaks u) := by
    rw [← List.singleton_append, ← List.append_assoc, unifyBreaks_append hend, hx, List.append_assoc]
    exact lines_append_lineFeed x _
  rcases ht with ht | ht
  · rcases lines_lineFeed_cases x with h | h
    · exact ⟨[], .inl rfl, by rw [hcut, h, ht, List.append_nil]⟩
    · exact ⟨[[]], .inr rfl, by rw [hcut, h, ht]⟩
  · exact ⟨[], .inl rfl, by rw [hcut, ht, List.append_nil]⟩

theorem ends_of_unifyBreaks {t : Text} {c : Char} (hc : c ≠ '\n') (h : [c] <:+ unifyBreaks t) :
    [c] <:+ t := by
  fun_induction unifyBreaks t with
  | case1 => exact h
  | case2 r ih =>
    rcases List.suffix_cons_iff.mp h with heq | h
    · exact absurd (List.cons.inj heq).1 hc
    · exact (ih h).trans (List.suffix_append ['\r', '\n'] r)
  | case3 r _ ih =>
    rcases List.suffix_cons_iff.mp h with heq | h
    · exact absurd (List.cons.inj heq).1 hc
    · exact (ih h).trans (List.suffix_cons '\r' r)
  | case4 d r _ _ ih =>
    rcases List.suffix_cons_iff.mp h with heq | h
    · obtain ⟨rfl, hr⟩ := List.cons.inj heq
      have hr0 : r = [] := by
        unfold unifyBreaks at hr
        split at hr
        · rfl
        all_goals cases hr
      subst hr0
      exact List.suffix_refl _
    · exact (ih h).trans (List.suffix_cons d r)

theorem infix_of_lineFeed {k r : Text} (hk : '\n' ∉ k) (h : k <:+: '\n' :: r) : k <:+: r := by
  rcases infix_of_cut (a := []) hk h with h | h
  · rw [List.infix_nil.mp h]
    exact List.nil_infix
  · exact h

theorem within_unifyBreaks (t : Text) : Within (unifyBreaks t) t := by
  intro k hk h
  fun_induction unifyBreaks t with
  | case1 => exact h
  | case2 r ih => exact List.infix_cons (List.infix_cons (ih (infix_of_lineFeed hk h)))
  | case3 r _ ih => exact List.infix_cons (ih (infix_of_lineFeed hk h))
  | case4 c r hr hc ih =>
    rcases List.infix_cons_iff.mp h with h | h
    · rcases List.prefix_cons_iff.mp h with rfl | ⟨k', rfl, hk'⟩
      · exact List.nil_infix
      · have hrest : '\n' ∉ k' := fun hm => hk (List.mem_cons_of_mem c hm)
        exact (List.cons_prefix_cons.mpr ⟨rfl, begins_of_unifyBreaks hrest hk'⟩).isInfix
    · exact List.infix_cons (ih h)

end ScriptReplay.Text
