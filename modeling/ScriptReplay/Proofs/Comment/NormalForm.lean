import ScriptReplay.Proofs.Comment.Settling

namespace ScriptReplay.Comment

open Text

def HasBlock (t : Text) : Prop :=
  ∃ a b, t = a ++ b ∧ opening <:+: a ∧ closing <:+: b

structure Normal (t : Text) : Prop where
  noReturn : '\r' ∉ t
  noLineMark : ¬ lineMark <:+: t
  noBlock : ¬ HasBlock t
  noLastLineFeed : ¬ ['\n'] <:+ t

theorem opening_of_hasBlock {t : Text} (h : HasBlock t) : opening <:+: t := by
  obtain ⟨a, b, rfl, ho, -⟩ := h
  exact ho.trans (List.prefix_append a b).isInfix

theorem hasBlock_append {u v : Text} (hu : opening <:+: u) (hv : closing <:+: v) :
    HasBlock (u ++ v) :=
  ⟨u, v, rfl, hu, hv⟩

theorem hasBlock_within {u t : Text} (hu : u <:+: t) (h : HasBlock u) : HasBlock t := by
  obtain ⟨a, b, rfl, ho, hc⟩ := h
  obtain ⟨x, y, rfl⟩ := hu
  refine ⟨x ++ a, b ++ y, by simp only [List.append_assoc], ?_, ?_⟩
  · exact ho.trans (List.suffix_append x a).isInfix
  · exact hc.trans (List.prefix_append b y).isInfix

theorem hasBlock_of_cut {u v : Text} {c : Char} (ho : c ∉ opening) (hc : c ∉ closing)
    (h : HasBlock (u ++ c :: v)) :
    HasBlock u ∨ HasBlock v ∨ (opening <:+: u ∧ closing <:+: v) := by
  obtain ⟨a, b, hab, hopen, hclose⟩ := h
  rcases List.append_eq_append_iff.mp hab with ⟨m, rfl, hv⟩ | ⟨m, rfl, rfl⟩
  · cases m with
    | nil =>
      rw [List.append_nil] at hopen
      rw [List.nil_append] at hv
      rw [← hv] at hclose
      rcases infix_of_cut (a := []) hc hclose with hnil | hclose
      · exact absurd (List.infix_nil.mp hnil) (by decide)
      · exact .inr (.inr ⟨hopen, hclose⟩)
    | cons d m =>
      obtain ⟨rfl, rfl⟩ := List.cons.inj hv
      rcases infix_of_cut ho hopen with hopen | hopen
      · exact .inr (.inr ⟨hopen, hclose.trans (List.suffix_append m b).isInfix⟩)
      · exact .inr (.inl (hasBlock_append hopen hclose))
  · rcases infix_of_cut hc hclose with hclose | hclose
    · exact .inl (hasBlock_append hopen hclose)
    · exact .inr (.inr ⟨hopen.trans (List.prefix_append a m).isInfix, hclose⟩)

theorem dropFirstBlock_eq_none_iff {t : Text} : dropFirstBlock t = none ↔ ¬ HasBlock t := by
  constructor
  · rintro h ⟨a, b, rfl, ho, hc⟩
    cases hb : breakOn opening a with
    | none => exact (breakOn_eq_none_iff (by decide)).mp hb ho
    | some p =>
      have hlong := breakOn_append_of_some (a := p.1) (b := p.2) hb b
      rw [dropFirstBlock, hlong] at h
      cases hq : breakOn closing (p.2 ++ b) with
      | none =>
        apply (breakOn_eq_none_iff (by decide)).mp hq
        exact hc.trans (List.suffix_append p.2 b).isInfix
      | some q =>
        simp only [hq] at h
        cases h
  · intro h
    cases hd : dropFirstBlock t with
    | none => rfl
    | some u =>
      obtain ⟨before, body, after, rfl, -⟩ := dropFirstBlock_eq_some hd
      exfalso
      apply h
      apply hasBlock_append
      · exact (List.suffix_append before opening).isInfix
      · exact ⟨body, after, rfl⟩

theorem length_dropBlockComments_lt {t : Text} (h : HasBlock t) :
    (dropBlockComments t).length < t.length := by
  cases hd : dropFirstBlock t with
  | none => exact absurd h (dropFirstBlock_eq_none_iff.mp hd)
  | some u =>
    have hu := length_dropFirstBlock hd
    have hle := (dropBlockComments_sublist u).length_le
    rw [dropBlockComments_of_some hd]
    omega

theorem uncommented_free (t : Text) : ¬ lineMark <:+: uncommented t := by
  induction t using line_induction with
  | last l h =>
    rw [uncommented_line h]
    exact codeOfLine_free l
  | line l r h ih =>
    rw [uncommented_line_append h]
    intro hi
    rcases infix_of_cut (by decide) hi with hi | hi
    · exact codeOfLine_free l hi
    · exact ih hi

theorem stages_of_pass_eq {t : Text} (hr : '\r' ∉ t) (h : pass t = t) :
    dropLineComments t = t ∧ dropBlockComments t = t := by
  have hline := dropLineComments_sublist t
  rw [unifyBreaks_eq_self hr] at hline
  have hblock := dropBlockComments_sublist (dropLineComments t)
  have hlines : dropLineComments t = t := by
    apply hline.eq_of_length_le
    calc t.length = (pass t).length := by rw [h]
      _ ≤ (dropLineComments t).length := hblock.length_le
  refine ⟨hlines, ?_⟩
  rwa [pass, hlines] at h

theorem normal_of_pass_eq {t : Text} (hr : '\r' ∉ t) (h : pass t = t) : Normal t := by
  obtain ⟨hline, hblock⟩ := stages_of_pass_eq hr h
  have hlast : ¬ ['\n'] <:+ t := by
    rintro ⟨u, rfl⟩
    have hu : '\r' ∉ u := fun hu => hr (List.mem_append_left _ hu)
    have hlen := (uncommented_sublist u).length_le
    rw [← dropLineComments_lineFeed hu, hline, List.length_append, List.length_singleton] at hlen
    omega
  refine ⟨hr, ?_, ?_, hlast⟩
  · rcases dropLineComments_eq hr with ht | ⟨u, hu⟩
    · rw [← hline, ht]
      exact uncommented_free t
    · exact absurd ⟨u, hu.symm⟩ hlast
  · intro hb
    have hlen := length_dropBlockComments_lt hb
    rw [hblock] at hlen
    exact Nat.lt_irrefl _ hlen

theorem pass_of_normal {t : Text} (h : Normal t) : pass t = t := by
  have hline : dropLineComments t = t := by
    rcases dropLineComments_eq h.noReturn with ht | ⟨u, rfl⟩
    · rw [ht, uncommented_of_free h.noLineMark]
    · exact absurd (List.suffix_append u _) h.noLastLineFeed
  rw [pass, hline]
  exact dropBlockComments_of_none (dropFirstBlock_eq_none_iff.mpr h.noBlock)

theorem pass_settle {t : Text} (clean : '\r' ∉ t) : pass (settle t clean) = settle t clean := by
  fun_induction settle t clean with
  | case1 t clean h => exact h
  | case2 t clean h ih => exact ih

theorem normal_strip (t : Text) : Normal (strip t) :=
  normal_of_pass_eq (return_not_mem_strip t) (pass_settle _)

theorem strip_of_normal {t : Text} (h : Normal t) : strip t = t := by
  rw [strip_eq_settle h.noReturn, settle, if_pos (pass_of_normal h)]

theorem strip_lineFeeds {t : Text} (h : '\r' ∉ t) (n : Nat) :
    strip (t ++ List.replicate n '\n') = strip t := by
  induction n with
  | zero => rw [List.replicate_zero, List.append_nil]
  | succ n ih =>
    have hn : '\r' ∉ t ++ List.replicate n '\n' := by simp [h]
    have hn' : '\r' ∉ t ++ List.replicate n '\n' ++ ['\n'] := by simp [h]
    rw [List.replicate_succ', ← List.append_assoc, strip_eq_settle hn', settle_lineFeed hn hn',
      ← strip_eq_settle hn, ih]

end ScriptReplay.Comment
