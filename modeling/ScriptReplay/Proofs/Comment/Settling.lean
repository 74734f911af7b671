import ScriptReplay.Proofs.Text.Lines
import ScriptReplay.Proofs.Text.Pieces
import ScriptReplay.Script.Comment

namespace ScriptReplay.Comment

open Text

theorem return_not_mem_settle (t : Text) (clean : '\r' ∉ t) : '\r' ∉ settle t clean := by
  fun_induction settle t clean with
  | case1 t clean h => exact clean
  | case2 t clean h ih => exact ih

theorem settle_sublist (t : Text) (clean : '\r' ∉ t) : (settle t clean).Sublist t := by
  fun_induction settle t clean with
  | case1 t clean h => exact List.Sublist.refl t
  | case2 t clean h ih =>
    have hp := pass_sublist t
    rw [unifyBreaks_eq_self clean] at hp
    exact ih.trans hp

theorem return_not_mem_strip (t : Text) : '\r' ∉ strip t :=
  return_not_mem_settle _ _

theorem strip_sublist (t : Text) : (strip t).Sublist (unifyBreaks t) :=
  (settle_sublist _ _).trans (pass_sublist t)

theorem settle_congr {t u : Text} (h : t = u) (ht : '\r' ∉ t) (hu : '\r' ∉ u) :
    settle t ht = settle u hu := by
  subst h
  rfl

theorem settle_pass {t : Text} (ht : '\r' ∉ t) (hp : '\r' ∉ pass t) :
    settle (pass t) hp = settle t ht := by
  conv => rhs; unfold settle
  by_cases h : pass t = t
  · rw [if_pos h, settle_congr h hp ht, settle, if_pos h]
  · rw [if_neg h]

theorem strip_eq_settle {t : Text} (ht : '\r' ∉ t) : strip t = settle t ht :=
  settle_pass ht (return_not_mem_pass t)

def uncommented (t : Text) : Text :=
  joinLines ((lines (t ++ ['\n'])).map codeOfLine)

theorem uncommented_line {l : Text} (h : '\n' ∉ l) : uncommented l = codeOfLine l := by
  simp [uncommented, lines_line_append h, lines, joinLines]

theorem uncommented_line_append {l : Text} (h : '\n' ∉ l) (r : Text) :
    uncommented (l ++ '\n' :: r) = codeOfLine l ++ '\n' :: uncommented r := by
  have hr : (lines (r ++ ['\n'])).map codeOfLine ≠ [] :=
    fun hn => lines_lineFeed_ne_nil r (List.map_eq_nil_iff.mp hn)
  rw [uncommented, List.append_assoc, List.cons_append, lines_line_append h, List.map_cons,
    joinLines_cons hr, uncommented]

theorem uncommented_sublist (t : Text) : (uncommented t).Sublist t := by
  have h := joinLines_map_sublist codeOfLine_sublist (lines (t ++ ['\n']))
  rwa [joinLines_lines_lineFeed] at h

theorem codeOfLine_of_free {l : Text} (h : ¬ lineMark <:+: l) : codeOfLine l = l := by
  have hn := (breakOn_eq_none_iff (by decide)).mpr h
  rw [codeOfLine, hn]

theorem codeOfLine_free (l : Text) : ¬ lineMark <:+: codeOfLine l := by
  unfold codeOfLine
  split
  · rename_i code rest h
    exact (breakOn_eq_none_iff (by decide)).mp (breakOn_before h)
  · rename_i h
    exact (breakOn_eq_none_iff (by decide)).mp h

theorem codeOfLine_isPrefix (l : Text) : codeOfLine l <+: l := by
  unfold codeOfLine
  split
  · rename_i code rest h
    obtain ⟨-, rfl⟩ := breakOn_eq_some h
    rw [List.append_assoc]
    exact List.prefix_append _ _
  · exact List.prefix_refl l

theorem uncommented_of_free {t : Text} (h : ¬ lineMark <:+: t) : uncommented t = t := by
  induction t using line_induction with
  | last l hl => rw [uncommented_line hl, codeOfLine_of_free h]
  | line l r hl ih =>
    have hpre : l <+: l ++ '\n' :: r := List.prefix_append l _
    rw [uncommented_line_append hl, ih fun hr => h (hr.trans (rest_isSuffix l r).isInfix),
      codeOfLine_of_free fun hl => h (hl.trans hpre.isInfix)]

theorem within_uncommented (t : Text) : Within (uncommented t) t := by
  induction t using line_induction with
  | last l h =>
    intro k _ hi
    rw [uncommented_line h] at hi
    exact hi.trans (codeOfLine_isPrefix l).isInfix
  | line l r h ih =>
    intro k hk hi
    rw [uncommented_line_append h] at hi
    rcases infix_of_cut hk hi with hi | hi
    · have hl : l <+: l ++ '\n' :: r := List.prefix_append _ _
      exact hi.trans ((codeOfLine_isPrefix l).trans hl).isInfix
    · exact (ih k hk hi).trans (rest_isSuffix l r).isInfix

theorem uncommented_lineFeed (t : Text) : uncommented (t ++ ['\n']) = uncommented t ++ ['\n'] := by
  have hnil : uncommented [] = [] := rfl
  induction t using line_induction with
  | last l h => rw [uncommented_line_append h, hnil, uncommented_line h]
  | line l r h ih =>
    rw [List.append_assoc, List.cons_append, uncommented_line_append h, uncommented_line_append h,
      ih, List.append_assoc, List.cons_append]

theorem dropLineComments_lineFeed {t : Text} (h : '\r' ∉ t) :
    dropLineComments (t ++ ['\n']) = uncommented t := by
  have h' : '\r' ∉ t ++ ['\n'] := by simp [h]
  rw [dropLineComments, unifyBreaks_eq_self h', uncommented]

theorem dropLineComments_eq {t : Text} (h : '\r' ∉ t) :
    dropLineComments t = uncommented t ∨ ∃ u, t = u ++ ['\n'] := by
  rw [dropLineComments, unifyBreaks_eq_self h, uncommented]
  rcases lines_lineFeed t with rfl | ht | hu
  · exact .inl rfl
  · exact .inl (by rw [ht])
  · exact .inr hu

theorem breakOn_lineFeed {mark : Text} (hne : mark ≠ []) (h : '\n' ∉ mark) (t : Text) :
    breakOn mark (t ++ ['\n']) = (breakOn mark t).map fun p => (p.1, p.2 ++ ['\n']) := by
  cases hb : breakOn mark t with
  | some p => exact breakOn_append_of_some (a := p.1) (b := p.2) hb ['\n']
  | none =>
    apply (breakOn_eq_none_iff hne).mpr
    intro hi
    rcases infix_of_cut h hi with hi | hi
    · exact (breakOn_eq_none_iff hne).mp hb hi
    · exact hne (List.infix_nil.mp hi)

theorem dropFirstBlock_lineFeed (t : Text) :
    dropFirstBlock (t ++ ['\n']) = (dropFirstBlock t).map (· ++ ['\n']) := by
  have ho (u : Text) : breakOn opening (u ++ ['\n']) = _ :=
    breakOn_lineFeed (by decide) (by decide) u
  have hc (u : Text) : breakOn closing (u ++ ['\n']) = _ :=
    breakOn_lineFeed (by decide) (by decide) u
  unfold dropFirstBlock
  rw [ho]
  cases breakOn opening t with
  | none => rfl
  | some p =>
    simp only [Option.map_some, hc]
    cases breakOn closing p.2 with
    | none => rfl
    | some q => simp

theorem dropBlockComments_of_none {t : Text} (h : dropFirstBlock t = none) :
    dropBlockComments t = t := by
  rw [dropBlockComments]
  split
  · rfl
  · rename_i u hu
    rw [h] at hu
    cases hu

theorem dropBlockComments_of_some {t u : Text} (h : dropFirstBlock t = some u) :
    dropBlockComments t = dropBlockComments u := by
  rw [dropBlockComments]
  split
  · rename_i hn
    rw [h] at hn
    cases hn
  · rename_i v hv
    rw [h] at hv
    cases hv
    rfl

theorem dropBlockComments_lineFeed (t : Text) :
    dropBlockComments (t ++ ['\n']) = dropBlockComments t ++ ['\n'] := by
  fun_induction dropBlockComments t with
  | case1 t h =>
    apply dropBlockComments_of_none
    rw [dropFirstBlock_lineFeed, h, Option.map_none]
  | case2 t u h ih =>
    have hu : dropFirstBlock (t ++ ['\n']) = some (u ++ ['\n']) := by
      rw [dropFirstBlock_lineFeed, h, Option.map_some]
    rw [dropBlockComments_of_some hu, ih]

theorem pass_lineFeed {t : Text} (h : '\r' ∉ t) :
    pass (t ++ ['\n']) = dropBlockComments (uncommented t) := by
  rw [pass, dropLineComments_lineFeed h]

theorem pass_lineFeed_cases {t : Text} (h : '\r' ∉ t) :
    pass (t ++ ['\n']) = pass t ∨
      pass (t ++ ['\n']) = pass t ++ ['\n'] ∧ (pass t).length < t.length := by
  rcases dropLineComments_eq h with ht | ⟨u, rfl⟩
  · left
    rw [pass_lineFeed h, pass, ht]
  · right
    have hu : '\r' ∉ u := fun hu => h (List.mem_append_left _ hu)
    rw [pass_lineFeed h, pass_lineFeed hu, uncommented_lineFeed, dropBlockComments_lineFeed]
    refine ⟨rfl, ?_⟩
    have hlen := ((dropBlockComments_sublist _).trans (uncommented_sublist u)).length_le
    rw [List.length_append, List.length_singleton]
    omega

theorem settle_lineFeed {t : Text} (ht : '\r' ∉ t) (htn : '\r' ∉ t ++ ['\n']) :
    settle (t ++ ['\n']) htn = settle t ht := by
  have hp := return_not_mem_pass t
  rw [← settle_pass htn (return_not_mem_pass _), ← settle_pass ht hp]
  rcases pass_lineFeed_cases ht with h | ⟨h, hlen⟩
  · exact settle_congr h _ _
  · -- The line feed outlived the pass, and the text below it is shorter.
    have hpn : '\r' ∉ pass t ++ ['\n'] := by simp [hp]
    rw [settle_congr h _ hpn]
    exact settle_lineFeed hp hpn
termination_by t.length

theorem strip_eq_settle_uncommented {t : Text} (h : '\r' ∉ t)
    (hu : '\r' ∉ dropBlockComments (uncommented t)) :
    strip t = settle (dropBlockComments (uncommented t)) hu := by
  have htn : '\r' ∉ t ++ ['\n'] := by simp [h]
  rw [strip_eq_settle h, ← settle_lineFeed h htn, ← settle_pass htn (return_not_mem_pass _)]
  exact settle_congr (pass_lineFeed h) _ _

theorem strip_congr {t u : Text} (ht : '\r' ∉ t) (hu : '\r' ∉ u)
    (h : dropBlockComments (uncommented t) = dropBlockComments (uncommented u)) :
    strip t = strip u := by
  have clean {v : Text} (hv : '\r' ∉ v) : '\r' ∉ dropBlockComments (uncommented v) :=
    fun hr => hv (((dropBlockComments_sublist _).trans (uncommented_sublist v)).subset hr)
  rw [strip_eq_settle_uncommented ht (clean ht), strip_eq_settle_uncommented hu (clean hu)]
  exact settle_congr h _ _

def Blockless (t : Text) : Prop := ¬ opening <:+: t ∨ ¬ closing <:+: t

theorem dropBlockComments_of_blockless {t : Text} (h : Blockless t) :
    dropBlockComments t = t := by
  apply dropBlockComments_of_none
  cases hd : dropFirstBlock t with
  | none => rfl
  | some u =>
    obtain ⟨before, body, after, rfl, -⟩ := dropFirstBlock_eq_some hd
    exfalso
    rcases h with h | h
    · exact h ⟨before, body ++ closing ++ after, rfl⟩
    · exact h ⟨before ++ opening ++ body, after, by simp only [List.append_assoc]⟩

theorem within_dropLineComments {t : Text} (h : '\r' ∉ t) : Within (dropLineComments t) t := by
  rcases dropLineComments_eq h with ht | ⟨u, rfl⟩
  · rw [ht]
    exact within_uncommented t
  · have hu : '\r' ∉ u := fun hu => h (List.mem_append_left _ hu)
    rw [dropLineComments_lineFeed hu]
    exact within_trans (within_uncommented u) (within_of_isInfix (List.prefix_append u _).isInfix)

theorem blockless_of_within {u t : Text} (hu : Within u t) (h : Blockless t) :
    Blockless u := by
  rcases h with h | h
  · exact .inl fun hi => h (hu opening (by decide) hi)
  · exact .inr fun hi => h (hu closing (by decide) hi)

theorem within_pass {t : Text} (hr : '\r' ∉ t) (h : Blockless t) :
    Within (pass t) t := by
  have hline := within_dropLineComments hr
  rw [pass, dropBlockComments_of_blockless (blockless_of_within hline h)]
  exact hline

theorem within_settle {t : Text} (hr : '\r' ∉ t) (h : Blockless t) :
    Within (settle t hr) t := by
  fun_induction settle t hr with
  | case1 t hr hp => exact within_refl t
  | case2 t hr hp ih =>
    have hpass := within_pass hr h
    exact within_trans (ih (blockless_of_within hpass h)) hpass

theorem strip_unifyBreaks (t : Text) : strip (unifyBreaks t) = strip t := by
  have hu := unifyBreaks_eq_self (return_not_mem_unifyBreaks t)
  have hp : pass (unifyBreaks t) = pass t := by
    rw [pass, pass, dropLineComments, dropLineComments, hu]
  exact settle_congr hp _ _

theorem within_strip {t : Text} (h : Blockless t) : Within (strip t) t := by
  have hr := return_not_mem_unifyBreaks t
  have hunify := within_unifyBreaks t
  rw [← strip_unifyBreaks, strip_eq_settle hr]
  exact within_trans (within_settle hr (blockless_of_within hunify h)) hunify

end ScriptReplay.Comment
