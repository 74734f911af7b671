import Mathlib
import ScriptReplay.Proofs.Comment.Nesting

namespace ScriptReplay.Comment

open Text

theorem codeOfLine_comment {l : Text} (hd : ¬ ['-'] <:+ l) (comment : Text) :
    codeOfLine (l ++ (lineMark ++ comment)) = codeOfLine l := by
  by_cases hm : lineMark <:+: l
  · exact codeOfLine_append_of_mark hm _
  · have hnone : codeOfLine (lineMark ++ comment) = [] := by
      rw [codeOfLine, breakOn_sep (by decide)]
    rw [codeOfLine_append_of_free hm (apart_lineMark fun h => hd h.1), hnone, List.append_nil,
      codeOfLine_of_free hm]

theorem uncommented_comment {before comment : Text} (hd : ¬ ['-'] <:+ before)
    (hc : '\n' ∉ comment) (after : Text) :
    uncommented (before ++ (lineMark ++ (comment ++ '\n' :: after))) =
      uncommented (before ++ '\n' :: after) := by
  have hmark : '\n' ∉ lineMark := by decide
  induction before using line_induction with
  | last l hl =>
    have hline : '\n' ∉ l ++ (lineMark ++ comment) := by simp [hl, hc, hmark]
    have hsplit : l ++ (lineMark ++ (comment ++ '\n' :: after)) =
        l ++ (lineMark ++ comment) ++ '\n' :: after := by simp only [List.append_assoc]
    rw [hsplit, uncommented_line_append hline, uncommented_line_append hl, codeOfLine_comment hd]
  | line l r hl ih =>
    have hr : ¬ ['-'] <:+ r := fun h => hd (h.trans (rest_isSuffix l r))
    rw [List.append_assoc, List.cons_append, uncommented_line_append hl, ih hr, List.append_assoc,
      List.cons_append, uncommented_line_append hl]

theorem unifyBreaks_comment {before comment : Text} (hb : ¬ ['\r'] <:+ before)
    (hc : '\r' ∉ comment) (after : Text) :
    unifyBreaks (before ++ lineMark ++ comment ++ '\n' :: after) =
      unifyBreaks before ++ (lineMark ++ (comment ++ '\n' :: unifyBreaks after)) := by
  have hclean : '\r' ∉ lineMark ++ (comment ++ ['\n']) := by simp [hc, lineMark]
  have hsplit : before ++ lineMark ++ comment ++ '\n' :: after =
      before ++ (lineMark ++ (comment ++ ['\n']) ++ after) := by simp
  have hends : ¬ ['\r'] <:+ lineMark ++ (comment ++ ['\n']) :=
    fun h => hclean (h.subset (List.mem_singleton_self _))
  rw [hsplit, unifyBreaks_append hb, unifyBreaks_append hends, unifyBreaks_eq_self hclean]
  simp only [List.append_assoc, List.singleton_append]

theorem strip_lineComment {before comment : Text} (hd : ¬ ['-'] <:+ before)
    (hb : ¬ ['\r'] <:+ before) (hf : '\n' ∉ comment) (hr : '\r' ∉ comment) (after : Text) :
    strip (before ++ lineMark ++ comment ++ '\n' :: after) = strip (before ++ '\n' :: after) := by
  have hlast : ¬ ['-'] <:+ unifyBreaks before :=
    fun h => hd (ends_of_unifyBreaks (by decide) h)
  have hafter : unifyBreaks ('\n' :: after) = '\n' :: unifyBreaks after := rfl
  rw [← strip_unifyBreaks, ← strip_unifyBreaks (before ++ '\n' :: after)]
  apply strip_congr (return_not_mem_unifyBreaks _) (return_not_mem_unifyBreaks _)
  rw [unifyBreaks_comment hb hr, unifyBreaks_append hb, hafter, uncommented_comment hlast hf]

theorem strip_forgets_comment :
    (∀ before comment after : Text, '\n' ∉ comment → '\r' ∉ comment → ¬ ['-'] <:+ before →
        ¬ ['\r'] <:+ before →
        strip (before ++ lineMark ++ comment ++ '\n' :: after) = strip (before ++ '\n' :: after)) ∧
      ∀ before body after : Text, '\r' ∉ before ++ body ++ after → ¬ lineMark <:+: before →
        ¬ opening <:+: before → ¬ closing <:+: body → ¬ lineMark <:+: lastLine body →
        ¬ (['-'] <:+ before ∧ ['-'] <+: after) →
        strip (before ++ opening ++ body ++ closing ++ after) = strip (before ++ after) := by
  constructor
  · intro before comment after hf hr hd hb
    exact strip_lineComment hd hb hf hr after
  · intro before body after hr hb ho hc hl hd
    exact strip_closedBlock hr hb ho hc hl hd

theorem strip_forgets_comment_mixed :
    strip ("A\r\nB /* C".toList ++ lineMark ++ " */ D -- E".toList ++ '\n' :: "F */ G\r".toList) =
        "A\nB  G".toList ∧
      strip ("A -".toList ++ opening ++ " B -- C\n D /*".toList ++ closing ++
        "/* E */ F -- G".toList) = "A - F ".toList := by
  have hline := strip_forgets_comment.1 "A\r\nB /* C".toList " */ D -- E".toList
    "F */ G\r".toList (by decide) (by decide) (by decide) (by decide)
  have hblock := strip_forgets_comment.2 "A -".toList " B -- C\n D /*".toList
    "/* E */ F -- G".toList (by decide) (by decide) (by decide) (by decide) (by decide) (by decide)
  rw [hline, hblock]
  exact ⟨by cbv, by cbv⟩

end ScriptReplay.Comment
