import ScriptReplay.Text.Lines
import ScriptReplay.Text.Pieces

/-!
Comments of a script. A line comment runs from two dashes to the end of its line, a block comment
from a slash and a star to the next star and slash. Quotation marks mean nothing here. Removing
comments can bring new markers together, so one pass follows another until nothing changes.
-/

namespace ScriptReplay.Comment

open Text

def lineMark : Text := ['-', '-']

def opening : Text := ['/', '*']

def closing : Text := ['*', '/']

def codeOfLine (line : Text) : Text :=
  match breakOn lineMark line with
  | some (code, _) => code
  | none => line

def dropLineComments (t : Text) : Text :=
  joinLines ((lines (unifyBreaks t)).map codeOfLine)

def dropFirstBlock (t : Text) : Option Text :=
  match breakOn opening t with
  | none => none
  | some (before, inside) =>
    match breakOn closing inside with
    | none => none
    | some (_, after) => some (before ++ after)

theorem dropFirstBlock_eq_some {t u : Text} (h : dropFirstBlock t = some u) :
    ∃ before body after, t = before ++ opening ++ (body ++ closing ++ after) ∧
      u = before ++ after := by
  unfold dropFirstBlock at h
  split at h
  · simp at h
  · rename_i before inside ho
    split at h
    · simp at h
    · rename_i body after hc
      cases h
      obtain ⟨_, rfl⟩ := breakOn_eq_some hc
      obtain ⟨_, rfl⟩ := breakOn_eq_some ho
      exact ⟨before, body, after, rfl, rfl⟩

theorem length_dropFirstBlock {t u : Text} (h : dropFirstBlock t = some u) :
    u.length + 4 ≤ t.length := by
  obtain ⟨before, body, after, rfl, rfl⟩ := dropFirstBlock_eq_some h
  simp only [List.length_append, opening, closing, List.length_cons, List.length_nil]
  omega

def dropBlockComments (t : Text) : Text :=
  match _h : dropFirstBlock t with
  | none => t
  | some u => dropBlockComments u
termination_by t.length
decreasing_by
  have := length_dropFirstBlock ‹_›
  omega

def pass (t : Text) : Text :=
  dropBlockComments (dropLineComments t)

theorem codeOfLine_sublist (line : Text) : (codeOfLine line).Sublist line := by
  unfold codeOfLine
  split
  · rename_i code rest h
    obtain ⟨_, rfl⟩ := breakOn_eq_some h
    rw [List.append_assoc]
    exact List.sublist_append_left _ _
  · exact List.Sublist.refl _

theorem dropLineComments_sublist (t : Text) : (dropLineComments t).Sublist (unifyBreaks t) :=
  (joinLines_map_sublist codeOfLine_sublist _).trans (joinLines_lines_sublist _)

theorem dropBlockComments_sublist (t : Text) : (dropBlockComments t).Sublist t := by
  fun_induction dropBlockComments t with
  | case1 => exact List.Sublist.refl _
  | case2 t u h ih =>
    obtain ⟨before, body, after, rfl, rfl⟩ := dropFirstBlock_eq_some h
    refine ih.trans ?_
    rw [List.append_assoc]
    refine (List.Sublist.refl before).append ?_
    rw [← List.append_assoc]
    exact List.sublist_append_right _ _

theorem pass_sublist (t : Text) : (pass t).Sublist (unifyBreaks t) :=
  (dropBlockComments_sublist _).trans (dropLineComments_sublist t)

theorem return_not_mem_pass (t : Text) : '\r' ∉ pass t :=
  fun h => return_not_mem_unifyBreaks t ((pass_sublist t).subset h)

theorem length_pass_lt {t : Text} (h : '\r' ∉ t) (hne : pass t ≠ t) :
    (pass t).length < t.length := by
  have hs := pass_sublist t
  rw [unifyBreaks_eq_self h] at hs
  exact Nat.lt_of_le_of_ne hs.length_le fun he => hne (hs.eq_of_length he)

def settle (t : Text) (_clean : '\r' ∉ t) : Text :=
  if pass t = t then t else settle (pass t) (return_not_mem_pass t)
termination_by t.length
decreasing_by
  exact length_pass_lt ‹_› ‹_›

def strip (t : Text) : Text :=
  settle (pass t) (return_not_mem_pass t)

end ScriptReplay.Comment
