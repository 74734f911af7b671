import Mathlib
import ScriptReplay.Proofs.Comment.Settling

/-!
A block comment goes as a whole if no two dashes stand on its last line: what comes before it and
what comes after it are then read as if they had always stood side by side. Two dashes on that line
are stronger than the block. They take its closing mark along with the rest of the line.
-/

namespace ScriptReplay.Comment

open Text

def lastLine (t : Text) : Text := t.rtakeWhile (· ≠ '\n')

def upToDashes (t : Text) : Text := t.rdropWhile (· ≠ '\n') ++ codeOfLine (lastLine t)

def fromLineFeed (t : Text) : Text := t.dropWhile (· ≠ '\n')

theorem lineFeed_not_mem_lastLine (t : Text) : '\n' ∉ lastLine t := by
  intro h
  have hn := List.mem_rtakeWhile_imp h
  simp at hn

theorem lastLine_line {l : Text} (h : '\n' ∉ l) : lastLine l = l :=
  List.rtakeWhile_eq_self_iff.mpr (all_ne_lineFeed h)

theorem lastLine_line_append (l r : Text) : lastLine (l ++ '\n' :: r) = lastLine r := by
  unfold lastLine List.rtakeWhile
  rw [List.reverse_append, List.reverse_cons, List.append_assoc, List.takeWhile_append]
  split
  · rename_i hall
    have hr := (List.takeWhile_prefix (l := r.reverse) (· ≠ '\n')).eq_of_length hall
    rw [hr]
    simp
  · rfl

theorem codeOfLine_append_of_mark {l : Text} (h : lineMark <:+: l) (m : Text) :
    codeOfLine (l ++ m) = codeOfLine l := by
  cases hb : breakOn lineMark l with
  | none => exact absurd h ((breakOn_eq_none_iff (by decide)).mp hb)
  | some p =>
    have hlong := breakOn_append_of_some (a := p.1) (b := p.2) hb m
    rw [codeOfLine, hlong, codeOfLine, hb]

theorem codeOfLine_append_of_free {l m : Text} (h : ¬ lineMark <:+: l) (ha : Apart lineMark l m) :
    codeOfLine (l ++ m) = l ++ codeOfLine m := by
  have hn := (breakOn_eq_none_iff (by decide)).mpr h
  rw [codeOfLine, breakOn_append_of_none (by decide) hn ha, codeOfLine]
  cases breakOn lineMark m <;> rfl

theorem apart_lineMark {u v : Text} (h : ¬ (['-'] <:+ u ∧ ['-'] <+: v)) : Apart lineMark u v := by
  intro x y hs hx hy hxu hyv
  have hsplit : x ++ y = ['-'] ++ ['-'] := hs.symm
  have hlen := congrArg List.length hsplit
  have hxl := List.length_pos_iff.mpr hx
  have hyl := List.length_pos_iff.mpr hy
  simp only [List.length_append, List.length_singleton] at hlen
  obtain ⟨rfl, rfl⟩ := List.append_inj hsplit (by rw [List.length_singleton]; omega)
  exact h ⟨hxu, hyv⟩

theorem uncommented_append {a b : Text} (h : ¬ lineMark <:+: lastLine a)
    (ha : Apart lineMark a b) : uncommented (a ++ b) = uncommented a ++ uncommented b := by
  induction a using line_induction with
  | last l hl =>
    rw [lastLine_line hl] at h
    rw [uncommented_line hl, codeOfLine_of_free h]
    by_cases hb : '\n' ∈ b
    · obtain ⟨m, r, rfl, hm⟩ := List.eq_append_cons_of_mem hb
      have hlm : '\n' ∉ l ++ m := by simp [hl, hm]
      rw [← List.append_assoc, uncommented_line_append hlm, uncommented_line_append hm,
        codeOfLine_append_of_free h (apart_of_begins ha (List.prefix_append m _)), List.append_assoc]
    · have hlb : '\n' ∉ l ++ b := by simp [hl, hb]
      rw [uncommented_line hlb, uncommented_line hb, codeOfLine_append_of_free h ha]
  | line l r hl ih =>
    rw [lastLine_line_append] at h
    rw [List.append_assoc, List.cons_append, uncommented_line_append hl, uncommented_line_append hl,
      ih h (apart_of_suffix ha (rest_isSuffix l r)), List.append_assoc, List.cons_append]

theorem dropBlockComments_block {before body : Text} (ho : ¬ opening <:+: before)
    (hc : ¬ closing <:+: body) (after : Text) :
    dropBlockComments (before ++ (opening ++ (body ++ (closing ++ after)))) =
      dropBlockComments (before ++ after) := by
  have hopen : NoOverlap opening := noOverlap_pair (by decide)
  have hclose : NoOverlap closing := noOverlap_pair (by decide)
  apply dropBlockComments_of_some
  rw [dropFirstBlock, breakOn_first (by decide) hopen ho]
  simp only [breakOn_first (by decide) hclose hc]

theorem uncommented_free_append {a b : Text} (h : ¬ lineMark <:+: a)
    (ha : ¬ (['-'] <:+ a ∧ ['-'] <+: b)) : uncommented (a ++ b) = a ++ uncommented b := by
  have hlast : ¬ lineMark <:+: lastLine a :=
    fun hl => h (hl.trans (List.rtakeWhile_suffix _ a).isInfix)
  rw [uncommented_append hlast (apart_lineMark ha), uncommented_of_free h]

theorem dash_not_begins {c : Char} {r : Text} (h : '-' ≠ c) : ¬ ['-'] <+: c :: r := by
  rintro ⟨z, hz⟩
  exact h (List.cons.inj hz).1

theorem dash_not_ends {c : Char} {r : Text} (h : '-' ≠ c) : ¬ ['-'] <:+ r ++ [c] := by
  rintro ⟨z, hz⟩
  exact h (List.singleton_inj.mp (List.append_inj_right' hz rfl))

theorem uncommented_opening_append (t : Text) :
    uncommented (opening ++ t) = opening ++ uncommented t :=
  uncommented_free_append (by decide) fun h => dash_not_ends (r := ['/']) (by decide) h.1

theorem uncommented_closing_append (t : Text) :
    uncommented (closing ++ t) = closing ++ uncommented t :=
  uncommented_free_append (by decide) fun h => dash_not_ends (r := ['*']) (by decide) h.1

theorem lastLine_front (t : Text) :
    t.rdropWhile (· ≠ '\n') = [] ∨ ∃ g, t.rdropWhile (· ≠ '\n') = g ++ ['\n'] := by
  by_cases h : t.rdropWhile (· ≠ '\n') = []
  · exact .inl h
  · right
    have hlast := List.rdropWhile_last_not (· ≠ '\n') t h
    have hc : (t.rdropWhile (· ≠ '\n')).getLast h = '\n' := by simpa using hlast
    refine ⟨(t.rdropWhile (· ≠ '\n')).dropLast, ?_⟩
    conv_lhs => rw [← List.dropLast_concat_getLast h, hc]

theorem uncommented_front_append (t z : Text) :
    uncommented (t.rdropWhile (· ≠ '\n') ++ z) =
      uncommented (t.rdropWhile (· ≠ '\n')) ++ uncommented z := by
  rcases lastLine_front t with h | ⟨g, h⟩
  · rw [h]
    rfl
  · rw [h]
    apply uncommented_append
    · rw [lastLine_line_append]
      decide
    · exact apart_lineMark fun hd => dash_not_ends (by decide) hd.1

theorem fromLineFeed_line {l : Text} (h : '\n' ∉ l) : fromLineFeed l = [] :=
  List.dropWhile_eq_nil_iff.mpr (all_ne_lineFeed h)

theorem fromLineFeed_line_append {l : Text} (h : '\n' ∉ l) (r : Text) :
    fromLineFeed (l ++ '\n' :: r) = '\n' :: r := by
  unfold fromLineFeed
  rw [List.dropWhile_append_of_pos (all_ne_lineFeed h), List.dropWhile_cons_of_neg (by simp)]

theorem uncommented_dashes {l : Text} (hl : '\n' ∉ l) (hm : lineMark <:+: l) (t : Text) :
    uncommented (l ++ t) = uncommented (codeOfLine l ++ fromLineFeed t) := by
  have hc : '\n' ∉ codeOfLine l := fun h => hl ((codeOfLine_sublist l).subset h)
  have hcode : codeOfLine (codeOfLine l) = codeOfLine l := codeOfLine_of_free (codeOfLine_free l)
  by_cases ht : '\n' ∈ t
  · obtain ⟨m, r, rfl, hmr⟩ := List.eq_append_cons_of_mem ht
    have hlm : '\n' ∉ l ++ m := by simp [hl, hmr]
    rw [fromLineFeed_line_append hmr, uncommented_line_append hc, hcode, ← List.append_assoc,
      uncommented_line_append hlm, codeOfLine_append_of_mark hm]
  · have hlt : '\n' ∉ l ++ t := by simp [hl, ht]
    rw [fromLineFeed_line ht, List.append_nil, uncommented_line hc, hcode, uncommented_line hlt,
      codeOfLine_append_of_mark hm]

theorem uncommented_upToDashes {body : Text} (h : lineMark <:+: lastLine body) (after : Text) :
    uncommented (body ++ (closing ++ after)) =
      uncommented (upToDashes body ++ fromLineFeed after) := by
  have hbody : body.rdropWhile (· ≠ '\n') ++ lastLine body = body :=
    List.rdropWhile_append_rtakeWhile
  have hend : fromLineFeed (closing ++ after) = fromLineFeed after := rfl
  conv_lhs => rw [← hbody]
  rw [upToDashes, List.append_assoc, List.append_assoc, uncommented_front_append,
    uncommented_front_append, uncommented_dashes (lineFeed_not_mem_lastLine body) h, hend]

theorem upToDashes_sublist (t : Text) : (upToDashes t).Sublist t := by
  have h := (List.Sublist.refl (t.rdropWhile (· ≠ '\n'))).append (codeOfLine_sublist (lastLine t))
  rwa [lastLine, List.rdropWhile_append_rtakeWhile] at h

theorem uncommented_block_append {before : Text} (hb : ¬ lineMark <:+: before) (t : Text) :
    uncommented (before ++ (opening ++ t)) = before ++ (opening ++ uncommented t) := by
  have hd : ¬ ['-'] <+: opening ++ t := dash_not_begins (by decide)
  rw [uncommented_free_append hb fun h => hd h.2, uncommented_opening_append]

theorem uncommented_body_append {body : Text} (h : ¬ lineMark <:+: lastLine body) (after : Text) :
    uncommented (body ++ (closing ++ after)) =
      uncommented body ++ (closing ++ uncommented after) := by
  have hd : ¬ ['-'] <+: closing ++ after := dash_not_begins (by decide)
  rw [uncommented_append h (apart_lineMark fun h => hd h.2), uncommented_closing_append]

theorem strip_closedBlock {before body after : Text} (hr : '\r' ∉ before ++ body ++ after)
    (hb : ¬ lineMark <:+: before) (ho : ¬ opening <:+: before) (hc : ¬ closing <:+: body)
    (hl : ¬ lineMark <:+: lastLine body) (hd : ¬ (['-'] <:+ before ∧ ['-'] <+: after)) :
    strip (before ++ opening ++ body ++ closing ++ after) = strip (before ++ after) := by
  have hclean : '\r' ∉ before ∧ '\r' ∉ body ∧ '\r' ∉ after := by simpa using hr
  obtain ⟨hrb, hrm, hra⟩ := hclean
  have hwhole : '\r' ∉ before ++ opening ++ body ++ closing ++ after := by
    simp [hrb, hrm, hra, opening, closing]
  have hjoined : '\r' ∉ before ++ after := by simp [hrb, hra]
  have hclosed : ¬ closing <:+: uncommented body :=
    fun h => hc (within_uncommented body closing (by decide) h)
  apply strip_congr hwhole hjoined
  simp only [List.append_assoc]
  rw [uncommented_block_append hb, uncommented_body_append hl, dropBlockComments_block ho hclosed,
    uncommented_free_append hb hd]

/-- A block comment goes as a whole if its last line has no two dashes. Otherwise its end and the
rest of that line go as a line comment, and the block stays open. -/
theorem strip_block {before body after : Text} (hr : '\r' ∉ before ++ body ++ after)
    (hb : ¬ lineMark <:+: before) (ho : ¬ opening <:+: before) (hc : ¬ closing <:+: body)
    (hd : ¬ (['-'] <:+ before ∧ ['-'] <+: after)) :
    (lineMark <:+: lastLine body →
        strip (before ++ opening ++ body ++ closing ++ after) =
          strip (before ++ opening ++ upToDashes body ++ fromLineFeed after)) ∧
      (¬ lineMark <:+: lastLine body →
        strip (before ++ opening ++ body ++ closing ++ after) = strip (before ++ after)) := by
  refine ⟨fun h => ?_, fun h => strip_closedBlock hr hb ho hc h hd⟩
  have hclean : '\r' ∉ before ∧ '\r' ∉ body ∧ '\r' ∉ after := by simpa using hr
  obtain ⟨hrb, hrm, hra⟩ := hclean
  have hwhole : '\r' ∉ before ++ opening ++ body ++ closing ++ after := by
    simp [hrb, hrm, hra, opening, closing]
  have hcut : '\r' ∉ upToDashes body := fun hm => hrm ((upToDashes_sublist body).subset hm)
  have hrest : '\r' ∉ fromLineFeed after := fun hm => hra ((List.dropWhile_sublist _).subset hm)
  have hopen : '\r' ∉ before ++ opening ++ upToDashes body ++ fromLineFeed after := by
    simp [hrb, hcut, hrest, opening]
  apply strip_congr hwhole hopen
  simp only [List.append_assoc]
  rw [uncommented_block_append hb, uncommented_block_append hb, uncommented_upToDashes h]

theorem strip_block_dashes :
    strip ("A ".toList ++ opening ++ " x -- y ".toList ++ closing ++ " B;\nC */ D".toList) =
        "A  D".toList ∧
      strip ("A ".toList ++ opening ++ "-- x\n y ".toList ++ closing ++ " B;".toList) =
        "A  B;".toList := by
  have hlast := @strip_block "A ".toList " x -- y ".toList " B;\nC */ D".toList (by decide)
    (by decide) (by decide) (by decide) (by decide)
  have hfirst := @strip_block "A ".toList "-- x\n y ".toList " B;".toList (by decide)
    (by decide) (by decide) (by decide) (by decide)
  rw [hlast.1 (by decide), hfirst.2 (by decide)]
  exact ⟨by cbv, by cbv⟩

theorem strip_block_ne_strip :
    let before := "A ".toList
    let body := " x -- y ".toList
    let after := " B;".toList
    '\r' ∉ before ++ body ++ after ∧ ¬ lineMark <:+: before ∧ ¬ opening <:+: before ∧
      ¬ closing <:+: body ∧ lineMark <:+: lastLine body ∧
      ¬ (['-'] <:+ before ∧ ['-'] <+: after) ∧
      strip (before ++ opening ++ body ++ closing ++ after) = "A /* x ".toList ∧
      strip (before ++ after) = "A  B;".toList := by
  refine ⟨by decide, by decide, by decide, by decide, by decide, by decide, by cbv, by cbv⟩

end ScriptReplay.Comment
