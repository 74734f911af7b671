import Mathlib
import ScriptReplay.Error
import ScriptReplay.Proofs.Script.Residue

namespace ScriptReplay

open Text Comment

structure Script.Clean (s : Text) : Prop where
  ne_nil : s ≠ []
  trimmed : trim s = s
  noReturn : '\r' ∉ s

theorem Script.clean_of_mem_read {s source : Text} (h : s ∈ (read source).statements) :
    Clean s := by
  have hr : '\r' ∉ s := fun hc => return_not_mem_strip source ((infix_of_mem_read h).subset hc)
  rw [read_eq] at h
  split at h
  · obtain ⟨hne, htrim⟩ := mem_splitDirected h
    exact ⟨hne, htrim, hr⟩
  · obtain ⟨hne, htrim⟩ := mem_nonBlank h
    exact ⟨hne, htrim, hr⟩

def firstLine (s : Text) : Text :=
  trim (s.takeWhile (· ≠ '\n'))

theorem firstLine_isInfix (s : Text) : firstLine s <:+: s :=
  (trim_isInfix _).trans (List.takeWhile_prefix _).isInfix

theorem lineFeed_not_mem_firstLine (s : Text) : '\n' ∉ firstLine s := by
  intro h
  have hline := List.mem_takeWhile_imp ((trim_isInfix _).subset h)
  exact absurd rfl (of_decide_eq_true hline)

theorem firstLine_of_line {s : Text} (hs : Script.Clean s) (h : '\n' ∉ s) : firstLine s = s := by
  rw [firstLine, List.takeWhile_eq_self_iff.mpr (all_ne_lineFeed h), hs.trimmed]

theorem one_lt_length_lines_iff {s : Text} (hs : Script.Clean s) :
    1 < (lines s).length ↔ '\n' ∈ s := by
  constructor
  · intro hlen
    by_contra h
    rw [lines_line h hs.ne_nil, List.length_singleton] at hlen
    exact Nat.lt_irrefl 1 hlen
  · intro h
    obtain ⟨l, r, rfl, hl⟩ := List.eq_append_cons_of_mem h
    -- A trimmed text does not end with a line feed, so there is a line behind it.
    have hr : r ≠ [] := by
      rintro rfl
      exact lineFeed_not_ends_trimmed hs.trimmed (List.suffix_append l _)
    have hlen := List.length_pos_iff.mpr (lines_ne_nil hr)
    rw [lines_line_append hl, List.length_cons]
    omega

theorem preview_eq {s : Text} (hs : Script.Clean s) :
    preview s = if previewLength < (firstLine s).length ∨ '\n' ∈ s
      then (firstLine s).take previewLength ++ ellipsis else firstLine s := by
  unfold preview firstLine
  simp only [headD_lines, one_lt_length_lines_iff hs]

theorem preview_of_shortLine {s : Text} (hs : Script.Clean s)
    (h : '\n' ∉ s ∧ s.length ≤ previewLength) : preview s = s := by
  have hfirst := firstLine_of_line hs h.1
  rw [preview_eq hs, hfirst, if_neg]
  rintro (hlong | hmore)
  · omega
  · exact h.1 hmore

theorem preview_of_other {s : Text} (hs : Script.Clean s)
    (h : ¬ ('\n' ∉ s ∧ s.length ≤ previewLength)) :
    preview s = (firstLine s).take previewLength ++ ellipsis := by
  rw [preview_eq hs, if_pos]
  by_cases hmore : '\n' ∈ s
  · exact .inr hmore
  · left
    rw [firstLine_of_line hs hmore]
    by_contra hlen
    exact h ⟨hmore, by omega⟩

example : preview (List.replicate 120 'x') = List.replicate 120 'x' := by decide +kernel

example : preview (List.replicate 121 'x') = List.replicate 120 'x' ++ ellipsis := by
  decide +kernel

theorem not_mem_cut {c : Char} {s : Text} (h : c ∉ firstLine s) (hdots : c ∉ ellipsis) :
    c ∉ (firstLine s).take previewLength ++ ellipsis := by
  rw [List.mem_append, not_or]
  exact ⟨fun hc => h (List.mem_of_mem_take hc), hdots⟩

/-- The preview of a statement is one line of at most 124 characters. It is the statement if that is
one line of at most 120 characters, and the beginning of its first line before dots if not. -/
theorem ofStatement_preview {source s : Text} (h : s ∈ (Script.read source).statements)
    (index : Nat) (cause : SessionError) :
    ∃ shown, ReplayError.ofStatement index s cause = .statement index (String.ofList shown) cause ∧
      '\n' ∉ shown ∧ '\r' ∉ shown ∧ shown.length ≤ 124 ∧
      ('\n' ∉ s ∧ s.length ≤ 120 → shown = s) ∧
      (¬ ('\n' ∉ s ∧ s.length ≤ 120) → ∃ part, part <+: firstLine s ∧
        part.length = min 120 (firstLine s).length ∧ shown = part ++ " ...".toList) := by
  have hs := Script.clean_of_mem_read h
  refine ⟨preview s, rfl, ?_⟩
  by_cases hshort : '\n' ∉ s ∧ s.length ≤ 120
  · rw [preview_of_shortLine hs hshort]
    exact ⟨hshort.1, hs.noReturn, hshort.2.trans (by omega), fun _ => rfl, absurd hshort⟩
  · have hreturn : '\r' ∉ firstLine s := fun hc => hs.noReturn ((firstLine_isInfix s).subset hc)
    have hlen : ((firstLine s).take 120).length = min 120 (firstLine s).length := List.length_take
    rw [preview_of_other hs hshort]
    refine ⟨not_mem_cut (lineFeed_not_mem_firstLine s) (by decide), not_mem_cut hreturn (by decide),
      ?_, fun h => absurd h hshort, fun _ => ⟨_, List.take_prefix 120 _, hlen, rfl⟩⟩
    have hdots : ellipsis.length = 4 := rfl
    rw [List.length_append, previewLength, hlen, hdots]
    omega

def wideTable : Text := "A;CREATE TABLE T ( -- wide\n  ID INTEGER\n);".toList

theorem ofStatement_preview_wideTable :
    let s := "CREATE TABLE T ( \n  ID INTEGER\n)".toList
    s ∈ (Script.read wideTable).statements ∧ ¬ ('\n' ∉ s ∧ s.length ≤ 120) ∧
      ReplayError.ofStatement 2 s (.misuse "refused") =
        .statement 2 "CREATE TABLE T ( ..." (.misuse "refused") := by
  intro s
  have hstrip : strip wideTable = "A;CREATE TABLE T ( \n  ID INTEGER\n);".toList := by cbv
  have hmem : s ∈ (Script.read wideTable).statements := by
    rw [Script.read_eq, hstrip]
    decide +kernel
  have hlong : ¬ ('\n' ∉ s ∧ s.length ≤ 120) := by decide
  obtain ⟨shown, hstored, -, -, -, -, hcut⟩ := ofStatement_preview hmem 2 (.misuse "refused")
  obtain ⟨part, hpart, hlen, rfl⟩ := hcut hlong
  have hfirst : firstLine s = "CREATE TABLE T (".toList := by decide
  rw [hfirst] at hpart hlen
  refine ⟨hmem, hlong, ?_⟩
  rw [hstored, hpart.eq_of_length hlen]
  rfl

end ScriptReplay
