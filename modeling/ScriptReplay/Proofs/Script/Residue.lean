import Mathlib
import ScriptReplay.Proofs.Script.Rejoining

namespace ScriptReplay

open Text Directive Comment

theorem infix_of_mem_nonBlank {p s : Text} (h : s ∈ nonBlank [p]) : s <:+: p := by
  have hs := infix_of_covers (covers_nonBlank [] p) s h
  rwa [mark_text] at hs

theorem infix_of_mem_pieces {t u s : Text} (h : s ∈ nonBlank (pieces t u)) : s <:+: u := by
  have hs := infix_of_covers (covers_pieces t u) s h
  rwa [mark_text] at hs

theorem infix_of_trimmed {s t : Text} (hne : s ≠ []) (ht : trim s = s) (h : s <:+: t ++ ['\n']) :
    s <:+: t := by
  rcases List.infix_concat_iff.mp h with h | h
  · exfalso
    have hlast : ['\n'] <:+ s := by
      apply List.suffix_of_suffix_length_le (List.suffix_append t _) h
      exact List.length_pos_iff.mpr hne
    exact lineFeed_not_ends_trimmed ht hlast
  · exact h

namespace Splitter

structure MadeOf (s : Splitter) (t : Text) : Prop where
  openText : s.openText <:+ t
  statements : ∀ u ∈ s.statements, u <:+: t

theorem madeOf_start : start.MadeOf [] :=
  ⟨List.suffix_refl _, List.forall_mem_nil _⟩

theorem madeOf_feed {s : Splitter} (ht : IsTerminator s.terminator) {t : Text} (h : s.MadeOf t)
    (line : Text) : (s.feed line).MadeOf (t ++ (line ++ ['\n'])) := by
  have hlonger {u : Text} (hu : u <:+: t) : u <:+: t ++ (line ++ ['\n']) :=
    hu.trans (List.prefix_append t _).isInfix
  have hread : s.openText ++ line ++ ['\n'] <:+ t ++ (line ++ ['\n']) := by
    obtain ⟨before, hb⟩ := h.openText
    exact ⟨before, by rw [← hb]; simp only [List.append_assoc]⟩
  have hf := feed_fed ht line
  generalize s.feed line = u at hf
  cases hf with
  | directive t h' named =>
    refine ⟨List.nil_suffix, List.forall_mem_append.mpr ⟨fun u hu => hlonger (h.statements u hu), ?_⟩⟩
    intro u hu
    exact hlonger ((infix_of_mem_nonBlank hu).trans h.openText.isInfix)
  | kept h' unclosed => exact ⟨hread, fun u hu => hlonger (h.statements u hu)⟩
  | closed body w h' ending blank split =>
    refine ⟨List.nil_suffix, List.forall_mem_append.mpr ⟨fun u hu => hlonger (h.statements u hu), ?_⟩⟩
    intro u hu
    rw [split, List.append_assoc] at hread
    exact (infix_of_mem_pieces hu).trans ((List.prefix_append body _).isInfix.trans hread.isInfix)

theorem madeOf_feedAll {s : Splitter} (ht : IsTerminator s.terminator) {t : Text} (h : s.MadeOf t)
    (ls : List Text) : (s.feedAll ls).MadeOf (t ++ terminated ls) := by
  induction ls generalizing s t with
  | nil =>
    rw [terminated, List.flatMap_nil, List.append_nil]
    exact h
  | cons l ls ih =>
    rw [feedAll_cons, terminated_cons, ← List.append_assoc]
    exact ih (isTerminator_feed ht l) (madeOf_feed ht h l)

theorem infix_of_mem_finish {s : Splitter} (ht : IsTerminator s.terminator) {t u : Text}
    (h : s.MadeOf t) (hu : u ∈ s.finish) : u <:+: t := by
  rw [finish_eq ht] at hu
  rcases List.mem_append.mp hu with hu | hu
  · exact h.statements u hu
  · exact (infix_of_mem_pieces hu).trans h.openText.isInfix

end Splitter

theorem mem_splitDirected {s t : Text} (h : s ∈ splitDirected t) : s ≠ [] ∧ trim s = s := by
  obtain ⟨parts, hs, -⟩ :=
    Splitter.covers_feedAll (s := Splitter.start) isTerminator_default (lines (unifyBreaks t))
  rw [splitDirected, hs] at h
  exact mem_nonBlank h

theorem infix_of_mem_splitDirected {s t : Text} (hr : '\r' ∉ t) (h : s ∈ splitDirected t) :
    s <:+: t := by
  obtain ⟨hne, htrim⟩ := mem_splitDirected h
  have hmade := Splitter.madeOf_feedAll isTerminator_default Splitter.madeOf_start (lines t)
  have hend := Splitter.isTerminator_feedAll (s := Splitter.start) isTerminator_default (lines t)
  rw [splitDirected, unifyBreaks_eq_self hr] at h
  have hs := Splitter.infix_of_mem_finish hend hmade h
  rw [List.nil_append] at hs
  rcases terminated_lines t with ht | ht
  · rwa [ht] at hs
  · rw [ht] at hs
    exact infix_of_trimmed hne htrim hs

namespace Script

theorem infix_of_mem_read {s source : Text} (h : s ∈ (read source).statements) :
    s <:+: strip source := by
  rw [read_eq] at h
  split at h
  · exact infix_of_mem_splitDirected (return_not_mem_strip source) h
  · exact infix_of_mem_splitPlain h

end Script

theorem strip_normalizes (source : Text) :
    Normal (strip source) ∧ (strip source).Sublist (unifyBreaks source) ∧
      (strip source = source ↔ Normal source) ∧ strip (strip source) = strip source ∧
      ∀ s ∈ (Script.read source).statements, ¬ lineMark <:+: s ∧ '\r' ∉ s ∧ ¬ HasBlock s := by
  have hnormal := normal_strip source
  refine ⟨hnormal, strip_sublist source, ⟨fun h => ?_, strip_of_normal⟩, strip_of_normal hnormal, ?_⟩
  · rw [← h]
    exact hnormal
  · intro s hs
    have hpart := Script.infix_of_mem_read hs
    refine ⟨fun h => hnormal.noLineMark (h.trans hpart), fun h => ?_, fun h => ?_⟩
    · exact hnormal.noReturn (hpart.subset h)
    · exact hnormal.noBlock (hasBlock_within hpart h)

end ScriptReplay
