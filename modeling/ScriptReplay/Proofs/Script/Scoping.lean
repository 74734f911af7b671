import Mathlib
import ScriptReplay.Proofs.Script.Rendering

/-!
What a directive rules over. Behind it a text is cut as if nothing had come before it, whichever
terminators that had named; and as far as no other directive comes, only the terminator it names is
a boundary, wherever on a line it stands.
-/

namespace ScriptReplay

open Text Directive

namespace Splitter

def behind (ss : List Text) (s : Splitter) : Splitter :=
  { s with statements := ss ++ s.statements }

theorem feed_behind (ss : List Text) (s : Splitter) (line : Text) :
    (s.behind ss).feed line = (s.feed line).behind ss := by
  cases hd : isDirective (trim line) with
  | true =>
    rw [feed_of_directive _ hd, feed_of_directive _ hd]
    simp only [behind, List.append_assoc]
  | false =>
    rw [feed_eq_append hd, feed_eq_append hd]
    by_cases hend : s.terminator <:+ trim line
    · have hclosed := List.isSuffixOf_iff_suffix.mpr hend
      unfold append
      simp only [behind, hclosed, if_true, closeTerminated, List.append_assoc]
    · rw [append_of_unclosed hend, append_of_unclosed (s := s.behind ss) hend]
      rfl

theorem feedAll_behind (ss : List Text) (s : Splitter) (ls : List Text) :
    (s.behind ss).feedAll ls = (s.feedAll ls).behind ss := by
  induction ls generalizing s with
  | nil => rfl
  | cons l ls ih => rw [feedAll_cons, feed_behind, ih, ← feedAll_cons]

theorem finish_behind (ss : List Text) (s : Splitter) :
    (s.behind ss).finish = ss ++ s.finish := by
  unfold finish
  by_cases h : trim s.openText = []
  · simp only [behind, h, if_true]
  · simp only [behind, h, if_false, List.append_assoc]

theorem feed_nil {s : Splitter} (ht : IsTerminator s.terminator) :
    s.feed [] = { s with openText := s.openText ++ ['\n'] } := by
  have hend : ¬ s.terminator <:+ trim [] := fun h => ht.ne_nil (List.suffix_nil.mp h)
  rw [feed_eq_append rfl, append_of_unclosed hend, List.append_nil]

theorem feed_naming {d t : Text} (hd : isDirective (trim d) = true)
    (ht : terminator? (trim d) = some t) (s : Splitter) :
    s.feed d = (start.feed d).behind (s.statements ++ nonBlank [s.openText]) := by
  rw [feed_of_directive _ hd, feed_of_directive _ hd, ht]
  simp only [behind, start, nonBlank_of_allBlank (List.forall_mem_nil _), List.append_nil,
    Option.getD_some]

end Splitter

theorem lines_unifyBreaks_line {d : Text} (hf : '\n' ∉ d) (hr : '\r' ∉ d) (b : Text) :
    lines (unifyBreaks (d ++ '\n' :: b)) = d :: lines (unifyBreaks b) := by
  have hend : ¬ ['\r'] <:+ d := fun h => hr (h.subset (List.mem_singleton_self _))
  rw [unifyBreaks_append hend, unifyBreaks_eq_self hr]
  exact lines_line_append hf _

theorem splitDirected_directive {a d b t : Text} (hf : '\n' ∉ d) (hr : '\r' ∉ d)
    (hd : isDirective (trim d) = true) (ht : terminator? (trim d) = some t) :
    let s := Splitter.start.feedAll (lines (unifyBreaks a))
    splitDirected (a ++ '\n' :: (d ++ '\n' :: b)) =
      s.statements ++ nonBlank [s.openText] ++ splitDirected (d ++ '\n' :: b) := by
  intro s
  have hs : IsTerminator s.terminator := Splitter.isTerminator_feedAll isTerminator_default _
  obtain ⟨gap, hgap, hlines⟩ := lines_unifyBreaks_append a (d ++ '\n' :: b)
  -- An empty line before the directive makes the open text longer by a blank only.
  have hfeed : (s.feedAll gap).feed d =
      (Splitter.start.feed d).behind (s.statements ++ nonBlank [s.openText]) := by
    rcases hgap with rfl | rfl
    · exact Splitter.feed_naming hd ht s
    · have hblank : s.feedAll [[]] = { s with openText := s.openText ++ ['\n'] } :=
        Splitter.feed_nil hs
      rw [hblank, Splitter.feed_naming hd ht,
        nonBlank_congr (trim_append_blank allBlank_lineFeed)]
  rw [splitDirected, hlines, lines_unifyBreaks_line hf hr, Splitter.feedAll_append,
    Splitter.feedAll_append, Splitter.feedAll_cons, hfeed, Splitter.feedAll_behind,
    Splitter.finish_behind, splitDirected, lines_unifyBreaks_line hf hr, Splitter.feedAll_cons]

theorem splitDirected_scoped {a d b t : Text}
    (ha : AllBlank (Splitter.start.feedAll (lines (unifyBreaks a))).openText) (hf : '\n' ∉ d)
    (hr : '\r' ∉ d) (hd : isDirective (trim d) = true) (ht : terminator? (trim d) = some t) :
    splitDirected (a ++ ['\n'] ++ d ++ ['\n'] ++ b) =
      splitDirected a ++ splitDirected (d ++ ['\n'] ++ b) := by
  have hfinish : splitDirected a =
      (Splitter.start.feedAll (lines (unifyBreaks a))).statements :=
    if_pos (trim_eq_nil_iff.mpr ha)
  have hcut := splitDirected_directive (a := a) (b := b) hf hr hd ht
  simp only [nonBlank_of_allBlank ha, List.append_nil, ← hfinish] at hcut
  simpa using hcut

def closedRegions : Text := "A;\r\nSET TERM ^ ;\rB;C^ D^\r".toList

theorem splitDirected_scoped_closedRegions :
    let d := "  set Term !! ;;".toList
    let b := "E^;\nF!!\r\nG".toList
    AllBlank (Splitter.start.feedAll (lines (unifyBreaks closedRegions))).openText ∧
      '\n' ∉ d ∧ '\r' ∉ d ∧ isDirective (trim d) = true ∧
      terminator? (trim d) = some "!!".toList ∧
      splitDirected (closedRegions ++ ['\n'] ++ d ++ ['\n'] ++ b) =
        ["A".toList, "B;C".toList, "D".toList] ++ ["E^;\nF".toList, "G".toList] := by
  intro d b
  have hopen : (Splitter.start.feedAll (lines (unifyBreaks closedRegions))).openText = [] := by
    decide +kernel
  have ha : AllBlank (Splitter.start.feedAll (lines (unifyBreaks closedRegions))).openText := by
    rw [hopen]
    exact List.forall_mem_nil _
  have hf : '\n' ∉ d := by decide
  have hr : '\r' ∉ d := by decide
  have hd : isDirective (trim d) = true := by decide
  have ht : terminator? (trim d) = some "!!".toList := by decide
  refine ⟨ha, hf, hr, hd, ht, ?_⟩
  rw [splitDirected_scoped ha hf hr hd ht]
  decide +kernel

theorem splitDirected_region {t b : Text} (ht : Selectable t) (ho : NoOverlap t) (hr : '\r' ∉ b)
    (hd : ∀ l ∈ lines b, isDirective (trim l) = false) :
    splitDirected (written t defaultTerminator ++ ['\n'] ++ b) = nonBlank (pieces t b) ∧
      ∀ ps, ps = pieces t b ↔
        ps ≠ [] ∧ List.intercalate t ps = b ∧ ∀ p ∈ ps, ¬ t <:+: p := by
  refine ⟨?_, fun ps => eq_pieces_iff ht.ne_nil ho⟩
  have hline := lineFeed_not_mem_written ht.noBlank isTerminator_default.noBlank
  have hreturn : '\r' ∉ written t defaultTerminator :=
    not_mem_written (by decide) (not_mem_of_noBlank ht.noBlank rfl) (by decide)
  have hopen : Splitter.start.feed (written t defaultTerminator) = ⟨t, [], []⟩ :=
    Splitter.feed_written [] ht isTerminator_default
  have hfinish := Splitter.finish_feedAll (s := ⟨t, [], []⟩) ht.toIsTerminator ho hd
  rw [List.append_assoc, List.singleton_append, splitDirected, lines_unifyBreaks_line hline hreturn,
    unifyBreaks_eq_self hr, Splitter.feedAll_cons, hopen, hfinish]
  exact nonBlank_pieces_terminated_lines ht.toIsTerminator b

theorem splitDirected_region_twoCharacters :
    let t := "!?".toList
    let b := "BEGIN\n  A; B;\nEND!? C;D!?E ! ?;".toList
    let ps := ["BEGIN\n  A; B;\nEND".toList, " C;D".toList, "E ! ?;".toList]
    Selectable t ∧ NoOverlap t ∧ '\r' ∉ b ∧ (∀ l ∈ lines b, isDirective (trim l) = false) ∧
      ps = pieces t b ∧
      splitDirected ("SET TERM !? ;\n".toList ++ b) =
        ["BEGIN\n  A; B;\nEND".toList, "C;D".toList, "E ! ?;".toList] := by
  intro t b ps
  have ht : Selectable t := ⟨⟨by decide, noBlank_of_any (by decide)⟩, .inr (by decide)⟩
  have ho : NoOverlap t := noOverlap_pair (by decide)
  have hr : '\r' ∉ b := by decide
  have hd : ∀ l ∈ lines b, isDirective (trim l) = false := by decide
  obtain ⟨hsplit, hpieces⟩ := splitDirected_region ht ho hr hd
  have hps : ps = pieces t b := (hpieces ps).mpr (by decide)
  refine ⟨ht, ho, hr, hd, hps, ?_⟩
  have htext : "SET TERM !? ;\n".toList = written t defaultTerminator ++ ['\n'] := by decide
  rw [htext, hsplit, ← hps]
  decide

end ScriptReplay
