import Mathlib
import ScriptReplay.Proofs.Script.Rendering

namespace ScriptReplay

open Text Directive

namespace Directive

theorem withoutLastSemicolons_ending (word : Text) :
    ¬ defaultTerminator <:+ withoutLastSemicolons word := by
  intro h
  have hne : withoutLastSemicolons word ≠ [] := by
    intro hnil
    rw [hnil] at h
    exact absurd (List.suffix_nil.mp h) (List.cons_ne_nil _ _)
  have hlast : (withoutLastSemicolons word).getLast hne = ';' :=
    (h.getLast (List.cons_ne_nil _ _)).symm
  apply List.rdropWhile_last_not (· == ';') word hne
  exact beq_iff_eq.mpr hlast

theorem selectable_terminatorOfWord {word : Text} (h : NoBlank word) :
    Selectable (terminatorOfWord word) := by
  refine ⟨isTerminator_terminatorOfWord h, ?_⟩
  unfold terminatorOfWord
  split
  · exact .inl rfl
  · rename_i c r hw
    right
    rw [← hw]
    exact withoutLastSemicolons_ending word

theorem selectable_terminator? {line t : Text} (h : terminator? line = some t) : Selectable t := by
  obtain ⟨word, hword, rfl⟩ := exists_word_of_terminator? h
  exact selectable_terminatorOfWord hword

end Directive

namespace Splitter

structure WellFormed (s : Splitter) : Prop where
  terminator : Selectable s.terminator
  openLines : ∃ ls, s.openText = terminated ls ∧ ∀ l ∈ ls, '\n' ∉ l ∧ ¬ s.terminator <:+ trim l
  statements : ∀ u ∈ s.statements, u ≠ [] ∧ trim u = u

theorem wellFormed_start : start.WellFormed where
  terminator := nameable_default.toSelectable
  openLines := ⟨[], rfl, List.forall_mem_nil _⟩
  statements := List.forall_mem_nil _

theorem selectable_feed {s : Splitter} (h : Selectable s.terminator) (line : Text) :
    Selectable (s.feed line).terminator := by
  rcases terminator_feed s line with hs | hnamed
  · rw [hs]
    exact h
  · exact selectable_terminator? hnamed

theorem wellFormed_feed {s : Splitter} (h : s.WellFormed) {line : Text} (hline : '\n' ∉ line) :
    (s.feed line).WellFormed := by
  have hterminator := selectable_feed h.terminator line
  have hf := feed_fed h.terminator.toIsTerminator line
  generalize s.feed line = u at hf hterminator
  have hstatements (ps : List Text) : ∀ v ∈ s.statements ++ nonBlank ps, v ≠ [] ∧ trim v = v :=
    List.forall_mem_append.mpr ⟨h.statements, fun v hv => mem_nonBlank hv⟩
  -- Only a line that is kept makes the open text longer, every other one leaves none.
  cases hf with
  | directive t hd named =>
    exact ⟨hterminator, ⟨[], rfl, List.forall_mem_nil _⟩, hstatements _⟩
  | kept hd unclosed =>
    obtain ⟨ls, hopen, hls⟩ := h.openLines
    refine ⟨hterminator, ⟨ls ++ [line], ?_, ?_⟩, h.statements⟩
    · rw [terminated_concat, hopen]
    · rw [List.forall_mem_append, List.forall_mem_singleton]
      exact ⟨hls, hline, unclosed⟩
  | closed body w hd ending blank split =>
    exact ⟨hterminator, ⟨[], rfl, List.forall_mem_nil _⟩, hstatements _⟩

theorem wellFormed_feedAll {s : Splitter} (h : s.WellFormed) {ls : List Text}
    (hls : ∀ l ∈ ls, '\n' ∉ l) : (s.feedAll ls).WellFormed := by
  induction ls generalizing s with
  | nil => exact h
  | cons l ls ih =>
    rw [List.forall_mem_cons] at hls
    rw [feedAll_cons]
    exact ih (wellFormed_feed h hls.1) hls.2

theorem WellFormed.endsLine {s : Splitter} (h : s.WellFormed) :
    s.openText = [] ∨ ['\n'] <:+ s.openText := by
  obtain ⟨ls, hopen, -⟩ := h.openLines
  rcases List.eq_nil_or_concat ls with rfl | ⟨ls, l, rfl⟩
  · exact .inl hopen
  · right
    rw [hopen, List.concat_eq_append, terminated_concat]
    exact List.suffix_append _ _

theorem WellFormed.unclosed {s : Splitter} (h : s.WellFormed) :
    ∀ l ∈ lines s.openText, ¬ s.terminator <:+ trim l := by
  obtain ⟨ls, hopen, hls⟩ := h.openLines
  rw [hopen, lines_terminated fun l hl => (hls l hl).1]
  exact fun l hl => (hls l hl).2

def Closable (t buffer : Text) : Prop :=
  ∃ body gap, breakOnLast t buffer = some (body, gap) ∧ buffer = body ++ t ++ gap ∧
    ¬ t <:+: (t ++ gap).tail ∧ AllBlank gap

theorem closable_of_ending {s : Splitter} (ht : IsTerminator s.terminator) {line : Text}
    (hend : s.terminator <:+ trim line) :
    Closable s.terminator (s.openText ++ line ++ ['\n']) := by
  obtain ⟨w, x, b, -, hb, -, hsplit⟩ := exists_body hend s.openText
  have hlast : breakOnLast s.terminator (s.openText ++ line ++ ['\n']) =
      some (s.openText ++ x, b) := by
    rw [hsplit]
    exact breakOnLast_of_allBlank ht.ne_nil ht.noBlank hb _
  obtain ⟨-, hcut, hbehind⟩ := breakOnLast_eq_some hlast
  exact ⟨s.openText ++ x, b, hlast, hcut, hbehind, hb⟩

theorem feed_of_ending {s : Splitter} {line : Text} (hd : isDirective (trim line) = false)
    (hend : s.terminator <:+ trim line) :
    s.feed line = closeTerminated { s with openText := s.openText ++ line ++ ['\n'] } := by
  rw [feed_eq_append hd, append, if_pos (List.isSuffixOf_iff_suffix.mpr hend)]

/-- Whatever lines have been read, the terminator in force is one that a directive can name, and the
open text is whole lines that do not end with it. The next line closes the open text at the
terminator only where this is found in it, with blanks alone behind its last place. -/
theorem feedAll_invariant (ls : List Text) (hls : ∀ l ∈ ls, '\n' ∉ l) :
    let s := start.feedAll ls
    (s.terminator ≠ [] ∧ NoBlank s.terminator ∧
        (s.terminator = [';'] ∨ ¬ [';'] <:+ s.terminator)) ∧
      (s.openText = [] ∨ ['\n'] <:+ s.openText) ∧
      (∀ l ∈ lines s.openText, ¬ s.terminator <:+ trim l) ∧
      (∀ u ∈ s.statements, u ≠ [] ∧ trim u = u) ∧
      ∀ line,
        let longer := { s with openText := s.openText ++ line ++ ['\n'] }
        (isDirective (trim line) = true ∧
            s.feed line = { s.closeAsItStands with terminator := (s.feed line).terminator }) ∨
          (isDirective (trim line) = false ∧ ¬ s.terminator <:+ trim line ∧
            s.feed line = longer) ∨
          (isDirective (trim line) = false ∧ s.terminator <:+ trim line ∧
            s.feed line = longer.closeTerminated ∧
            Closable longer.terminator longer.openText) := by
  intro s
  have hs : s.WellFormed := wellFormed_feedAll wellFormed_start hls
  have ht := hs.terminator
  refine ⟨⟨ht.ne_nil, ht.noBlank, ht.ending⟩, hs.endsLine, hs.unclosed, hs.statements, ?_⟩
  intro line longer
  cases hd : isDirective (trim line) with
  | true =>
    left
    rw [feed_of_directive s hd]
    exact ⟨rfl, rfl⟩
  | false =>
    right
    by_cases hend : s.terminator <:+ trim line
    · right
      exact ⟨rfl, hend, feed_of_ending hd hend, closable_of_ending ht.toIsTerminator hend⟩
    · left
      rw [feed_eq_append hd]
      exact ⟨rfl, hend, append_of_unclosed hend⟩

theorem feedAll_invariant_threeMarks :
    let ls := ["SET TERM !!; x".toList, "A;".toList, "B!!!".toList, " C;".toList]
    let s := start.feedAll ls
    (∀ l ∈ ls, '\n' ∉ l) ∧ s = ⟨"!!".toList, " C;\n".toList, ["A;\nB!".toList]⟩ ∧
      (∀ l ∈ lines s.openText, ¬ s.terminator <:+ trim l) ∧
      s.feed "D !!!  ".toList = ⟨"!!".toList, [], ["A;\nB!".toList, "C;\nD !".toList]⟩ ∧
      Closable "!!".toList " C;\nD !!!  \n".toList := by
  intro ls s
  have hls : ∀ l ∈ ls, '\n' ∉ l := by decide
  obtain ⟨-, -, hunclosed, -, hnext⟩ := feedAll_invariant ls hls
  have hs : s = ⟨"!!".toList, " C;\n".toList, ["A;\nB!".toList]⟩ := by decide +kernel
  have hclosed : Closable "!!".toList " C;\nD !!!  \n".toList := by
    rcases hnext "D !!!  ".toList with ⟨hd, -⟩ | ⟨-, hend, -⟩ | ⟨-, -, -, hclosed⟩
    · exact absurd hd (by decide)
    · exact absurd (show s.terminator <:+ trim "D !!!  ".toList by rw [hs]; decide) hend
    · have hfound : Closable s.terminator (s.openText ++ "D !!!  ".toList ++ ['\n']) := hclosed
      rwa [hs] at hfound
  refine ⟨hls, hs, hunclosed, ?_, hclosed⟩
  rw [hs]
  decide +kernel

end Splitter

end ScriptReplay
