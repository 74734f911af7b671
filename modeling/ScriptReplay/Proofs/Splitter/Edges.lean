import Mathlib
import ScriptReplay.Proofs.Script.Routing
import ScriptReplay.Proofs.Splitter.WholeText

namespace ScriptReplay

open Text Directive

structure Emission where
  statement : Text
  terminator : Text
  deriving DecidableEq, Repr

def Emission.Tidy (e : Emission) : Prop :=
  e.statement ≠ [] ∧ trim e.statement = e.statement ∧ ¬ e.terminator <:+ e.statement

theorem tidy_of_mem_pieces {t u x : Text} (ht : IsTerminator t) (h : x ∈ nonBlank (pieces t u)) :
    Emission.Tidy ⟨x, t⟩ ∧ ¬ t <+: x := by
  have hfree := free_of_mem_pieces ht h
  obtain ⟨hne, htrim⟩ := mem_nonBlank h
  exact ⟨⟨hne, htrim, fun hs => hfree hs.isInfix⟩, fun hs => hfree hs.isInfix⟩

namespace Splitter

structure Consistent (s : Splitter) : Prop where
  isTerminator : IsTerminator s.terminator
  endsBlank : EndsBlank s.openText
  unclosed : ¬ s.terminator <:+ trim s.openText

theorem unclosed_nil {t : Text} (ht : IsTerminator t) : ¬ t <:+ trim [] :=
  fun h => ht.ne_nil (List.suffix_nil.mp h)

theorem consistent_start : start.Consistent :=
  ⟨isTerminator_default, endsBlank_nil, unclosed_nil isTerminator_default⟩

theorem consistent_feed {s : Splitter} (hs : s.Consistent) (line : Text) :
    (s.feed line).Consistent := by
  refine ⟨isTerminator_feed hs.isTerminator line, endsBlank_feed hs.isTerminator line, ?_⟩
  have ht := isTerminator_feed hs.isTerminator line
  have hf := feed_fed hs.isTerminator line
  generalize s.feed line = u at hf ht
  cases hf with
  | directive => exact unclosed_nil ht
  | kept h unclosed =>
    intro hend
    have hend : s.terminator <:+ trim (s.openText ++ line ++ ['\n']) := hend
    rw [trim_append_blank allBlank_lineFeed] at hend
    -- The open text ends with a line feed, so the terminator is not cut in two by the border.
    rcases suffix_trim_append ht.ne_nil ht.noBlank hs.endsBlank hend with h' | h'
    · exact hs.unclosed h'
    · exact unclosed h'
  | closed => exact unclosed_nil ht

def emitted (s : Splitter) (later : List Text) : List Emission :=
  (later.drop s.statements.length).map (⟨·, s.terminator⟩)

def emissions (s : Splitter) : List Text → List Emission
  | [] => s.emitted s.finish
  | l :: ls => s.emitted (s.feed l).statements ++ (s.feed l).emissions ls

theorem emitted_append (s : Splitter) (new : List Text) :
    s.emitted (s.statements ++ new) = new.map (⟨·, s.terminator⟩) := by
  rw [emitted, List.drop_left]

theorem emitted_statements (s : Splitter) (new : List Text) :
    (s.emitted (s.statements ++ new)).map (·.statement) = new := by
  rw [emitted_append, List.map_map]
  exact List.map_id new

theorem exists_statements_feed {s : Splitter} (hs : s.Consistent) (line : Text) :
    ∃ new, (s.feed line).statements = s.statements ++ new := by
  have hf := feed_fed hs.isTerminator line
  generalize s.feed line = u at hf
  cases hf with
  | directive => exact ⟨_, rfl⟩
  | kept => exact ⟨[], (List.append_nil _).symm⟩
  | closed => exact ⟨_, rfl⟩

theorem emissions_statements {s : Splitter} (hs : s.Consistent) (ls : List Text) :
    s.statements ++ (s.emissions ls).map (·.statement) = (s.feedAll ls).finish := by
  induction ls generalizing s with
  | nil =>
    have hf : (s.feedAll []).finish = s.finish := rfl
    rw [hf, finish_eq hs.isTerminator, emissions, finish_eq hs.isTerminator, emitted_statements]
  | cons l ls ih =>
    obtain ⟨new, hnew⟩ := exists_statements_feed hs l
    have hrest := ih (consistent_feed hs l)
    rw [hnew, List.append_assoc] at hrest
    rw [emissions, List.map_append, hnew, emitted_statements]
    exact hrest

theorem tidy_openText {s : Splitter} (hs : s.Consistent) (h : ¬ AllBlank s.openText) :
    Emission.Tidy ⟨trim s.openText, s.terminator⟩ :=
  ⟨mt trim_eq_nil_iff.mp h, trim_trim _, hs.unclosed⟩

theorem emitted_finish {s : Splitter} (hs : s.Consistent) :
    ∀ e ∈ s.emitted s.finish, e.Tidy ∧ ¬ e.terminator <+: e.statement := by
  intro e he
  rw [finish_eq hs.isTerminator, emitted_append] at he
  obtain ⟨x, hx, rfl⟩ := List.mem_map.mp he
  exact tidy_of_mem_pieces hs.isTerminator hx

theorem emitted_feed {s : Splitter} (hs : s.Consistent) (line : Text) :
    (∀ e ∈ s.emitted (s.feed line).statements, e.Tidy) ∧
      ((∀ e ∈ s.emitted (s.feed line).statements, ¬ e.terminator <+: e.statement) ↔
        (isDirective (trim line) = true → ¬ s.terminator <+: trim s.openText)) := by
  have hf := feed_fed hs.isTerminator line
  generalize s.feed line = u at hf
  cases hf with
  | directive t h named =>
    rw [emitted_append]
    by_cases hb : AllBlank s.openText
    · have hnone : ¬ s.terminator <+: trim s.openText := by
        rw [trim_eq_nil_iff.mpr hb]
        exact fun hp => hs.isTerminator.ne_nil (List.prefix_nil.mp hp)
      simp [nonBlank_of_allBlank hb, hnone]
    · simp [nonBlank_of_not_allBlank hb, tidy_openText hs hb, h]
  | kept h unclosed =>
    have hnil : s.emitted s.statements = [] := by simp [emitted]
    simp [hnil, h]
  | closed body w h ending blank split =>
    rw [emitted_append]
    have hall : ∀ e ∈ (nonBlank (pieces s.terminator body)).map (Emission.mk · s.terminator),
        e.Tidy ∧ ¬ e.terminator <+: e.statement := by
      intro e he
      obtain ⟨x, hx, rfl⟩ := List.mem_map.mp he
      exact tidy_of_mem_pieces hs.isTerminator hx
    refine ⟨fun e he => (hall e he).1, fun _ hd => ?_, fun _ e he => (hall e he).2⟩
    rw [h] at hd
    cases hd

theorem emissions_tidy {s : Splitter} (hs : s.Consistent) (ls : List Text) :
    ∀ e ∈ s.emissions ls, e.Tidy := by
  induction ls generalizing s with
  | nil => exact fun e he => (emitted_finish hs e he).1
  | cons l ls ih =>
    intro e he
    rcases List.mem_append.mp he with he | he
    · exact (emitted_feed hs l).1 e he
    · exact ih (consistent_feed hs l) e he

theorem forall_splits_cons {P : List Text → Text → Prop} (l : Text) (ls : List Text) :
    (∀ before d after, l :: ls = before ++ d :: after → P before d) ↔
      P [] l ∧ ∀ before d after, ls = before ++ d :: after → P (l :: before) d := by
  constructor
  · intro h
    refine ⟨h [] l ls rfl, ?_⟩
    intro before d after hsplit
    exact h (l :: before) d after (by rw [hsplit]; rfl)
  · rintro ⟨hfirst, hrest⟩ before d after hsplit
    cases before with
    | nil =>
      cases hsplit
      exact hfirst
    | cons m before =>
      cases hsplit
      exact hrest before d after rfl

theorem emissions_begin_iff {s : Splitter} (hs : s.Consistent) (ls : List Text) :
    (∀ e ∈ s.emissions ls, ¬ e.terminator <+: e.statement) ↔
      ∀ before d after, ls = before ++ d :: after → isDirective (trim d) = true →
        ¬ (s.feedAll before).terminator <+: trim (s.feedAll before).openText := by
  induction ls generalizing s with
  | nil =>
    constructor
    · intro _ before d after hsplit
      exact absurd hsplit.symm (List.append_ne_nil_of_right_ne_nil _ (List.cons_ne_nil _ _))
    · exact fun _ e he => (emitted_finish hs e he).2
  | cons l ls ih =>
    rw [emissions, List.forall_mem_append, (emitted_feed hs l).2, ih (consistent_feed hs l)]
    exact (forall_splits_cons (P := fun before d => isDirective (trim d) = true →
      ¬ (s.feedAll before).terminator <+: trim (s.feedAll before).openText) l ls).symm

end Splitter

namespace Script

def emissions (source : Text) : List Emission :=
  if (read source).directed then Splitter.start.emissions (lines (Comment.strip source))
  else (read source).statements.map (⟨·, defaultTerminator⟩)

theorem splitDirected_strip (source : Text) : splitDirected (Comment.strip source) =
    (Splitter.start.feedAll (lines (Comment.strip source))).finish := by
  rw [splitDirected, unifyBreaks_eq_self (Comment.return_not_mem_strip source)]

/-- Statements are not blank, trimmed, and do not end with the terminator in force. They do not begin
with it either, exactly if no directive cuts off an open text that does. -/
theorem emissions_edges_iff (source : Text) :
    (emissions source).map (·.statement) = (read source).statements ∧
      (∀ e ∈ emissions source, e.statement ≠ [] ∧ trim e.statement = e.statement ∧
        ¬ e.terminator <:+ e.statement) ∧
      ((∀ e ∈ emissions source, ¬ e.terminator <+: e.statement) ↔
        ((read source).directed = true → ∀ before d after,
          lines (Comment.strip source) = before ++ d :: after → isDirective (trim d) = true →
            let s := Splitter.start.feedAll before
            ¬ s.terminator <+: trim s.openText)) := by
  by_cases hm : mentionedIn source = true
  · have hread : read source = ⟨splitDirected (Comment.strip source), true⟩ := by
      rw [read_eq, if_pos hm]
    have he : emissions source = Splitter.start.emissions (lines (Comment.strip source)) := by
      rw [emissions, hread, if_pos rfl]
    have hstart := Splitter.consistent_start
    rw [he, hread]
    refine ⟨?_, Splitter.emissions_tidy hstart _, ?_⟩
    · have hall := Splitter.emissions_statements hstart (lines (Comment.strip source))
      rw [splitDirected_strip, ← hall]
      rfl
    · rw [Splitter.emissions_begin_iff hstart]
      exact ⟨fun h _ => h, fun h => h rfl⟩
  · have hread : read source = ⟨splitPlain (Comment.strip source), false⟩ := by
      rw [read_eq, if_neg hm]
    have he : emissions source =
        (splitPlain (Comment.strip source)).map (Emission.mk · defaultTerminator) := by
      rw [emissions, hread, if_neg Bool.false_ne_true]
    have hall : ∀ e ∈ emissions source, e.Tidy ∧ ¬ e.terminator <+: e.statement := by
      intro e hmem
      rw [he] at hmem
      obtain ⟨x, hx, rfl⟩ := List.mem_map.mp hmem
      exact tidy_of_mem_pieces isTerminator_default hx
    refine ⟨?_, fun e hmem => (hall e hmem).1, ?_⟩
    · rw [he, hread, List.map_map]
      exact List.map_id _
    · rw [hread]
      constructor
      · intro _ hd
        cases hd
      · exact fun _ e hmem => (hall e hmem).2

def openSemicolon : Text := ";A\nSET TERM ^ ;".toList

theorem emissions_of_openSemicolon :
    read openSemicolon = ⟨[";A".toList], true⟩ ∧
      emissions openSemicolon = [⟨";A".toList, defaultTerminator⟩] ∧
      defaultTerminator <+: ";A".toList := by
  have hstrip : Comment.strip openSemicolon = openSemicolon := by cbv
  have hread : read openSemicolon = ⟨[";A".toList], true⟩ := by
    rw [read_eq, if_pos (by decide), hstrip]
    decide +kernel
  rw [emissions, hread, hstrip]
  exact ⟨rfl, by decide +kernel, by decide⟩

end Script

end ScriptReplay
