import ScriptReplay.Proofs.Splitter.Feeding
import ScriptReplay.Proofs.Text.Lines

/-!
Cutting a text loses, repeats and moves nothing. The lines that are no directives, put together, are
the statements in their order with gaps around them, and a gap is made of blanks and of whole
terminators, each standing where it is in force.
-/

namespace ScriptReplay

open Text Directive

abbrev Marked := List (Char × Text)

def mark (terminator t : Text) : Marked :=
  t.map (·, terminator)

theorem mark_nil (t : Text) : mark t [] = [] := rfl

theorem mark_append (t a b : Text) : mark t (a ++ b) = mark t a ++ mark t b :=
  List.map_append

theorem mark_text (t a : Text) : (mark t a).map Prod.fst = a := by
  rw [mark, List.map_map]
  exact List.map_id a

inductive Gap : Marked → Prop
  | nil : Gap []
  | blank {c : Char} (t : Text) {r : Marked} (hc : isBlank c = true) (h : Gap r) :
    Gap ((c, t) :: r)
  | terminator (t : Text) {r : Marked} (h : Gap r) : Gap (mark t t ++ r)

theorem gap_append {a b : Marked} (ha : Gap a) (hb : Gap b) : Gap (a ++ b) := by
  induction ha with
  | nil => exact hb
  | blank t hc h ih => exact .blank t hc ih
  | terminator t h ih =>
    rw [List.append_assoc]
    exact .terminator t ih

theorem gap_of_allBlank {w : Text} (h : AllBlank w) (t : Text) : Gap (mark t w) := by
  induction w with
  | nil => exact .nil
  | cons c w ih =>
    exact .blank t (h c List.mem_cons_self) (ih fun x hx => h x (List.mem_cons_of_mem c hx))

theorem gap_terminator (t : Text) : Gap (mark t t) := by
  have h := Gap.terminator t .nil
  rwa [List.append_nil] at h

/-- A marked text is made of these statements, in this order, and of gaps around them. -/
inductive Covers : List Text → Marked → Prop
  | gap {w : Marked} (h : Gap w) : Covers [] w
  | statement {w m r : Marked} {s : Text} {ss : List Text} (h : Gap w)
    (hm : m.map Prod.fst = s) (hr : Covers ss r) : Covers (s :: ss) (w ++ m ++ r)

theorem covers_gap_append {w r : Marked} {ss : List Text} (hw : Gap w) (h : Covers ss r) :
    Covers ss (w ++ r) := by
  cases h with
  | gap hr => exact .gap (gap_append hw hr)
  | statement h hm hr =>
    rw [← List.append_assoc, ← List.append_assoc]
    exact .statement (gap_append hw h) hm hr

theorem covers_append {a b : Marked} {ss us : List Text} (ha : Covers ss a) (hb : Covers us b) :
    Covers (ss ++ us) (a ++ b) := by
  induction ha with
  | gap h => exact covers_gap_append h hb
  | statement h hm hr ih =>
    rw [List.append_assoc, List.cons_append]
    exact .statement h hm ih

theorem covers_nonBlank (t p : Text) : Covers (nonBlank [p]) (mark t p) := by
  by_cases hp : AllBlank p
  · rw [nonBlank_of_allBlank hp]
    exact .gap (gap_of_allBlank hp t)
  · rw [nonBlank_of_not_allBlank hp]
    obtain ⟨a, b, ha, hb, he⟩ := exists_trim p
    have hcovers : Covers [trim p] (mark t a ++ mark t (trim p) ++ mark t b) :=
      .statement (gap_of_allBlank ha t) (mark_text t _) (.gap (gap_of_allBlank hb t))
    rwa [← mark_append, ← mark_append, ← he] at hcovers

theorem covers_pieces (t u : Text) : Covers (nonBlank (pieces t u)) (mark t u) := by
  fun_induction pieces t u with
  | case1 u h => exact covers_nonBlank t u
  | case2 u a b h ih =>
    obtain ⟨-, rfl⟩ := breakOn_eq_some h
    rw [nonBlank_cons, mark_append, mark_append, List.append_assoc]
    apply covers_append (covers_nonBlank t a)
    exact covers_gap_append (gap_terminator t) ih

namespace Splitter

def keptLines (s : Splitter) : List Text → Marked
  | [] => []
  | l :: ls =>
    if isDirective (trim l) then keptLines (s.feed l) ls
    else mark s.terminator (l ++ ['\n']) ++ keptLines (s.feed l) ls

theorem keptLines_text (s : Splitter) (ls : List Text) :
    (s.keptLines ls).map Prod.fst = terminated (ls.filter fun l => !isDirective (trim l)) := by
  induction ls generalizing s with
  | nil => rfl
  | cons l ls ih =>
    cases hd : isDirective (trim l) with
    | true =>
      rw [keptLines, if_pos hd, ih, List.filter_cons_of_neg (by simp [hd])]
    | false =>
      rw [keptLines, if_neg (by simp [hd]), List.map_append, mark_text, ih,
        List.filter_cons_of_pos (by simp [hd]), terminated_cons]

theorem covers_finish (s : Splitter) :
    ∃ parts, s.finish = s.statements ++ nonBlank parts ∧
      Covers (nonBlank parts) (mark s.terminator s.openText) := by
  by_cases h : trim s.openText = []
  · refine ⟨[], ?_, .gap (gap_of_allBlank (trim_eq_nil_iff.mp h) _)⟩
    rw [finish, if_pos h, nonBlank_nil, List.append_nil]
  · exact ⟨_, if_neg h, covers_pieces s.terminator s.openText⟩

theorem covers_feed {s : Splitter} (ht : IsTerminator s.terminator) (l : Text) :
    ∃ parts, (s.feed l).statements = s.statements ++ nonBlank parts ∧
      ∀ us r, Covers us (mark (s.feed l).terminator (s.feed l).openText ++ r) →
        Covers (nonBlank parts ++ us) (mark s.terminator s.openText ++
          ((if isDirective (trim l) then [] else mark s.terminator (l ++ ['\n'])) ++ r)) := by
  have hf := feed_fed ht l
  generalize s.feed l = u at hf
  cases hf with
  | directive t h named =>
    refine ⟨[s.openText], rfl, ?_⟩
    intro us r hr
    rw [if_pos h]
    exact covers_append (covers_nonBlank _ _) hr
  | kept h unclosed =>
    refine ⟨[], (List.append_nil _).symm, ?_⟩
    intro us r hr
    rw [if_neg (by simp [h])]
    rw [mark_append, mark_append, List.append_assoc, List.append_assoc] at hr
    rwa [mark_append, List.append_assoc]
  | closed body w h ending blank split =>
    refine ⟨pieces s.terminator body, rfl, ?_⟩
    intro us r hr
    have hgap : Gap (mark s.terminator s.terminator ++ mark s.terminator w) :=
      gap_append (gap_terminator _) (gap_of_allBlank blank _)
    have hcovers := covers_append (covers_pieces s.terminator body) (covers_gap_append hgap hr)
    rw [mark_nil, List.nil_append] at hcovers
    rw [if_neg (by simp [h]), ← List.append_assoc, ← mark_append, ← List.append_assoc s.openText,
      split, mark_append, mark_append, List.append_assoc, List.append_assoc]
    rwa [List.append_assoc] at hcovers

theorem covers_feedAll {s : Splitter} (ht : IsTerminator s.terminator) (ls : List Text) :
    ∃ parts, (s.feedAll ls).finish = s.statements ++ nonBlank parts ∧
      Covers (nonBlank parts) (mark s.terminator s.openText ++ s.keptLines ls) := by
  induction ls generalizing s with
  | nil =>
    rw [keptLines, List.append_nil]
    exact covers_finish s
  | cons l ls ih =>
    obtain ⟨parts, hs, hstep⟩ := covers_feed ht l
    obtain ⟨later, hu, hrest⟩ := ih (isTerminator_feed ht l)
    refine ⟨parts ++ later, ?_, ?_⟩
    · rw [feedAll_cons, hu, hs, nonBlank_append, List.append_assoc]
    · have h := hstep _ _ hrest
      rw [nonBlank_append, keptLines]
      cases hd : isDirective (trim l) with
      | true => rwa [if_pos hd] at h
      | false => rwa [if_neg (by simp [hd])] at h

end Splitter

theorem splitDirected_covers (t : Text) :
    let ls := lines (unifyBreaks t)
    let kept := Splitter.start.keptLines ls
    kept.map Prod.fst = terminated (ls.filter fun l => !isDirective (trim l)) ∧
      (∀ s ∈ splitDirected t, s ≠ [] ∧ trim s = s) ∧ Covers (splitDirected t) kept := by
  intro ls kept
  obtain ⟨parts, hs, hc⟩ := Splitter.covers_feedAll (s := Splitter.start) isTerminator_default ls
  have he : splitDirected t = nonBlank parts := hs
  rw [he]
  exact ⟨Splitter.keptLines_text _ ls, fun s hmem => mem_nonBlank hmem, hc⟩

end ScriptReplay
