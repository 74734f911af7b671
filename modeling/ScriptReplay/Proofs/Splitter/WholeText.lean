import Mathlib
import ScriptReplay.Proofs.Comment.Settling
import ScriptReplay.Proofs.Splitter.Feeding
import ScriptReplay.Proofs.Text.Lines
import ScriptReplay.Script.Reading

namespace ScriptReplay

open Text Directive

theorem nonBlank_pieces_of_allBlank {t w : Text} (ht : IsTerminator t) (hw : AllBlank w) :
    nonBlank (pieces t w) = [] := by
  rw [pieces_of_none (breakOn_of_allBlank ht.ne_nil ht.noBlank hw), nonBlank_of_allBlank hw]

theorem nonBlank_pieces_blank_append {t w : Text} (ht : IsTerminator t) (hw : AllBlank w)
    (u : Text) : nonBlank (pieces t (w ++ u)) = nonBlank (pieces t u) := by
  have ha : Apart t w u := apart_of_endsBlank ht.noBlank (endsBlank_of_allBlank hw)
  obtain ⟨q, qs, hq, hpq⟩ :=
    pieces_append_of_none ht.ne_nil (breakOn_of_allBlank ht.ne_nil ht.noBlank hw) ha
  rw [hpq, hq, nonBlank_cons, nonBlank_cons q, nonBlank_congr (trim_blank_append hw)]

theorem nonBlank_pieces_append_blank {t w : Text} (ht : IsTerminator t) (hw : AllBlank w)
    (u : Text) : nonBlank (pieces t (u ++ w)) = nonBlank (pieces t u) := by
  have ha : Apart t u w := apart_of_startsBlank ht.noBlank (startsBlank_of_allBlank hw)
  obtain ⟨ps, p, q, qs, hp, hq, hpq⟩ := pieces_append ht.ne_nil ha
  rw [pieces_of_none (breakOn_of_allBlank ht.ne_nil ht.noBlank hw)] at hq
  cases hq
  rw [hpq, hp, nonBlank_append, nonBlank_append, nonBlank_congr (trim_append_blank hw)]

namespace Splitter

theorem finish_eq {s : Splitter} (ht : IsTerminator s.terminator) :
    s.finish = s.statements ++ nonBlank (pieces s.terminator s.openText) := by
  by_cases h : trim s.openText = []
  · rw [finish, if_pos h, nonBlank_pieces_of_allBlank ht (trim_eq_nil_iff.mp h), List.append_nil]
  · rw [finish, if_neg h]

theorem finish_feedAll {s : Splitter} (ht : IsTerminator s.terminator)
    (ho : NoOverlap s.terminator) {ls : List Text}
    (hls : ∀ l ∈ ls, isDirective (trim l) = false) :
    (s.feedAll ls).finish =
      s.statements ++ nonBlank (pieces s.terminator (s.openText ++ terminated ls)) := by
  induction ls generalizing s with
  | nil =>
    rw [terminated, List.flatMap_nil, List.append_nil]
    exact finish_eq ht
  | cons l ls ih =>
    have hl := hls l List.mem_cons_self
    have hrest : ∀ m ∈ ls, isDirective (trim m) = false :=
      fun m hm => hls m (List.mem_cons_of_mem l hm)
    rw [feedAll_cons, terminated_cons]
    have hf := feed_fed ht l
    generalize s.feed l = u at hf
    cases hf with
    | directive t h named =>
      rw [hl] at h
      cases h
    | kept h unclosed =>
      rw [ih (s := { s with openText := s.openText ++ l ++ ['\n'] }) ht ho hrest]
      simp only [List.append_assoc]
    | closed body w h ending blank split =>
      let cut := s.statements ++ nonBlank (pieces s.terminator body)
      rw [ih (s := ⟨s.terminator, [], cut⟩) ht ho hrest, List.nil_append]
      calc s.statements ++ nonBlank (pieces s.terminator body) ++
            nonBlank (pieces s.terminator (terminated ls))
          = s.statements ++ nonBlank (pieces s.terminator body ++
              pieces s.terminator (w ++ terminated ls)) := by
            rw [nonBlank_append, nonBlank_pieces_blank_append ht blank, List.append_assoc]
        _ = s.statements ++ nonBlank (pieces s.terminator
              (body ++ s.terminator ++ (w ++ terminated ls))) := by
            rw [pieces_append_sep ht.ne_nil ho]
        _ = _ := by
            rw [← List.append_assoc, ← split]
            simp only [List.append_assoc]

end Splitter

theorem noOverlap_default : NoOverlap defaultTerminator := by
  intro y hy hne hpre
  rcases List.prefix_cons_iff.mp hpre with rfl | ⟨t, rfl, ht⟩
  · exact absurd rfl hy
  · rw [List.prefix_nil.mp ht] at hne
    exact absurd rfl hne

theorem nonBlank_pieces_terminated_lines {s : Text} (hs : IsTerminator s) (t : Text) :
    nonBlank (pieces s (terminated (lines t))) = nonBlank (pieces s t) := by
  rcases terminated_lines t with h | h
  · rw [h]
  · rw [h, nonBlank_pieces_append_blank hs allBlank_lineFeed]

theorem splitDirected_eq_splitPlain {t : Text} (hr : '\r' ∉ t)
    (h : ∀ l ∈ lines t, isDirective (trim l) = false) : splitDirected t = splitPlain t := by
  have hf := Splitter.finish_feedAll (s := Splitter.start) isTerminator_default noOverlap_default h
  rw [splitDirected, unifyBreaks_eq_self hr, hf]
  exact nonBlank_pieces_terminated_lines isTerminator_default t

namespace Script

theorem read_statements_of_blank {source : Text} (h : trim source = []) :
    (read source).statements = splitPlain (Comment.strip source) := by
  have hb : AllBlank (Comment.strip source) := by
    intro c hc
    exact allBlank_unifyBreaks (trim_eq_nil_iff.mp h) c ((Comment.strip_sublist source).subset hc)
  rw [splitPlain, nonBlank_pieces_of_allBlank isTerminator_default hb, read, if_pos h]
  rfl

theorem read_statements_eq_splitPlain (source : Text)
    (h : ∀ l ∈ lines (Comment.strip source), isDirective (trim l) = false) :
    (read source).statements = splitPlain (Comment.strip source) ∧
      splitDirected (Comment.strip source) = splitPlain (Comment.strip source) := by
  have hpaths := splitDirected_eq_splitPlain (Comment.return_not_mem_strip source) h
  refine ⟨?_, hpaths⟩
  by_cases hb : trim source = []
  · exact read_statements_of_blank hb
  · by_cases hm : mentionedIn source = true
    · rw [read, if_neg hb, if_pos hm]
      exact hpaths
    · rw [read, if_neg hb, if_neg hm]

def mentioning : Text := "ſet term -- SET TERM ^ ;\n; B SET TERM ;;C".toList

theorem read_statements_of_mention :
    (read mentioning).directed = true ∧
      (∀ l ∈ lines (Comment.strip mentioning), isDirective (trim l) = false) ∧
      (read mentioning).statements = ["ſet term".toList, "B SET TERM".toList, "C".toList] := by
  have hlines : lines (Comment.strip mentioning) =
      ["ſet term ".toList, "; B SET TERM ;;C".toList] := by cbv
  have h : ∀ l ∈ lines (Comment.strip mentioning), isDirective (trim l) = false := by
    rw [hlines]
    decide
  refine ⟨by cbv, h, ?_⟩
  rw [(read_statements_eq_splitPlain mentioning h).1]
  cbv

end Script

end ScriptReplay
