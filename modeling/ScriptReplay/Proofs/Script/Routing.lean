import Mathlib
import ScriptReplay.Proofs.Splitter.WholeText

namespace ScriptReplay

open Text Directive

theorem capital_cases (c : Char) :
    capital c = [c.toUpper] ∨ (isBlank c = false ∧ c.toUpper ∉ keyword) := by
  unfold capital
  split
  case h_18 => exact .inl rfl
  all_goals exact .inr (by decide)

theorem capitals_append (a b : Text) : capitals (a ++ b) = capitals a ++ capitals b :=
  List.flatMap_append

theorem capitals_of_keyword {t : Text} (h : t.map Char.toUpper = keyword) :
    capitals t = keyword := by
  rw [← h, capitals, List.map_eq_flatMap]
  apply List.flatMap_congr
  intro c hc
  have hmem : c.toUpper ∈ keyword := by
    rw [← h]
    exact List.mem_map_of_mem hc
  exact (capital_cases c).resolve_right fun hother => hother.2 hmem

theorem exists_piece_of_infix {c : Char} {k t : Text} (hk : c ∉ k) (h : k <:+: t) :
    ∃ p ∈ pieces [c] t, k <:+: p := by
  fun_induction pieces [c] t with
  | case1 t hn => exact ⟨_, List.mem_cons_self, h⟩
  | case2 t a b hs ih =>
    obtain ⟨-, rfl⟩ := breakOn_eq_some hs
    rw [List.append_assoc] at h
    rcases infix_of_cut hk h with h | h
    · exact ⟨a, List.mem_cons_self, h⟩
    · obtain ⟨p, hp, hkp⟩ := ih h
      exact ⟨p, List.mem_cons_of_mem a hp, hkp⟩

namespace Directive

theorem exists_keyword {line : Text} (h : isDirective line = true) :
    ∃ u v w, line.take keyword.length = u ++ v ++ w ∧ u ≠ [] ∧ NoBlank u ∧ w ≠ [] ∧ NoBlank w := by
  have hk : (line.take keyword.length).map Char.toUpper =
      ['S', 'E', 'T'] ++ [' '] ++ ['T', 'E', 'R', 'M'] := eq_of_beq h
  obtain ⟨uv, w, hline, huv, hw⟩ := List.map_eq_append_iff.mp hk
  obtain ⟨u, v, rfl, hu, -⟩ := List.map_eq_append_iff.mp huv
  have hedge {t word : Text} (ht : t.map Char.toUpper = word) (hn : NoBlank word) : NoBlank t := by
    intro c hc
    rw [← isBlank_toUpper]
    exact hn _ (ht ▸ List.mem_map_of_mem hc)
  refine ⟨u, v, w, hline, ?_, hedge hu (noBlank_of_any rfl), ?_, hedge hw (noBlank_of_any rfl)⟩
  · rintro rfl
    cases hu
  · rintro rfl
    cases hw

theorem semicolon_not_mem_keyword {line : Text} (h : isDirective line = true) :
    ';' ∉ line.take keyword.length := by
  intro hmem
  have hword : (line.take keyword.length).map Char.toUpper = keyword := eq_of_beq h
  have hupper : ';' ∈ keyword := hword ▸ List.mem_map_of_mem hmem
  exact absurd hupper (by decide)

theorem effects_ne_nil {ls : List Text} (h : ∃ l ∈ ls, isDirective (trim l) = true) (active : Text) :
    effects active ls ≠ [] := by
  induction ls generalizing active with
  | nil => exact absurd h (by simp)
  | cons l ls ih =>
    rw [effects]
    by_cases hd : isDirective (trim l) = true
    · simp only [hd, if_true]
      split <;> exact List.cons_ne_nil _ _
    · simp only [if_neg hd]
      obtain ⟨m, hm, hmd⟩ := h
      rcases List.mem_cons.mp hm with rfl | hm
      · exact absurd hmd hd
      · exact ih ⟨m, hm, hmd⟩ active

theorem mentionedIn_of_isDirective {k source : Text} (h : isDirective k = true)
    (hk : k <:+: source) : mentionedIn source = true := by
  have hword : (k.take keyword.length).map Char.toUpper = keyword := eq_of_beq h
  obtain ⟨a, b, hab⟩ := (List.take_prefix keyword.length k).isInfix.trans hk
  apply (contains_iff (by decide)).mpr
  rw [← hab, capitals_append, capitals_append, capitals_of_keyword hword]
  exact ⟨capitals a, capitals b, rfl⟩

theorem not_blank_of_mentionedIn {source : Text} (h : mentionedIn source = true) :
    trim source ≠ [] := by
  intro hb
  have hkey : keyword <:+: capitals source := (contains_iff (by decide)).mp h
  have hS : 'S' ∈ capitals source := hkey.subset (by decide)
  obtain ⟨c, hc, hcS⟩ := List.mem_flatMap.mp hS
  have hblank := trim_eq_nil_iff.mp hb c hc
  rcases capital_cases c with hcap | ⟨hn, -⟩
  · rw [hcap, List.mem_singleton] at hcS
    rw [← isBlank_toUpper, ← hcS] at hblank
    exact absurd hblank (by decide)
  · rw [hn] at hblank
    exact absurd hblank Bool.false_ne_true

end Directive

namespace Script

theorem read_eq (source : Text) :
    read source = if mentionedIn source then ⟨splitDirected (Comment.strip source), true⟩
      else ⟨splitPlain (Comment.strip source), false⟩ := by
  by_cases hb : trim source = []
  · have hm : ¬ mentionedIn source = true := fun h => not_blank_of_mentionedIn h hb
    have hs := read_statements_of_blank hb
    rw [if_neg hm, ← hs, read, if_pos hb]
    rfl
  · rw [read, if_neg hb]

theorem exists_directive_in_splitPlain {t : Text}
    (h : ∃ l ∈ lines t, isDirective (trim l) = true) :
    ∃ s ∈ splitPlain t, ∃ k, k <:+: s ∧ isDirective k = true := by
  obtain ⟨l, hl, hd⟩ := h
  have hpart := ((List.take_prefix keyword.length (trim l)).isInfix.trans (trim_isInfix l)).trans
    (mem_lines hl).2
  obtain ⟨p, hp, hk⟩ := exists_piece_of_infix (semicolon_not_mem_keyword hd) hpart
  obtain ⟨u, v, w, hword, hu, hun, hw, hwn⟩ := exists_keyword hd
  have htrim : (trim l).take keyword.length <:+: trim p := by
    rw [hword] at hk ⊢
    exact infix_trim hu hun hw hwn hk
  refine ⟨trim p, ?_, _, htrim, ?_⟩
  · apply List.mem_filter.mpr
    refine ⟨List.mem_map_of_mem hp, decide_eq_true fun hnil => ?_⟩
    rw [hnil, hword] at htrim
    have huv := (List.append_eq_nil_iff.mp (List.infix_nil.mp htrim)).1
    exact hu (List.append_eq_nil_iff.mp huv).1
  · rw [isDirective, List.take_take, Nat.min_self]
    exact hd

/-- A directive that is left when the comments are gone is obeyed if the script mentions the keyword
as it is given; if not, it becomes part of a statement. Only the removal of a block comment can put
the keyword of such a line together. -/
theorem read_of_directive_line {source : Text}
    (h : ∃ l ∈ lines (Comment.strip source), isDirective (trim l) = true) :
    (mentionedIn source = true →
        read source = ⟨splitDirected (Comment.strip source), true⟩ ∧ directiveEffects source ≠ []) ∧
      ((∃ k, k <:+: source ∧ isDirective k = true) ∨ ¬ Comment.opening <:+: source ∨
        ¬ Comment.closing <:+: source → mentionedIn source = true) ∧
      (mentionedIn source = false →
        read source = ⟨splitPlain (Comment.strip source), false⟩ ∧
          ∃ s ∈ (read source).statements, ∃ k, k <:+: s ∧ isDirective k = true) := by
  refine ⟨fun hm => ?_, ?_, fun hm => ?_⟩
  · have hread : read source = ⟨splitDirected (Comment.strip source), true⟩ := by
      rw [read_eq, if_pos hm]
    refine ⟨hread, ?_⟩
    rw [directiveEffects, hread, unifyBreaks_eq_self (Comment.return_not_mem_strip source)]
    exact effects_ne_nil h defaultTerminator
  · rintro (⟨k, hk, hd⟩ | hfree)
    · exact mentionedIn_of_isDirective hd hk
    · obtain ⟨l, hl, hd⟩ := h
      obtain ⟨hfeed, hinfix⟩ := mem_lines hl
      have hline := trim_isInfix l
      have hkeyword : '\n' ∉ trim l := fun hm => hfeed (hline.subset hm)
      have hsource := Comment.within_strip hfree (trim l) hkeyword (hline.trans hinfix)
      exact mentionedIn_of_isDirective hd hsource
  · have hread : read source = ⟨splitPlain (Comment.strip source), false⟩ := by
      rw [read_eq, hm]
      rfl
    rw [hread]
    exact ⟨rfl, exists_directive_in_splitPlain h⟩

def wholeKeyword : Text := "/* A */ set Term ^ ; -- B\nC;^".toList

def brokenKeyword : Text := "SET/**/ TERM ^ ;\nA;^".toList

theorem read_of_wholeKeyword :
    (∃ l ∈ lines (Comment.strip wholeKeyword), isDirective (trim l) = true) ∧
      (∃ k, k <:+: wholeKeyword ∧ isDirective k = true) ∧
      read wholeKeyword = ⟨["C;".toList], true⟩ := by
  have hstrip : Comment.strip wholeKeyword = " set Term ^ ; \nC;^".toList := by cbv
  have h : ∃ l ∈ lines (Comment.strip wholeKeyword), isDirective (trim l) = true := by
    rw [hstrip]
    decide
  have hpart : ∃ k, k <:+: wholeKeyword ∧ isDirective k = true :=
    ⟨"set Term".toList, ⟨"/* A */ ".toList, " ^ ; -- B\nC;^".toList, by decide⟩, by decide⟩
  obtain ⟨hdirected, hmention, -⟩ := read_of_directive_line h
  refine ⟨h, hpart, ?_⟩
  rw [(hdirected (hmention (.inl hpart))).1, hstrip]
  decide +kernel

theorem read_of_brokenKeyword :
    (∃ l ∈ lines (Comment.strip brokenKeyword), isDirective (trim l) = true) ∧
      splitDirected (Comment.strip brokenKeyword) = ["A;".toList] ∧
      read brokenKeyword = ⟨["SET TERM ^".toList, "A".toList, "^".toList], false⟩ := by
  have hstrip : Comment.strip brokenKeyword = "SET TERM ^ ;\nA;^".toList := by cbv
  have hmention : ¬ mentionedIn brokenKeyword = true := by decide
  rw [read_eq, if_neg hmention, hstrip]
  refine ⟨⟨"SET TERM ^ ;".toList, by decide, by decide⟩, by decide +kernel, by cbv⟩

end Script

end ScriptReplay
