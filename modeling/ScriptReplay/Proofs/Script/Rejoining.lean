import Mathlib
import ScriptReplay.Proofs.Comment.NormalForm
import ScriptReplay.Proofs.Script.Routing
import ScriptReplay.Proofs.Splitter.Conservation

namespace ScriptReplay

open Text Directive Comment

def rejoined (ss : List Text) : Text :=
  joinLines (ss.map (· ++ defaultTerminator))

theorem infix_of_semicolon {k s : Text} (hk : ';' ∉ k) (h : k <:+: s ++ defaultTerminator) :
    k <:+: s := by
  rcases infix_of_cut (b := []) hk h with h | h
  · exact h
  · rw [List.infix_nil.mp h]
    exact List.nil_infix

theorem infix_of_rejoined {k : Text} (hne : k ≠ []) (hf : '\n' ∉ k) (hk : ';' ∉ k) {ss : List Text}
    (h : k <:+: rejoined ss) : ∃ s ∈ ss, k <:+: s := by
  obtain ⟨l, hl, hkl⟩ := infix_of_joinLines hne hf h
  obtain ⟨s, hs, rfl⟩ := List.mem_map.mp hl
  exact ⟨s, hs, infix_of_semicolon hk hkl⟩

theorem infix_of_covers {ss : List Text} {m : Marked} (h : Covers ss m) :
    ∀ s ∈ ss, s <:+: m.map Prod.fst := by
  induction h with
  | gap h => exact List.forall_mem_nil _
  | @statement w m r s ss h hm hr ih =>
    rw [List.forall_mem_cons, List.map_append, List.map_append, hm]
    constructor
    · exact ⟨w.map Prod.fst, r.map Prod.fst, rfl⟩
    · intro u hu
      exact (ih u hu).trans (List.suffix_append _ _).isInfix

theorem pairwise_of_covers {ss : List Text} {m : Marked} (h : Covers ss m)
    (hb : ¬ HasBlock (m.map Prod.fst)) :
    ss.Pairwise fun s u => opening <:+: s → ¬ closing <:+: u := by
  induction h with
  | gap h => exact List.Pairwise.nil
  | @statement w m r s ss h hm hr ih =>
    rw [List.map_append, List.map_append, hm, List.append_assoc] at hb
    apply List.Pairwise.cons
    · intro u hu hopen hclose
      apply hb
      apply hasBlock_within (List.suffix_append _ _).isInfix
      exact hasBlock_append hopen (hclose.trans (infix_of_covers hr u hu))
    · apply ih
      intro hrest
      apply hb
      rw [← List.append_assoc]
      exact hasBlock_within (List.suffix_append _ _).isInfix hrest

theorem noBlock_joinLines {ls : List Text} (hb : ∀ l ∈ ls, ¬ HasBlock l)
    (hp : ls.Pairwise fun l m => opening <:+: l → ¬ closing <:+: m) : ¬ HasBlock (joinLines ls) := by
  induction ls with
  | nil =>
    intro h
    exact absurd (List.infix_nil.mp (opening_of_hasBlock h)) (by decide)
  | cons l ls ih =>
    obtain ⟨hfirst, hrest⟩ := List.pairwise_cons.mp hp
    by_cases hls : ls = []
    · rw [hls, joinLines]
      exact hb l List.mem_cons_self
    · rw [joinLines_cons hls]
      intro h
      rcases hasBlock_of_cut (by decide) (by decide) h with h | h | ⟨hopen, hclose⟩
      · exact hb l List.mem_cons_self h
      · exact ih (fun m hm => hb m (List.mem_cons_of_mem l hm)) hrest h
      · obtain ⟨m, hm, hclose⟩ := infix_of_joinLines (by decide) (by decide) hclose
        exact hfirst m hm hopen hclose

theorem covers_splitPlain (t : Text) : Covers (splitPlain t) (mark defaultTerminator t) :=
  covers_pieces defaultTerminator t

theorem infix_of_mem_splitPlain {t s : Text} (h : s ∈ splitPlain t) : s <:+: t := by
  have hs := infix_of_covers (covers_splitPlain t) s h
  rwa [mark_text] at hs

theorem noBlock_rejoined {t : Text} (h : ¬ HasBlock t) : ¬ HasBlock (rejoined (splitPlain t)) := by
  apply noBlock_joinLines
  · intro l hl hblock
    obtain ⟨s, hs, rfl⟩ := List.mem_map.mp hl
    rcases hasBlock_of_cut (v := []) (by decide) (by decide) hblock with hb | hb | ⟨-, hc⟩
    · exact h (hasBlock_within (infix_of_mem_splitPlain hs) hb)
    · exact absurd (List.infix_nil.mp (opening_of_hasBlock hb)) (by decide)
    · exact absurd (List.infix_nil.mp hc) (by decide)
  · rw [List.pairwise_map]
    have hp := pairwise_of_covers (covers_splitPlain t) (by rwa [mark_text])
    apply hp.imp
    intro s u hsu hopen hclose
    exact hsu (infix_of_semicolon (by decide) hopen) (infix_of_semicolon (by decide) hclose)

theorem normal_rejoined {t : Text} (h : Normal t) : Normal (rejoined (splitPlain t)) := by
  refine ⟨?_, ?_, noBlock_rejoined h.noBlock, ?_⟩
  · intro hr
    obtain ⟨s, hs, hi⟩ := infix_of_rejoined (List.cons_ne_nil _ _) (by decide) (by decide)
      ((List.singleton_infix_iff _ _).mpr hr)
    exact h.noReturn ((List.singleton_infix_iff _ _).mp (hi.trans (infix_of_mem_splitPlain hs)))
  · intro hm
    obtain ⟨s, hs, hi⟩ := infix_of_rejoined (by decide) (by decide) (by decide) hm
    exact h.noLineMark (hi.trans (infix_of_mem_splitPlain hs))
  · rcases List.eq_nil_or_concat (splitPlain t) with hnil | ⟨ss, s, hlast⟩
    · rw [hnil]
      decide
    · rw [hlast, List.concat_eq_append, rejoined, List.map_append]
      apply lineFeed_not_ends (u := defaultTerminator) (by decide) (by decide)
      exact (List.suffix_append s _).trans (suffix_joinLines _ _)

theorem splitPlain_append (u v : Text) :
    splitPlain (u ++ defaultTerminator ++ v) = splitPlain u ++ splitPlain v := by
  have hne : defaultTerminator ≠ [] := isTerminator_default.ne_nil
  rw [splitPlain, pieces_append_sep hne noOverlap_default, nonBlank_append]
  rfl

theorem splitPlain_of_free {s : Text} (hne : s ≠ []) (ht : trim s = s)
    (h : ¬ defaultTerminator <:+: s) : splitPlain s = [s] := by
  have hnone := (breakOn_eq_none_iff isTerminator_default.ne_nil).mpr h
  rw [splitPlain, pieces_of_none hnone, nonBlank_of_trimmed hne ht]

theorem splitPlain_rejoined {ss : List Text}
    (hs : ∀ s ∈ ss, s ≠ [] ∧ trim s = s ∧ ¬ defaultTerminator <:+: s) :
    splitPlain (rejoined ss) = ss := by
  have hblank : splitPlain [] = [] :=
    nonBlank_pieces_of_allBlank isTerminator_default (List.forall_mem_nil _)
  induction ss with
  | nil => exact hblank
  | cons s ss ih =>
    obtain ⟨hne, ht, hfree⟩ := hs s List.mem_cons_self
    have hrest := ih fun u hu => hs u (List.mem_cons_of_mem s hu)
    by_cases hss : ss = []
    · rw [hss, rejoined, List.map_singleton, joinLines, ← List.append_nil (s ++ _),
        splitPlain_append, splitPlain_of_free hne ht hfree, hblank]
      rfl
    · have hmap : ss.map (· ++ defaultTerminator) ≠ [] := fun h => hss (List.map_eq_nil_iff.mp h)
      have hfeed : splitPlain ('\n' :: rejoined ss) = splitPlain (rejoined ss) :=
        nonBlank_pieces_blank_append isTerminator_default allBlank_lineFeed _
      rw [rejoined, List.map_cons, joinLines_cons hmap, splitPlain_append,
        splitPlain_of_free hne ht hfree, ← rejoined, hfeed, hrest]
      rfl

namespace Directive

theorem isDirective_take {line : Text} (h : isDirective line = true) :
    isDirective (line.take keyword.length) = true := by
  rw [isDirective, List.take_take, Nat.min_self]
  exact h

theorem toUpper_mem_keyword {line : Text} {c : Char} (h : isDirective line = true)
    (hc : c ∈ line.take keyword.length) : c.toUpper ∈ keyword := by
  have hk : (line.take keyword.length).map Char.toUpper = keyword := eq_of_beq h
  rw [← hk]
  exact List.mem_map_of_mem hc

end Directive

theorem no_directive_of_unmentioned {t : Text} (h : mentionedIn t = false) :
    ∀ l ∈ lines t, isDirective (trim l) = false := by
  intro l hl
  by_contra hd
  rw [Bool.not_eq_false] at hd
  have hmention := mentionedIn_of_isDirective hd ((trim_isInfix l).trans (mem_lines hl).2)
  rw [h] at hmention
  cases hmention

theorem no_directive_rejoined {t : Text} (h : mentionedIn t = false) :
    ∀ l ∈ lines (rejoined (splitPlain t)), isDirective (trim l) = false := by
  intro l hl
  by_contra hd
  rw [Bool.not_eq_false] at hd
  have hk := isDirective_take hd
  have hinfix : (trim l).take keyword.length <:+: rejoined (splitPlain t) :=
    ((List.take_prefix _ _).isInfix.trans (trim_isInfix l)).trans (mem_lines hl).2
  have hne : (trim l).take keyword.length ≠ [] := by
    intro hnil
    rw [hnil] at hk
    cases hk
  have hfeed : '\n' ∉ (trim l).take keyword.length :=
    fun hc => absurd (toUpper_mem_keyword hd hc) (by decide)
  have hsemicolon : ';' ∉ (trim l).take keyword.length :=
    fun hc => absurd (toUpper_mem_keyword hd hc) (by decide)
  obtain ⟨s, hs, hi⟩ := infix_of_rejoined hne hfeed hsemicolon hinfix
  have hmention := mentionedIn_of_isDirective hk (hi.trans (infix_of_mem_splitPlain hs))
  rw [h] at hmention
  cases hmention

namespace Script

theorem statements_of_no_directive {source : Text}
    (h : ∀ l ∈ lines (strip source), isDirective (trim l) = false) :
    (read source).statements = splitPlain (strip source) := by
  rw [read_eq]
  split
  · exact splitDirected_eq_splitPlain (return_not_mem_strip source) h
  · rfl

theorem read_rejoined (source : Text) (h : mentionedIn (strip source) = false) :
    (read (rejoined (read source).statements)).statements = (read source).statements := by
  have hstrip : strip (rejoined (splitPlain (strip source))) = rejoined (splitPlain (strip source)) :=
    strip_of_normal (normal_rejoined (normal_strip source))
  have hplain := no_directive_rejoined h
  rw [← hstrip] at hplain
  rw [statements_of_no_directive (no_directive_of_unmentioned h), statements_of_no_directive hplain,
    hstrip]
  apply splitPlain_rejoined
  intro s hs
  obtain ⟨hne, ht⟩ := mem_nonBlank hs
  exact ⟨hne, ht, free_of_mem_pieces isTerminator_default hs⟩

def looseMarks : Text := "-- SET TERM ^ ;\nA */ B;\n\n C;/* D;; E".toList

theorem read_rejoined_looseMarks :
    mentionedIn (strip looseMarks) = false ∧
      read looseMarks = ⟨["A */ B".toList, "C".toList, "/* D".toList, "E".toList], true⟩ ∧
      (read "A */ B;\nC;\n/* D;\nE;".toList).statements =
        ["A */ B".toList, "C".toList, "/* D".toList, "E".toList] := by
  have hstrip : strip looseMarks = "\nA */ B;\n\n C;/* D;; E".toList := by cbv
  have hmention : mentionedIn (strip looseMarks) = false := by
    rw [hstrip]
    decide
  have hread : read looseMarks =
      ⟨["A */ B".toList, "C".toList, "/* D".toList, "E".toList], true⟩ := by
    rw [read_eq, if_pos (by cbv), hstrip]
    decide +kernel
  have htext : rejoined ["A */ B".toList, "C".toList, "/* D".toList, "E".toList] =
      "A */ B;\nC;\n/* D;\nE;".toList := by decide
  have hagain := read_rejoined looseMarks hmention
  rw [hread, htext] at hagain
  exact ⟨hmention, hread, hagain⟩

end Script

end ScriptReplay
