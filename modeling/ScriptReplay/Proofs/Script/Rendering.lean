import Mathlib
import ScriptReplay.Proofs.Comment.NormalForm
import ScriptReplay.Proofs.Script.Routing
import ScriptReplay.Proofs.Splitter.Recognition

namespace ScriptReplay

open Text Directive Comment

namespace Directive

def written (first second : Text) : Text :=
  keyword ++ (' ' :: (first ++ (' ' :: second)))

/-- A terminator that a directive can name as it is. -/
structure Selectable (t : Text) : Prop extends IsTerminator t where
  ending : t = defaultTerminator ∨ ¬ defaultTerminator <:+ t

/-- It also takes no part in a comment mark. -/
structure Nameable (t : Text) : Prop extends Selectable t where
  noDash : '-' ∉ t
  noStar : '*' ∉ t

theorem nameable_default : Nameable defaultTerminator where
  toIsTerminator := isTerminator_default
  ending := .inl rfl
  noDash := by decide
  noStar := by decide

theorem withoutLastSemicolons_eq_self {t : Text} (h : ¬ defaultTerminator <:+ t) :
    withoutLastSemicolons t = t := by
  apply List.rdropWhile_eq_self_iff.mpr
  intro hne hlast
  apply h
  refine ⟨t.dropLast, ?_⟩
  conv_rhs => rw [← List.dropLast_concat_getLast hne, eq_of_beq hlast]
  rfl

theorem terminatorOfWord_of_selectable {t : Text} (h : Selectable t) :
    terminatorOfWord t = t := by
  rcases h.ending with rfl | hend
  · rfl
  · rw [terminatorOfWord, withoutLastSemicolons_eq_self hend]
    split
    · exact absurd rfl h.ne_nil
    · rfl

theorem isDirective_keyword (r : Text) : isDirective (keyword ++ r) = true := by
  rw [isDirective, List.take_left]
  decide

theorem terminator?_written {first : Text} (h : IsTerminator first) (second : Text) :
    terminator? (written first second) = some (terminatorOfWord first) := by
  have hspace : isBlank ' ' = true := rfl
  rw [terminator?, written, words_keyword_append (startsBlank_cons hspace _),
    words_cons_of_blank hspace, words_append h.ne_nil h.noBlank (startsBlank_cons hspace _)]

theorem trim_written (first : Text) {second : Text} (h : IsTerminator second) :
    trim (written first second) = written first second := by
  have hhead : NoBlank ['S'] := noBlank_of_any rfl
  have hsplit : written first second =
      ['S'] ++ (['E', 'T', ' ', 'T', 'E', 'R', 'M', ' '] ++ first ++ [' ']) ++ second := by
    simp [written, keyword]
  rw [hsplit]
  exact trim_of_noBlank_edges (List.cons_ne_nil _ _) hhead h.ne_nil h.noBlank _

theorem not_mem_written {c : Char} {first second : Text} (hk : c ∉ keyword) (hf : c ∉ first)
    (hs : c ∉ second) : c ∉ written first second := by
  have hspace : c ≠ ' ' := by
    rintro rfl
    exact hk (by decide)
  simp [written, hk, hf, hs, hspace]

end Directive

/-- A statement that can be written with the terminator `t` behind it. -/
structure Renderable (t s : Text) : Prop where
  ne_nil : s ≠ []
  trimmed : trim s = s
  noReturn : '\r' ∉ s
  noLineMark : ¬ lineMark <:+: s
  noOpening : ¬ opening <:+: s
  noTerminator : ¬ t <:+: s
  noDirective : ∀ l ∈ lines (s ++ t), isDirective (trim l) = false

def rendered (t : Text) (ss : List Text) : Text :=
  joinLines (written t defaultTerminator :: (ss.map (· ++ t) ++ [written defaultTerminator t]))

theorem rendered_eq (t : Text) (ss : List Text) :
    rendered t ss = written t defaultTerminator ++
      '\n' :: joinLines (ss.map (· ++ t) ++ [written defaultTerminator t]) :=
  joinLines_cons (List.concat_ne_nil _ _)

namespace Splitter

theorem feed_written {t : Text} (ss : List Text) {first second : Text} (hf : Selectable first)
    (hs : IsTerminator second) :
    feed ⟨t, [], ss⟩ (written first second) = ⟨first, [], ss⟩ := by
  have hd : isDirective (trim (written first second)) = true := by
    rw [trim_written first hs]
    exact isDirective_keyword _
  have hblank : nonBlank [[]] = [] := nonBlank_of_allBlank (List.forall_mem_nil _)
  rw [feed_of_directive _ hd, trim_written first hs, terminator?_written hf.toIsTerminator,
    terminatorOfWord_of_selectable hf, hblank, List.append_nil]
  rfl

theorem feedAll_closing {t : Text} (ht : IsTerminator t) {openText u : Text}
    (hfree : ¬ t <:+: openText ++ u) (hd : ∀ l ∈ lines (u ++ t), isDirective (trim l) = false)
    (ss : List Text) (rest : Text) :
    feedAll ⟨t, openText, ss⟩ (lines (u ++ t ++ '\n' :: rest)) =
      feedAll ⟨t, [], ss ++ nonBlank [openText ++ u]⟩ (lines rest) := by
  -- What is fed of the statement moves from `u` to the open text; the terminator is in neither.
  induction u using line_induction generalizing openText with
  | last l h =>
    have hline : '\n' ∉ l ++ t := by
      intro hm
      rcases List.mem_append.mp hm with hm | hm
      · exact h hm
      · exact not_mem_of_noBlank ht.noBlank rfl hm
    have hne : l ++ t ≠ [] := List.append_ne_nil_of_right_ne_nil l ht.ne_nil
    have hdir : isDirective (trim (l ++ t)) = false := by
      apply hd
      rw [lines_line hline hne]
      exact List.mem_singleton_self _
    have hend : t <:+ trim (l ++ t) := by
      apply (suffix_trim_iff ht.ne_nil ht.noBlank).mpr
      exact ⟨l, [], List.forall_mem_nil _, (List.append_nil _).symm⟩
    have hsplit : openText ++ (l ++ t) ++ ['\n'] = openText ++ l ++ t ++ ['\n'] := by
      simp only [List.append_assoc]
    -- The last place of the terminator counts, so it may overlap the end of the statement.
    have hclosed := append_of_closed (s := ⟨t, openText, ss⟩) ht hend allBlank_lineFeed hsplit
    have hnone : breakOn t (openText ++ l) = none := (breakOn_eq_none_iff ht.ne_nil).mpr hfree
    rw [lines_line_append hline, feedAll_cons, feed_eq_append hdir, hclosed, pieces_of_none hnone]
  | line l r h ih =>
    have hlines : lines (l ++ '\n' :: r ++ t) = l :: lines (r ++ t) := by
      rw [List.append_assoc, List.cons_append, lines_line_append h]
    rw [hlines] at hd
    have hunclosed : ¬ t <:+ trim l := by
      intro hend
      apply hfree
      have hl : l <:+: openText ++ (l ++ '\n' :: r) :=
        ⟨openText, '\n' :: r, List.append_assoc _ _ _⟩
      exact (hend.isInfix.trans (trim_isInfix l)).trans hl
    have hlonger : openText ++ l ++ ['\n'] ++ r = openText ++ (l ++ '\n' :: r) := by simp
    rw [← hlonger] at hfree
    have hrest := ih hfree fun m hm => hd m (List.mem_cons_of_mem l hm)
    have hcut : l ++ '\n' :: r ++ t ++ '\n' :: rest =
        l ++ '\n' :: (r ++ t ++ '\n' :: rest) := by simp
    rw [hcut, lines_line_append h, feedAll_cons, feed_eq_append (hd l List.mem_cons_self),
      append_of_unclosed hunclosed, hrest, hlonger]

theorem feedAll_rendered {t : Text} (ht : IsTerminator t) {ss : List Text}
    (hs : ∀ s ∈ ss, Renderable t s) (before : List Text) (last : Text) :
    feedAll ⟨t, [], before⟩ (lines (joinLines (ss.map (· ++ t) ++ [last]))) =
      feedAll ⟨t, [], before ++ ss⟩ (lines last) := by
  induction ss generalizing before with
  | nil => rw [List.append_nil, List.map_nil, List.nil_append, joinLines]
  | cons s ss ih =>
    have hfirst := hs s List.mem_cons_self
    have hfree : ¬ t <:+: [] ++ s := hfirst.noTerminator
    rw [List.map_cons, List.cons_append, joinLines_cons (List.concat_ne_nil last _),
      feedAll_closing ht hfree hfirst.noDirective, List.nil_append,
      nonBlank_of_trimmed hfirst.ne_nil hfirst.trimmed,
      ih fun u hu => hs u (List.mem_cons_of_mem s hu), List.append_assoc]
    rfl

end Splitter

theorem lineFeed_not_mem_written {first second : Text} (hf : NoBlank first) (hs : NoBlank second) :
    '\n' ∉ written first second :=
  not_mem_written (by decide) (not_mem_of_noBlank hf rfl) (not_mem_of_noBlank hs rfl)

theorem infix_of_rendered {t : Text} {ss : List Text} {k : Text} {c : Char} (hk : '\n' ∉ k ++ [c])
    (hkey : c ∉ keyword) (ht : c ∉ t) (hd : c ∉ defaultTerminator)
    (h : k ++ [c] <:+: rendered t ss) : ∃ s ∈ ss, k ++ [c] <:+: s := by
  have hne : k ++ [c] ≠ [] := List.append_ne_nil_of_right_ne_nil k (List.cons_ne_nil c [])
  have hc : c ∈ k ++ [c] := by simp
  obtain ⟨l, hl, hkl⟩ := infix_of_joinLines hne hk h
  rcases List.mem_cons.mp hl with rfl | hl
  · exact absurd (hkl.subset hc) (not_mem_written hkey ht hd)
  rcases List.mem_append.mp hl with hl | hl
  · obtain ⟨s, hs, rfl⟩ := List.mem_map.mp hl
    exact ⟨s, hs, infix_of_append_free ht hkl⟩
  · rw [List.mem_singleton.mp hl] at hkl
    exact absurd (hkl.subset hc) (not_mem_written hkey hd ht)

theorem normal_rendered {t : Text} (ht : Nameable t) {ss : List Text}
    (hs : ∀ s ∈ ss, Renderable t s) : Normal (rendered t ss) := by
  have hreturn : '\r' ∉ t := not_mem_of_noBlank ht.noBlank rfl
  have hfeed : '\n' ∉ t := not_mem_of_noBlank ht.noBlank rfl
  refine ⟨?_, ?_, ?_, ?_⟩
  · intro h
    obtain ⟨s, hmem, hi⟩ := infix_of_rendered (k := []) (by decide) (by decide) hreturn (by decide)
      ((List.singleton_infix_iff _ _).mpr h)
    exact (hs s hmem).noReturn ((List.singleton_infix_iff _ _).mp hi)
  · intro h
    obtain ⟨s, hmem, hi⟩ := infix_of_rendered (k := ['-']) (by decide) (by decide) ht.noDash
      (by decide) h
    exact (hs s hmem).noLineMark hi
  · intro h
    obtain ⟨s, hmem, hi⟩ := infix_of_rendered (k := ['/']) (by decide) (by decide) ht.noStar
      (by decide) (opening_of_hasBlock h)
    exact (hs s hmem).noOpening hi
  · apply lineFeed_not_ends ht.ne_nil hfeed
    have hlast : t <:+ written defaultTerminator t :=
      ⟨keyword ++ " ; ".toList, by simp [written, defaultTerminator]⟩
    exact hlast.trans (suffix_joinLines (_ :: ss.map (· ++ t)) _)

theorem splitDirected_rendered {t : Text} (ht : Nameable t) {ss : List Text}
    (hs : ∀ s ∈ ss, Renderable t s) : splitDirected (rendered t ss) = ss := by
  have hdefault : IsTerminator defaultTerminator := isTerminator_default
  have hfirst := lineFeed_not_mem_written ht.noBlank hdefault.noBlank
  have hlast := lineFeed_not_mem_written hdefault.noBlank ht.noBlank
  have hopen : Splitter.start.feed (written t defaultTerminator) = ⟨t, [], []⟩ :=
    Splitter.feed_written [] ht.toSelectable hdefault
  have hclose : Splitter.feedAll ⟨t, [], ss⟩ (lines (written defaultTerminator t)) =
      ⟨defaultTerminator, [], ss⟩ := by
    rw [lines_line hlast (by simp [written])]
    exact Splitter.feed_written ss nameable_default.toSelectable ht.toIsTerminator
  rw [splitDirected, unifyBreaks_eq_self (normal_rendered ht hs).noReturn, rendered_eq,
    lines_line_append hfirst, Splitter.feedAll_cons, hopen,
    Splitter.feedAll_rendered ht.toIsTerminator hs, List.nil_append, hclose]
  rfl

namespace Script

theorem read_rendered {t : Text} (ht : Nameable t) {ss : List Text}
    (hs : ∀ s ∈ ss, Renderable t s) (n : Nat) :
    read (rendered t ss ++ List.replicate n '\n') = ⟨ss, true⟩ := by
  have hnormal := normal_rendered ht hs
  have hmention : mentionedIn (rendered t ss ++ List.replicate n '\n') = true := by
    apply mentionedIn_of_isDirective (k := keyword) (by decide)
    rw [rendered_eq, written]
    simp only [List.append_assoc]
    exact (List.prefix_append keyword _).isInfix
  rw [read_eq, if_pos hmention, strip_lineFeeds hnormal.noReturn, strip_of_normal hnormal,
    splitDirected_rendered ht hs]

theorem read_rendered_overlap :
    Nameable "!!".toList ∧
      (∀ s ∈ ["P!".toList, "BEGIN\n  A;\nEND".toList], Renderable "!!".toList s) ∧
      read "SET TERM !! ;\nP!!!\nBEGIN\n  A;\nEND!!\nSET TERM ; !!\n".toList =
        ⟨["P!".toList, "BEGIN\n  A;\nEND".toList], true⟩ := by
  have ht : Nameable "!!".toList :=
    ⟨⟨⟨by decide, noBlank_of_any (by decide)⟩, .inr (by decide)⟩, by decide, by decide⟩
  have hs : ∀ s ∈ ["P!".toList, "BEGIN\n  A;\nEND".toList], Renderable "!!".toList s := by
    rw [List.forall_mem_cons, List.forall_mem_singleton]
    constructor
    · exact ⟨by decide, by decide, by decide, by decide, by decide, by decide, by decide⟩
    · exact ⟨by decide, by decide, by decide, by decide, by decide, by decide, by decide⟩
  have htext : rendered "!!".toList ["P!".toList, "BEGIN\n  A;\nEND".toList] ++
      List.replicate 1 '\n' =
        "SET TERM !! ;\nP!!!\nBEGIN\n  A;\nEND!!\nSET TERM ; !!\n".toList := by decide
  refine ⟨ht, hs, ?_⟩
  rw [← htext]
  exact read_rendered ht hs 1

end Script

end ScriptReplay
