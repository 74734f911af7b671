import Mathlib
import ScriptReplay.Proofs.Splitter.Feeding
import ScriptReplay.Script.Reading
import ScriptReplay.Text.Caseless

namespace ScriptReplay

open Text Directive

namespace Directive

def namesKeyword (line : Text) : Bool :=
  match words line with
  | first :: second :: _ =>
    sameCaseless first ['S', 'E', 'T'] && sameCaseless second ['T', 'E', 'R', 'M']
  | _ => false

def extendsKeyword (line : Text) : Bool :=
  match line.drop keyword.length with
  | c :: _ => sameCaseless (line.take keyword.length) keyword && !isBlank c
  | [] => false

theorem isDirective_eq_sameCaseless (line : Text) :
    isDirective line = sameCaseless (line.take keyword.length) keyword := by
  have hk : caseless keyword = keyword := by decide
  unfold isDirective sameCaseless
  rw [hk]
  rfl

theorem caseless_eq_of_isDirective {line : Text} (h : isDirective line = true) :
    caseless line = keyword ++ caseless (line.drop keyword.length) := by
  have hk : caseless (line.take keyword.length) = keyword := eq_of_beq h
  calc caseless line = caseless (line.take keyword.length ++ line.drop keyword.length) := by
        rw [List.take_append_drop]
    _ = keyword ++ caseless (line.drop keyword.length) := by rw [caseless_append, hk]

theorem words_keyword_append {r : Text} (h : StartsBlank r) :
    words (keyword ++ r) = ['S', 'E', 'T'] :: ['T', 'E', 'R', 'M'] :: words r := by
  have hset : NoBlank ['S', 'E', 'T'] := noBlank_of_any rfl
  have hterm : NoBlank ['T', 'E', 'R', 'M'] := noBlank_of_any rfl
  have hspace : isBlank ' ' = true := rfl
  calc words (keyword ++ r) = words (['S', 'E', 'T'] ++ ' ' :: (['T', 'E', 'R', 'M'] ++ r)) := rfl
    _ = ['S', 'E', 'T'] :: words (['T', 'E', 'R', 'M'] ++ r) := by
      rw [words_append (List.cons_ne_nil _ _) hset (startsBlank_cons hspace _),
        words_cons_of_blank hspace]
    _ = ['S', 'E', 'T'] :: ['T', 'E', 'R', 'M'] :: words r := by
      rw [words_append (List.cons_ne_nil _ _) hterm h]

theorem namesKeyword_of_isDirective {line : Text} (h : isDirective line = true)
    (hr : StartsBlank (line.drop keyword.length)) : namesKeyword line = true := by
  have hw := congrArg words (caseless_eq_of_isDirective h)
  rw [words_caseless, words_keyword_append (startsBlank_caseless hr)] at hw
  obtain ⟨first, rest, hl, hfirst, hrest⟩ := List.map_eq_cons_iff.mp hw
  obtain ⟨second, others, rfl, hsecond, -⟩ := List.map_eq_cons_iff.mp hrest
  unfold namesKeyword sameCaseless
  rw [hl]
  simp only [hfirst, hsecond]
  decide

theorem namesKeyword_trim (line : Text) : namesKeyword (trim line) = namesKeyword line := by
  unfold namesKeyword
  rw [words_trim]

theorem isDirective_eq_extendsKeyword {line : Text} (h : namesKeyword line = false) :
    isDirective line = extendsKeyword line := by
  cases hd : isDirective line with
  | true =>
    have hr : ¬ StartsBlank (line.drop keyword.length) := by
      intro hr
      rw [namesKeyword_of_isDirective hd hr] at h
      cases h
    rw [isDirective_eq_sameCaseless] at hd
    unfold extendsKeyword
    cases hdrop : line.drop keyword.length with
    | nil =>
      rw [hdrop] at hr
      exact absurd startsBlank_nil hr
    | cons c r =>
      rw [hdrop] at hr
      cases hc : isBlank c with
      | true => exact absurd (startsBlank_cons hc r) hr
      | false => simp only [hd, hc, Bool.not_false, Bool.and_self]
  | false =>
    rw [isDirective_eq_sameCaseless] at hd
    unfold extendsKeyword
    rw [hd]
    split <;> rfl

theorem exists_initials {line : Text} (h : isDirective line = true) :
    ∃ s k t r, line = s :: k ++ t :: r ∧ EndsBlank (s :: k) ∧ s.toUpper = 'S' ∧ t.toUpper = 'T' := by
  have hk := caseless_eq_of_isDirective h
  have hsplit : caseless line = ['S', 'E', 'T', ' '] ++
      'T' :: (['E', 'R', 'M'] ++ caseless (line.drop keyword.length)) := hk
  obtain ⟨a, b, rfl, ha, hb⟩ := List.map_eq_append_iff.mp hsplit
  obtain ⟨s, k, rfl, hs, -⟩ := List.map_eq_cons_iff.mp ha
  obtain ⟨t, r, rfl, ht, -⟩ := List.map_eq_cons_iff.mp hb
  refine ⟨s, k, t, r, rfl, ?_, hs, ht⟩
  intro u c hu
  rw [hu, List.map_append] at ha
  have hlast : u.map Char.toUpper ++ [c.toUpper] = ['S', 'E', 'T'] ++ [' '] := ha
  have hc : [c.toUpper] = [' '] := List.append_inj_right' hlast rfl
  rw [← isBlank_toUpper, List.singleton_inj.mp hc]
  rfl

end Directive

theorem allBlank_of_nonBlank_eq {u q : Text} {qs : List Text}
    (h : nonBlank [u] = nonBlank ((u ++ q) :: qs)) : ∀ p ∈ q :: qs, AllBlank p := by
  rw [nonBlank_cons (u ++ q)] at h
  rw [List.forall_mem_cons]
  by_cases hu : AllBlank u
  · rw [nonBlank_of_allBlank hu] at h
    obtain ⟨hq, hqs⟩ := List.append_eq_nil_iff.mp h.symm
    have huq := nonBlank_eq_nil hq (u ++ q) List.mem_cons_self
    exact ⟨(allBlank_append.mp huq).2, nonBlank_eq_nil hqs⟩
  · have huq : ¬ AllBlank (u ++ q) := fun huq => hu (allBlank_append.mp huq).1
    rw [nonBlank_of_not_allBlank hu, nonBlank_of_not_allBlank huq, List.singleton_append] at h
    obtain ⟨ht, hqs⟩ := List.cons.inj h
    exact ⟨allBlank_of_trim_append ht.symm, nonBlank_eq_nil hqs.symm⟩

theorem allBlank_pieces_of_nonBlank_eq {t u x : Text} (ht : IsTerminator t) (hu : EndsBlank u)
    (h : nonBlank [u] = nonBlank (pieces t (u ++ x))) : ∀ p ∈ pieces t x, AllBlank p := by
  have hnone : breakOn t u = none := by
    by_cases hb : AllBlank u
    · exact breakOn_of_allBlank ht.ne_nil ht.noBlank hb
    · rw [nonBlank_of_not_allBlank hb] at h
      have hmem : trim u ∈ nonBlank (pieces t (u ++ x)) := by
        rw [← h]
        exact List.mem_singleton_self _
      obtain ⟨p, hp, hpu⟩ := List.mem_map.mp (List.mem_filter.mp hmem).1
      rw [← breakOn_trim ht.ne_nil ht.noBlank, ← hpu, breakOn_trim ht.ne_nil ht.noBlank]
      exact breakOn_of_mem_pieces hp
  obtain ⟨q, qs, hpx, hpux⟩ :=
    pieces_append_of_none ht.ne_nil hnone (apart_of_endsBlank (v := x) ht.noBlank hu)
  rw [hpux] at h
  rw [hpx]
  exact allBlank_of_nonBlank_eq h

namespace Splitter

theorem feed_ne_append {s : Splitter} {line : Text} (ht : IsTerminator s.terminator)
    (hs : EndsBlank s.openText) (h : isDirective (trim line) = true) :
    s.feed line ≠ s.append line := by
  intro he
  rw [feed_of_directive s h] at he
  by_cases hend : s.terminator <:+ trim line
  · obtain ⟨w, x, b, hw, hb, hx, hsplit⟩ := exists_body hend s.openText
    rw [append_of_closed ht hend hb hsplit] at he
    have hcut := List.append_cancel_left (congrArg Splitter.statements he)
    have hblank := allBlank_pieces_of_nonBlank_eq ht hs hcut
    -- The line would be made of blanks and terminators, so one would begin with S and with T.
    obtain ⟨a, k, c, r, hline, hk, ha, hc⟩ := exists_initials h
    have hab : isBlank a = false := by rw [← isBlank_toUpper, ha]; rfl
    have hcb : isBlank c = false := by rw [← isBlank_toUpper, hc]; rfl
    have hfirst : x ++ s.terminator = w ++ a :: (k ++ c :: r) := by rw [hx, hline]; rfl
    have hsecond : x ++ s.terminator = w ++ (a :: k) ++ c :: r := by
      rw [hx, hline, List.append_assoc]
    have hwk : EndsBlank (w ++ (a :: k)) := endsBlank_append (List.cons_ne_nil a k) hk
    obtain ⟨u, hu⟩ := head_of_blank_pieces ht.noBlank hblank (endsBlank_of_allBlank hw) hab hfirst
    obtain ⟨v, hv⟩ := head_of_blank_pieces ht.noBlank hblank hwk hcb hsecond
    rw [hu] at hv
    obtain ⟨rfl, -⟩ := List.cons.inj hv
    rw [ha] at hc
    exact absurd hc (by decide)
  · rw [append_of_unclosed hend] at he
    have hopen := congrArg Splitter.openText he
    exact List.append_ne_nil_of_right_ne_nil _ (List.cons_ne_nil _ _) hopen.symm

/-- A line whose first two words are not SET and TERM joins the open text, in every state that lines
lead to, exactly if it does not begin with the keyword and go on without a blank. -/
theorem feed_joins_iff (ls : List Text) (line : Text) (h : namesKeyword line = false) :
    let s := start.feedAll ls
    (s.feed line = s.append line ∧ (s.feed line).terminator = s.terminator) ↔
      extendsKeyword (trim line) = false := by
  intro s
  have ht : IsTerminator s.terminator := isTerminator_feedAll isTerminator_default ls
  have hs : EndsBlank s.openText := endsBlank_feedAll isTerminator_default endsBlank_nil ls
  rw [← namesKeyword_trim] at h
  rw [← isDirective_eq_extendsKeyword h]
  constructor
  · rintro ⟨hf, -⟩
    cases hd : isDirective (trim line) with
    | true => exact absurd hf (feed_ne_append ht hs hd)
    | false => rfl
  · intro hd
    have hf := feed_eq_append (s := s) hd
    refine ⟨hf, ?_⟩
    rw [hf]
    exact append_terminator s line

theorem feed_joins_setTerrace :
    let s := start.feedAll ["UPDATE T".toList]
    (namesKeyword "SET TERRACE = 5;".toList = false ∧
      s.feed "SET TERRACE = 5;".toList = s.append "SET TERRACE = 5;".toList) ∧
    namesKeyword "SET TERM_ID = 7".toList = false ∧
      ¬ (s.feed "SET TERM_ID = 7".toList = s.append "SET TERM_ID = 7".toList ∧
        (s.feed "SET TERM_ID = 7".toList).terminator = s.terminator) := by
  have hrace : namesKeyword "SET TERRACE = 5;".toList = false := by decide
  have hid : namesKeyword "SET TERM_ID = 7".toList = false := by decide
  have hextends : extendsKeyword (trim "SET TERM_ID = 7".toList) ≠ false := by decide
  refine ⟨⟨hrace, ?_⟩, hid, ?_⟩
  · exact ((feed_joins_iff _ _ hrace).mpr (by decide)).1
  · exact fun hf => hextends ((feed_joins_iff _ _ hid).mp hf)

theorem feed_of_setTerms :
    let s := start.feedAll ["UPDATE T".toList]
    namesKeyword "SET TERMS = 5;".toList = false ∧
      s.feed "SET TERMS = 5;".toList ≠ s.append "SET TERMS = 5;".toList ∧
      s.feed "SET TERMS = 5;".toList = ⟨['='], [], ["UPDATE T".toList]⟩ ∧
      (s.append "SET TERMS = 5;".toList).terminator = [';'] ∧
      Script.read "UPDATE T\nSET TERMS = 5;".toList = ⟨["UPDATE T".toList], true⟩ := by
  have hstrip : Comment.strip "UPDATE T\nSET TERMS = 5;".toList =
      "UPDATE T\nSET TERMS = 5;".toList := by cbv
  refine ⟨by decide, ?_, by decide, by decide, ?_⟩
  · intro he
    have ht := congrArg Splitter.terminator he
    exact absurd ht (by decide)
  · unfold Script.read
    rw [hstrip]
    decide

end Splitter

end ScriptReplay
