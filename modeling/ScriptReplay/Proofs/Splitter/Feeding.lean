import ScriptReplay.Proofs.Text.Pieces
import ScriptReplay.Proofs.Text.Words
import ScriptReplay.Script.Splitter

namespace ScriptReplay

open Text Directive

structure Directive.IsTerminator (t : Text) : Prop where
  ne_nil : t ≠ []
  noBlank : NoBlank t

namespace Directive

theorem isTerminator_default : IsTerminator defaultTerminator :=
  ⟨List.cons_ne_nil _ _, noBlank_of_any rfl⟩

theorem withoutLastSemicolons_begins (word : Text) : withoutLastSemicolons word <+: word := by
  have h := List.reverse_prefix.mpr (List.dropWhile_suffix (l := word.reverse) (· == ';'))
  rwa [List.reverse_reverse] at h

theorem isTerminator_terminatorOfWord {word : Text} (h : NoBlank word) :
    IsTerminator (terminatorOfWord word) := by
  unfold terminatorOfWord
  split
  · exact isTerminator_default
  · rename_i c r hw
    refine ⟨List.cons_ne_nil c r, ?_⟩
    intro x hx
    rw [← hw] at hx
    exact h x ((withoutLastSemicolons_begins word).subset hx)

theorem exists_word_of_terminator? {line t : Text} (h : terminator? line = some t) :
    ∃ word, NoBlank word ∧ t = terminatorOfWord word := by
  unfold terminator? at h
  split at h
  · rename_i a b word rest hw
    have hmem : word ∈ words line := by rw [hw]; simp
    exact ⟨word, (mem_words hmem).2, (Option.some.inj h).symm⟩
  · cases h

theorem isTerminator_terminator? {line t : Text} (h : terminator? line = some t) :
    IsTerminator t := by
  obtain ⟨word, hword, rfl⟩ := exists_word_of_terminator? h
  exact isTerminator_terminatorOfWord hword

end Directive

theorem nonBlank_nil : nonBlank [] = [] := rfl

theorem nonBlank_append (ps qs : List Text) : nonBlank (ps ++ qs) = nonBlank ps ++ nonBlank qs := by
  simp [nonBlank]

theorem nonBlank_cons (p : Text) (ps : List Text) :
    nonBlank (p :: ps) = nonBlank [p] ++ nonBlank ps :=
  nonBlank_append [p] ps

theorem nonBlank_congr {p q : Text} (h : trim p = trim q) : nonBlank [p] = nonBlank [q] := by
  simp [nonBlank, h]

theorem nonBlank_of_allBlank {p : Text} (h : AllBlank p) : nonBlank [p] = [] := by
  simp [nonBlank, trim_eq_nil_iff.mpr h]

theorem nonBlank_of_not_allBlank {p : Text} (h : ¬ AllBlank p) : nonBlank [p] = [trim p] := by
  simp [nonBlank, mt trim_eq_nil_iff.mp h]

theorem nonBlank_of_trimmed {p : Text} (hne : p ≠ []) (h : trim p = p) : nonBlank [p] = [p] := by
  have hb : ¬ AllBlank p := by
    intro hb
    apply hne
    rw [← h]
    exact trim_eq_nil_of_allBlank hb
  rw [nonBlank_of_not_allBlank hb, h]

theorem nonBlank_eq_nil {ps : List Text} (h : nonBlank ps = []) : ∀ p ∈ ps, AllBlank p := by
  intro p hp
  by_contra hb
  have hmem : trim p ∈ nonBlank ps :=
    List.mem_filter.mpr ⟨List.mem_map_of_mem hp, decide_eq_true (mt trim_eq_nil_iff.mp hb)⟩
  rw [h] at hmem
  exact List.not_mem_nil hmem

theorem mem_nonBlank {ps : List Text} {s : Text} (h : s ∈ nonBlank ps) : s ≠ [] ∧ trim s = s := by
  obtain ⟨hs, hne⟩ := List.mem_filter.mp h
  obtain ⟨p, -, rfl⟩ := List.mem_map.mp hs
  exact ⟨of_decide_eq_true hne, trim_trim p⟩

theorem free_of_mem_pieces {t u x : Text} (ht : IsTerminator t) (h : x ∈ nonBlank (pieces t u)) :
    ¬ t <:+: x := by
  obtain ⟨p, hp, rfl⟩ := List.mem_map.mp (List.mem_filter.mp h).1
  apply (breakOn_eq_none_iff ht.ne_nil).mp
  apply (breakOn_trim ht.ne_nil ht.noBlank p).mpr
  exact breakOn_of_mem_pieces hp

namespace Splitter

inductive Fed (s : Splitter) (line : Text) : Splitter → Prop
  | directive (t : Text) (h : isDirective (trim line) = true)
    (named : t = (terminator? (trim line)).getD s.terminator) :
    Fed s line ⟨t, [], s.statements ++ nonBlank [s.openText]⟩
  | kept (h : isDirective (trim line) = false) (unclosed : ¬ s.terminator <:+ trim line) :
    Fed s line { s with openText := s.openText ++ line ++ ['\n'] }
  | closed (body w : Text) (h : isDirective (trim line) = false)
    (ending : s.terminator <:+ trim line) (blank : AllBlank w)
    (split : s.openText ++ line ++ ['\n'] = body ++ s.terminator ++ w) :
    Fed s line ⟨s.terminator, [], s.statements ++ nonBlank (pieces s.terminator body)⟩

theorem exists_body {t line : Text} (h : t <:+ trim line) (openText : Text) :
    ∃ w x b, AllBlank w ∧ AllBlank b ∧ x ++ t = w ++ trim line ∧
      openText ++ line ++ ['\n'] = openText ++ x ++ t ++ b := by
  obtain ⟨front, hf⟩ := h
  obtain ⟨w, b, hw, hb, hl⟩ := exists_trim line
  have hx : w ++ front ++ t = w ++ trim line := by rw [List.append_assoc, hf]
  refine ⟨w, w ++ front, b ++ ['\n'], hw, allBlank_append.mpr ⟨hb, allBlank_lineFeed⟩, hx, ?_⟩
  calc openText ++ line ++ ['\n'] = openText ++ (w ++ trim line ++ b) ++ ['\n'] := by rw [← hl]
    _ = openText ++ (w ++ trim line) ++ (b ++ ['\n']) := by simp only [List.append_assoc]
    _ = openText ++ (w ++ front) ++ t ++ (b ++ ['\n']) := by
      rw [← hx]
      simp only [List.append_assoc]

theorem feed_of_directive (s : Splitter) {line : Text} (h : isDirective (trim line) = true) :
    s.feed line = ⟨(terminator? (trim line)).getD s.terminator, [],
      s.statements ++ nonBlank [s.openText]⟩ :=
  if_pos h

theorem closedPart_append {t w : Text} (ht : IsTerminator t) (hw : AllBlank w) (body : Text) :
    closedPart t (body ++ t ++ w) = body := by
  rw [closedPart, breakOnLast_of_allBlank ht.ne_nil ht.noBlank hw]

def append (s : Splitter) (line : Text) : Splitter :=
  let longer := { s with openText := s.openText ++ line ++ ['\n'] }
  if s.terminator.isSuffixOf (trim line) then longer.closeTerminated else longer

theorem append_terminator (s : Splitter) (line : Text) :
    (s.append line).terminator = s.terminator := by
  unfold append
  split <;> rfl

theorem feed_eq_append {s : Splitter} {line : Text} (h : isDirective (trim line) = false) :
    s.feed line = s.append line := by
  unfold feed append
  simp only [h, Bool.false_eq_true, if_false]

theorem append_of_unclosed {s : Splitter} {line : Text} (hend : ¬ s.terminator <:+ trim line) :
    s.append line = { s with openText := s.openText ++ line ++ ['\n'] } := by
  rw [← List.isSuffixOf_iff_suffix] at hend
  unfold append
  simp only [if_neg hend]

theorem append_of_closed {s : Splitter} (ht : IsTerminator s.terminator) {line x b : Text}
    (hend : s.terminator <:+ trim line) (hb : AllBlank b)
    (hsplit : s.openText ++ line ++ ['\n'] = s.openText ++ x ++ s.terminator ++ b) :
    s.append line = ⟨s.terminator, [], s.statements ++
      nonBlank (pieces s.terminator (s.openText ++ x))⟩ := by
  rw [← List.isSuffixOf_iff_suffix] at hend
  unfold append
  simp only [if_pos hend]
  rw [hsplit]
  unfold closeTerminated
  simp only [closedPart_append ht hb]

theorem feed_fed {s : Splitter} (ht : IsTerminator s.terminator) (line : Text) :
    Fed s line (s.feed line) := by
  cases hd : isDirective (trim line) with
  | true =>
    rw [feed_of_directive s hd]
    exact .directive _ hd rfl
  | false =>
    by_cases hend : s.terminator <:+ trim line
    · obtain ⟨w, x, b, -, hb, -, hsplit⟩ := exists_body hend s.openText
      rw [feed_eq_append hd, append_of_closed ht hend hb hsplit]
      exact .closed (s.openText ++ x) b hd hend hb hsplit
    · rw [feed_eq_append hd, append_of_unclosed hend]
      exact .kept hd hend

theorem feedAll_cons (s : Splitter) (l : Text) (ls : List Text) :
    s.feedAll (l :: ls) = (s.feed l).feedAll ls := rfl

theorem feedAll_append (s : Splitter) (ls ms : List Text) :
    s.feedAll (ls ++ ms) = (s.feedAll ls).feedAll ms :=
  List.foldl_append

theorem terminator_feed (s : Splitter) (line : Text) :
    (s.feed line).terminator = s.terminator ∨
      terminator? (trim line) = some (s.feed line).terminator := by
  cases hd : isDirective (trim line) with
  | true =>
    rw [feed_of_directive s hd]
    cases terminator? (trim line) with
    | none => exact .inl rfl
    | some t => exact .inr rfl
  | false =>
    rw [feed_eq_append hd]
    exact .inl (append_terminator s line)

theorem isTerminator_feed {s : Splitter} (ht : IsTerminator s.terminator) (line : Text) :
    IsTerminator (s.feed line).terminator := by
  rcases terminator_feed s line with h | h
  · rw [h]
    exact ht
  · exact isTerminator_terminator? h

theorem isTerminator_feedAll {s : Splitter} (ht : IsTerminator s.terminator) (ls : List Text) :
    IsTerminator (s.feedAll ls).terminator := by
  induction ls generalizing s with
  | nil => exact ht
  | cons l ls ih => exact ih (isTerminator_feed ht l)

theorem endsBlank_feed {s : Splitter} (ht : IsTerminator s.terminator) (line : Text) :
    EndsBlank (s.feed line).openText := by
  have h := feed_fed ht line
  generalize s.feed line = u at h
  cases h with
  | directive => exact endsBlank_nil
  | kept =>
    intro r c hc
    have hlast : ['\n'] = [c] := List.append_inj_right' hc rfl
    rw [← List.singleton_inj.mp hlast]
    rfl
  | closed => exact endsBlank_nil

theorem endsBlank_feedAll {s : Splitter} (ht : IsTerminator s.terminator)
    (hs : EndsBlank s.openText) (ls : List Text) : EndsBlank (s.feedAll ls).openText := by
  induction ls generalizing s with
  | nil => exact hs
  | cons l ls ih => exact ih (isTerminator_feed ht l) (endsBlank_feed ht l)

end Splitter

end ScriptReplay
