import Mathlib
import ScriptReplay.Proofs.Splitter.Recognition
import ScriptReplay.Proofs.Splitter.WholeText

/-!
Where a statement can have a line that reads as a directive. Lines are told apart as a whole, before
the text is cut, so a directive on a line of its own is in no statement. Behind a terminator on the
same line nothing is taken for a directive; what stands there begins a statement whatever it says.
-/

namespace ScriptReplay

open Text Directive

namespace Directive

theorem noBlank_of_caseless {t : Text} (h : NoBlank (caseless t)) : NoBlank t := by
  intro c hc
  rw [← isBlank_toUpper]
  exact h _ (List.mem_map_of_mem hc)

theorem isDirective_of_prefix {l t : Text} (h : isDirective l = true)
    (hp : l.take keyword.length <+: t) : isDirective t = true := by
  have hk : (l.take keyword.length).map Char.toUpper = keyword := eq_of_beq h
  have hlen := congrArg List.length hk
  rw [List.length_map] at hlen
  obtain ⟨r, rfl⟩ := hp
  unfold isDirective
  rw [List.take_left' hlen, hk]
  rfl

theorem begins_trim_of_isDirective {l : Text} (h : isDirective l = true) (r : Text) :
    l.take keyword.length <+: trim (l.take keyword.length ++ r) := by
  have hk : (l.take keyword.length).map Char.toUpper =
      ['S'] ++ ['E', 'T', ' ', 'T', 'E', 'R'] ++ ['M'] := eq_of_beq h
  obtain ⟨uv, w, huvw, huv, hw⟩ := List.map_eq_append_iff.mp hk
  obtain ⟨u, v, rfl, hu, -⟩ := List.map_eq_append_iff.mp huv
  have ne_nil {x : Text} {c : Char} (hx : x.map Char.toUpper = [c]) : x ≠ [] := by
    rintro rfl
    cases hx
  have noBlank {x : Text} {c : Char} (hc : isBlank c = false) (hx : x.map Char.toUpper = [c]) :
      NoBlank x := by
    apply noBlank_of_caseless
    intro d hd
    rw [caseless, hx, List.mem_singleton] at hd
    rw [hd, hc]
  rw [huvw]
  exact begins_trim (ne_nil hu) (noBlank rfl hu) (ne_nil hw) (noBlank rfl hw) v r

theorem isDirective_of_part {w l : Text} (hw : AllBlank w) (h : isDirective (trim l) = true)
    (r : Text) : isDirective (trim (w ++ l ++ r)) = true := by
  apply isDirective_of_prefix h
  obtain ⟨a, b, ha, -, hl⟩ := exists_trim l
  have hsplit : w ++ l ++ r = w ++ a ++ ((trim l).take keyword.length ++
      ((trim l).drop keyword.length ++ b ++ r)) := by
    conv_lhs => rw [hl, ← List.take_append_drop keyword.length (trim l)]
    simp only [List.append_assoc]
  rw [hsplit, trim_blank_append (allBlank_append.mpr ⟨hw, ha⟩)]
  exact begins_trim_of_isDirective h _

end Directive

theorem exists_line_of_part {ls : List Text} (hls : ∀ line ∈ ls, '\n' ∉ line)
    {before l after : Text} (hne : l ≠ []) (hl : '\n' ∉ l)
    (h : terminated ls = before ++ l ++ after) :
    ∃ line ∈ ls, ∃ front rest, line = front ++ l ++ rest ∧
      (before = front ∨ '\n' :: front <:+ before) := by
  induction ls generalizing before with
  | nil =>
    have hnil := List.append_eq_nil_iff.mp h.symm
    exact absurd (List.append_eq_nil_iff.mp hnil.1).2 hne
  | cons line ls ih =>
    have hline := hls line List.mem_cons_self
    rw [terminated_cons, List.append_assoc, List.append_assoc] at h
    rcases List.append_eq_append_iff.mp h with ⟨x, rfl, hx⟩ | ⟨x, rfl, hx⟩
    · cases x with
      | nil =>
        -- The part would begin with the line feed.
        obtain ⟨c, l', rfl⟩ := List.exists_cons_of_ne_nil hne
        obtain ⟨rfl, -⟩ := List.cons.inj hx
        exact absurd List.mem_cons_self hl
      | cons c x =>
        obtain ⟨rfl, hbehind⟩ := List.cons.inj hx
        have hrest : terminated ls = x ++ l ++ after :=
          hbehind.trans (List.append_assoc x l after).symm
        obtain ⟨m, hm, front, rest, hmeq, hfront⟩ :=
          ih (fun m hm => hls m (List.mem_cons_of_mem line hm)) hrest
        refine ⟨m, List.mem_cons_of_mem line hm, front, rest, hmeq, .inr ?_⟩
        rcases hfront with rfl | hfront
        · exact List.suffix_append line _
        · exact hfront.trans (rest_isSuffix line x)
    · rcases List.append_eq_append_iff.mp hx with ⟨y, rfl, -⟩ | ⟨y, hy, hafter⟩
      · exact ⟨_, List.mem_cons_self, before, y, (List.append_assoc _ _ _).symm, .inl rfl⟩
      · cases y with
        | nil =>
          rw [List.append_nil] at hy
          exact ⟨_, List.mem_cons_self, before, [], by rw [hy, List.append_nil], .inl rfl⟩
        | cons c y =>
          obtain ⟨rfl, -⟩ := List.cons.inj hafter
          exact absurd (by rw [hy]; simp) hl

theorem head?_lines {s l : Text} (h : (lines s).head? = some l) : '\n' ∉ l ∧ l <+: s := by
  induction s using line_induction with
  | last m hm =>
    by_cases hne : m = []
    · rw [hne] at h
      cases h
    · rw [lines_line hm hne] at h
      cases h
      exact ⟨hm, List.prefix_refl _⟩
  | line m r hm ih =>
    rw [lines_line_append hm] at h
    cases h
    exact ⟨hm, List.prefix_append _ _⟩

theorem exists_of_mem_lines {s l : Text} (h : l ∈ lines s) :
    ∃ before after, '\n' :: s = before ++ '\n' :: l ++ after := by
  induction s using line_induction with
  | last m hm =>
    by_cases hne : m = []
    · rw [hne] at h
      cases h
    · rw [lines_line hm hne, List.mem_singleton] at h
      exact ⟨[], [], by rw [h, List.append_nil, List.nil_append]⟩
  | line m r hm ih =>
    rw [lines_line_append hm] at h
    rcases List.mem_cons.mp h with rfl | h
    · exact ⟨[], '\n' :: r, rfl⟩
    · obtain ⟨before, after, hr⟩ := ih h
      exact ⟨'\n' :: m ++ before, after, by rw [hr]; simp⟩

theorem exists_of_mem_tail_lines {s l : Text} (h : l ∈ (lines s).tail) :
    '\n' ∉ l ∧ ∃ before after, s = before ++ '\n' :: l ++ after := by
  refine ⟨(mem_lines (List.mem_of_mem_tail h)).1, ?_⟩
  induction s using line_induction with
  | last m hm =>
    by_cases hne : m = []
    · rw [hne] at h
      cases h
    · rw [lines_line hm hne] at h
      cases h
  | line m r hm ih =>
    rw [lines_line_append hm] at h
    obtain ⟨before, after, hr⟩ := exists_of_mem_lines h
    exact ⟨m ++ before, after, by rw [hr]; simp⟩

def StandsBehind (t first line : Text) : Prop :=
  ∃ front gap rest, AllBlank gap ∧ line = front ++ t ++ gap ++ first ++ rest

theorem suffix_of_lineFeed {t w front : Text} (ht : '\n' ∉ t) (h : '\n' :: front <:+ t ++ w) :
    '\n' :: front <:+ w := by
  induction t with
  | nil => exact h
  | cons c t ih =>
    rw [List.mem_cons, not_or] at ht
    rcases List.suffix_cons_iff.mp h with heq | h
    · exact absurd (List.cons.inj heq).1 ht.1
    · exact ih ht.2 h

theorem exists_front {t before w front : Text} (ht : NoBlank t) (hw : AllBlank w)
    (hb : before = [] ∨ t <:+ before)
    (hfront : before ++ w = front ∨ '\n' :: front <:+ before ++ w) :
    AllBlank front ∨ ∃ a, front = a ++ t ++ w := by
  have hfeed : '\n' ∉ t := not_mem_of_noBlank ht rfl
  have blank_front (h : '\n' :: front <:+ w) : AllBlank front :=
    fun c hc => hw c (h.subset (List.mem_cons_of_mem _ hc))
  rcases hb with rfl | ⟨a, rfl⟩
  · rcases hfront with rfl | hfront
    · exact .inl hw
    · exact .inl (blank_front hfront)
  · rcases hfront with hfront | hfront
    · exact .inr ⟨a, hfront.symm⟩
    -- No line feed is within the terminator, so all of it stands on one side of this one.
    have hends : t ++ w <:+ a ++ t ++ w := ⟨a, (List.append_assoc a t w).symm⟩
    rcases List.suffix_or_suffix_of_suffix hfront hends with h | h
    · exact .inl (blank_front (suffix_of_lineFeed hfeed h))
    · rcases List.suffix_cons_iff.mp h with heq | ⟨x, hx⟩
      · have hsuffix : '\n' :: front <:+ t ++ w := heq ▸ List.suffix_refl _
        exact .inl (blank_front (suffix_of_lineFeed hfeed hsuffix))
      · exact .inr ⟨x, by rw [← hx, List.append_assoc]⟩

namespace Splitter

def Bears (read : List Text) (line t : Text) : Prop :=
  isDirective (trim line) = false ∧
    ∃ before after, read = before ++ line :: after ∧ (start.feedAll before).terminator = t

/-- A directive among the lines of a statement is its first line and stands behind a terminator. -/
structure WellSited (read : List Text) (s : Text) : Prop where
  later : ∀ l ∈ (lines s).tail, isDirective (trim l) = false
  first : ∀ l, (lines s).head? = some l → isDirective (trim l) = true →
    ∃ line t, Bears read line t ∧ StandsBehind t l line

theorem bears_concat {read : List Text} {line t : Text} (h : Bears read line t) (m : Text) :
    Bears (read ++ [m]) line t := by
  obtain ⟨hline, before, after, rfl, ht⟩ := h
  exact ⟨hline, before, after ++ [m], by simp, ht⟩

theorem wellSited_concat {read : List Text} {s : Text} (h : WellSited read s) (m : Text) :
    WellSited (read ++ [m]) s := by
  refine ⟨h.later, fun l hl hd => ?_⟩
  obtain ⟨line, t, hline, hbehind⟩ := h.first l hl hd
  exact ⟨line, t, bears_concat hline m, hbehind⟩

theorem exists_bears_of_part {read ls : List Text} {t before l after : Text}
    (hls : ∀ line ∈ ls, '\n' ∉ line ∧ Bears read line t) (hl : '\n' ∉ l)
    (hd : isDirective (trim l) = true) (h : terminated ls = before ++ l ++ after) :
    ∃ front rest, Bears read (front ++ l ++ rest) t ∧ '\n' ∉ front ∧ ¬ AllBlank front ∧
      (before = front ∨ '\n' :: front <:+ before) := by
  have hne : l ≠ [] := by
    rintro rfl
    cases hd
  obtain ⟨line, hline, front, rest, rfl, hfront⟩ :=
    exists_line_of_part (fun line hline => (hls line hline).1) hne hl h
  obtain ⟨hfeed, hbears⟩ := hls _ hline
  refine ⟨front, rest, hbears, fun hm => hfeed (by simp [hm]), fun hblank => ?_, hfront⟩
  exact absurd (isDirective_of_part hblank hd rest) (by rw [hbears.1]; exact Bool.false_ne_true)

theorem wellSited_of_part {read ls : List Text} {t before p after : Text} (ht : NoBlank t)
    (hls : ∀ line ∈ ls, '\n' ∉ line ∧ Bears read line t)
    (h : terminated ls = before ++ p ++ after) (hb : before = [] ∨ t <:+ before) :
    WellSited read (trim p) := by
  obtain ⟨w, b, hw, -, hp⟩ := exists_trim p
  constructor
  case later =>
    intro l hl
    obtain ⟨hl, x, y, hs⟩ := exists_of_mem_tail_lines hl
    by_contra hd
    rw [Bool.not_eq_false] at hd
    have hcut : terminated ls = before ++ w ++ x ++ ['\n'] ++ l ++ (y ++ b ++ after) := by
      rw [h, hp, hs]
      simp
    obtain ⟨front, rest, -, hnone, hmore, hfront⟩ := exists_bears_of_part hls hl hd hcut
    have hends : front <:+ before ++ w ++ x ++ ['\n'] := by
      rcases hfront with rfl | hfront
      · exact List.suffix_refl _
      · exact (List.suffix_cons '\n' front).trans hfront
    have hne : front ≠ [] := fun he => hmore (he ▸ List.forall_mem_nil _)
    exact lineFeed_not_ends hne hnone hends (List.suffix_append _ ['\n'])
  case first =>
    intro l hl hd
    obtain ⟨hl, y, hs⟩ := head?_lines hl
    have hcut : terminated ls = before ++ w ++ l ++ (y ++ b ++ after) := by
      rw [h, hp, ← hs]
      simp
    obtain ⟨front, rest, hbears, -, hmore, hfront⟩ := exists_bears_of_part hls hl hd hcut
    rcases exists_front ht hw hb hfront with hblank | ⟨a, rfl⟩
    · exact absurd hblank hmore
    · exact ⟨_, t, hbears, a, w, rest, hw, rfl⟩

structure Sited (read : List Text) (s : Splitter) : Prop where
  openLines : ∃ ls, s.openText = terminated ls ∧
    ∀ line ∈ ls, '\n' ∉ line ∧ Bears read line s.terminator
  statements : ∀ u ∈ s.statements, WellSited read u

theorem sited_feed {read : List Text} (h : Sited read (start.feedAll read)) {line : Text}
    (hline : '\n' ∉ line) : Sited (read ++ [line]) ((start.feedAll read).feed line) := by
  have ht : IsTerminator (start.feedAll read).terminator :=
    isTerminator_feedAll isTerminator_default _
  have hf := feed_fed ht line
  have hbears (hd : isDirective (trim line) = false) :
      Bears (read ++ [line]) line (start.feedAll read).terminator := ⟨hd, read, [], rfl, rfl⟩
  generalize start.feedAll read = s at h ht hf hbears ⊢
  obtain ⟨⟨ls, hopen, hls⟩, hstatements⟩ := h
  have hkept : ∀ l ∈ ls, '\n' ∉ l ∧ Bears (read ++ [line]) l s.terminator :=
    fun l hl => ⟨(hls l hl).1, bears_concat (hls l hl).2 line⟩
  have hold : ∀ u ∈ s.statements, WellSited (read ++ [line]) u :=
    fun u hu => wellSited_concat (hstatements u hu) line
  have hlonger : s.openText ++ line ++ ['\n'] = terminated (ls ++ [line]) := by
    rw [hopen, terminated_concat]
  have hlines (hd : isDirective (trim line) = false) :
      ∀ l ∈ ls ++ [line], '\n' ∉ l ∧ Bears (read ++ [line]) l s.terminator := by
    rw [List.forall_mem_append, List.forall_mem_singleton]
    exact ⟨hkept, hline, hbears hd⟩
  generalize s.feed line = u at hf ⊢
  cases hf with
  | directive t h named =>
    refine ⟨⟨[], rfl, List.forall_mem_nil _⟩, List.forall_mem_append.mpr ⟨hold, ?_⟩⟩
    intro v hv
    obtain ⟨p, hp, rfl⟩ := List.mem_map.mp (List.mem_filter.mp hv).1
    rw [List.mem_singleton.mp hp]
    have hcut : terminated ls = [] ++ s.openText ++ [] := by
      rw [hopen, List.append_nil, List.nil_append]
    exact wellSited_of_part ht.noBlank hkept hcut (.inl rfl)
  | kept h unclosed => exact ⟨⟨ls ++ [line], hlonger, hlines h⟩, hold⟩
  | closed body w h ending blank split =>
    refine ⟨⟨[], rfl, List.forall_mem_nil _⟩, List.forall_mem_append.mpr ⟨hold, ?_⟩⟩
    intro v hv
    obtain ⟨p, hp, rfl⟩ := List.mem_map.mp (List.mem_filter.mp hv).1
    obtain ⟨before, after, rfl, hbefore⟩ := exists_of_mem_pieces hp
    have hcut : terminated (ls ++ [line]) = before ++ p ++ (after ++ s.terminator ++ w) := by
      rw [← hlonger, split]
      simp only [List.append_assoc]
    exact wellSited_of_part ht.noBlank (hlines h) hcut hbefore

theorem sited_feedAll {read : List Text} (hread : ∀ line ∈ read, '\n' ∉ line) :
    Sited read (start.feedAll read) := by
  induction read using List.reverseRecOn with
  | nil => exact ⟨⟨[], rfl, List.forall_mem_nil _⟩, List.forall_mem_nil _⟩
  | append_singleton read line ih =>
    rw [List.forall_mem_append, List.forall_mem_singleton] at hread
    rw [feedAll_append]
    exact sited_feed (ih hread.1) hread.2

end Splitter

/-- No line of a statement is a directive, unless it is its first line and stands, on a line of the
text that is none, behind the terminator in force there. -/
theorem splitDirected_directive_lines {text s : Text} (h : s ∈ splitDirected text) :
    (∀ l ∈ (lines s).tail, isDirective (trim l) = false) ∧
      ∀ l, (lines s).head? = some l → isDirective (trim l) = true →
        ∃ line t, Splitter.Bears (lines (unifyBreaks text)) line t ∧ StandsBehind t l line := by
  have ht : IsTerminator (Splitter.start.feedAll (lines (unifyBreaks text))).terminator :=
    Splitter.isTerminator_feedAll isTerminator_default _
  have hfeed : ∀ line ∈ lines (unifyBreaks text), '\n' ∉ line :=
    fun line hline => (mem_lines hline).1
  obtain ⟨⟨ls, hopen, hls⟩, hstatements⟩ := Splitter.sited_feedAll hfeed
  have hsited : Splitter.WellSited (lines (unifyBreaks text)) s := by
    rw [splitDirected, Splitter.finish_eq ht] at h
    rcases List.mem_append.mp h with h | h
    · exact hstatements s h
    · obtain ⟨p, hp, rfl⟩ := List.mem_map.mp (List.mem_filter.mp h).1
      obtain ⟨before, after, hcut, hbefore⟩ := exists_of_mem_pieces hp
      exact Splitter.wellSited_of_part ht.noBlank hls (hopen.symm.trans hcut) hbefore
  exact ⟨hsited.later, hsited.first⟩

theorem splitDirected_directive_lines_behindCaret :
    let text := "SET TERM ^ ;\nB ^ set term ; ^ x\ny^".toList
    let s := "set term ;".toList
    s ∈ splitDirected text ∧ (lines s).head? = some s ∧ isDirective (trim s) = true ∧
      ∃ line t, Splitter.Bears (lines (unifyBreaks text)) line t ∧ StandsBehind t s line := by
  intro text s
  have hsplit : splitDirected text = ["B".toList, s, "x\ny".toList] := by decide +kernel
  have hmem : s ∈ splitDirected text := by
    rw [hsplit]
    exact List.mem_cons_of_mem _ List.mem_cons_self
  have hhead : (lines s).head? = some s := by decide
  have hd : isDirective (trim s) = true := by decide
  exact ⟨hmem, hhead, hd, (splitDirected_directive_lines hmem).2 s hhead hd⟩

def sharedLine : Text := "A; SET TERM ^ ; B^C^ SET TERM ; ^ D;".toList

theorem directive_in_statement_of_sharedLine :
    splitDirected sharedLine =
        ["A".toList, "SET TERM ^".toList, "B^C^ SET TERM".toList, "^ D".toList] ∧
      ¬ ∀ s ∈ splitDirected sharedLine, ∀ l ∈ lines s, isDirective (trim l) = false := by
  have hsplit : splitDirected sharedLine =
      ["A".toList, "SET TERM ^".toList, "B^C^ SET TERM".toList, "^ D".toList] := by decide +kernel
  refine ⟨hsplit, fun h => ?_⟩
  have hmem : "SET TERM ^".toList ∈ splitDirected sharedLine := by
    rw [hsplit]
    exact List.mem_cons_of_mem _ List.mem_cons_self
  have hd := h _ hmem "SET TERM ^".toList (by decide)
  exact absurd hd (by decide)

end ScriptReplay
