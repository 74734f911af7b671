import Mathlib.Data.List.DropRight
import ScriptReplay.Text.Blank

namespace ScriptReplay.Text

def AllBlank (t : Text) : Prop := ∀ c ∈ t, isBlank c = true

def NoBlank (t : Text) : Prop := ∀ c ∈ t, isBlank c = false

def StartsBlank (t : Text) : Prop := ∀ c r, t = c :: r → isBlank c = true

def EndsBlank (t : Text) : Prop := ∀ r c, t = r ++ [c] → isBlank c = true

theorem allBlank_append {a b : Text} : AllBlank (a ++ b) ↔ AllBlank a ∧ AllBlank b :=
  List.forall_mem_append

theorem noBlank_append {a b : Text} : NoBlank (a ++ b) ↔ NoBlank a ∧ NoBlank b :=
  List.forall_mem_append

theorem noBlank_of_any {t : Text} (h : t.any isBlank = false) : NoBlank t := by
  intro c hc
  exact Bool.eq_false_iff.mpr (List.any_eq_false.mp h c hc)

theorem not_mem_of_noBlank {c : Char} {t : Text} (h : NoBlank t) (hc : isBlank c = true) : c ∉ t := by
  intro hm
  rw [h c hm] at hc
  cases hc

theorem allBlank_lineFeed : AllBlank ['\n'] := by
  intro c hc
  rw [List.mem_singleton] at hc
  subst hc
  rfl

theorem startsBlank_of_allBlank {t : Text} (h : AllBlank t) : StartsBlank t :=
  fun c r ht => h c (by rw [ht]; exact List.mem_cons_self)

theorem startsBlank_nil : StartsBlank [] :=
  startsBlank_of_allBlank (List.forall_mem_nil _)

theorem startsBlank_cons {c : Char} (h : isBlank c = true) (r : Text) : StartsBlank (c :: r) := by
  intro d r' hd
  cases hd
  exact h

theorem endsBlank_of_allBlank {t : Text} (h : AllBlank t) : EndsBlank t :=
  fun r c ht => h c (by rw [ht]; simp)

theorem eq_nil_of_blank {t : Text} (ha : AllBlank t) (hn : NoBlank t) : t = [] := by
  apply List.eq_nil_iff_forall_not_mem.mpr
  intro c hc
  have h := ha c hc
  rw [hn c hc] at h
  exact Bool.false_ne_true h

theorem endsBlank_nil : EndsBlank [] := by
  intro r c h
  exact absurd h.symm (List.append_ne_nil_of_right_ne_nil r (List.cons_ne_nil c []))

theorem endsBlank_of_append {a b : Text} (h : EndsBlank (a ++ b)) : EndsBlank b := by
  intro r c hb
  apply h (a ++ r)
  rw [hb, List.append_assoc]

theorem endsBlank_append {a b : Text} (hne : b ≠ []) (h : EndsBlank b) : EndsBlank (a ++ b) := by
  intro r c hc
  rcases List.append_eq_append_iff.mp hc with ⟨m, -, hm⟩ | ⟨m, -, hm⟩
  · exact h m c hm
  · cases m with
    | nil => exact h [] c hm.symm
    | cons d m => exact absurd (List.append_eq_nil_iff.mp (List.cons.inj hm).2.symm).2 hne

theorem eq_nil_of_endsBlank {t : Text} (h : EndsBlank t) (hn : NoBlank t) : t = [] := by
  by_contra hne
  have hlast := h _ _ (List.dropLast_concat_getLast hne).symm
  rw [hn _ (List.getLast_mem hne)] at hlast
  exact Bool.false_ne_true hlast

theorem trimEnd_append {t w : Text} (h : AllBlank w) : trimEnd (t ++ w) = trimEnd t := by
  unfold trimEnd
  rw [List.reverse_append, List.dropWhile_append_of_pos]
  intro c hc
  exact h c (List.mem_reverse.mp hc)

theorem trim_blank_append {w t : Text} (h : AllBlank w) : trim (w ++ t) = trim t := by
  unfold trim trimStart
  rw [List.dropWhile_append_of_pos h]

theorem trim_eq_nil_of_allBlank {t : Text} (h : AllBlank t) : trim t = [] := by
  have h' := trim_blank_append (t := []) h
  rw [List.append_nil] at h'
  exact h'

theorem trim_append_blank {t w : Text} (h : AllBlank w) : trim (t ++ w) = trim t := by
  by_cases ht : AllBlank t
  · rw [trim_blank_append ht, trim_eq_nil_of_allBlank ht, trim_eq_nil_of_allBlank h]
  · have hne : ¬ (List.dropWhile isBlank t).isEmpty = true := by
      rw [List.isEmpty_iff, List.dropWhile_eq_nil_iff]
      exact ht
    unfold trim trimStart
    rw [List.dropWhile_append, if_neg hne, trimEnd_append h]

theorem exists_trim (t : Text) : ∃ a b, AllBlank a ∧ AllBlank b ∧ t = a ++ trim t ++ b := by
  refine ⟨t.takeWhile isBlank, (trimStart t).rtakeWhile isBlank, ?_, ?_, ?_⟩
  · exact fun c hc => List.mem_takeWhile_imp hc
  · exact fun c hc => List.mem_rtakeWhile_imp hc
  · have hend : trim t ++ (trimStart t).rtakeWhile isBlank = trimStart t :=
      List.rdropWhile_append_rtakeWhile
    rw [List.append_assoc, hend]
    exact List.takeWhile_append_dropWhile.symm

theorem trim_isInfix (t : Text) : trim t <:+: t := by
  obtain ⟨a, b, -, -, ht⟩ := exists_trim t
  exact ⟨a, b, ht.symm⟩

theorem trim_eq_nil_iff {t : Text} : trim t = [] ↔ AllBlank t := by
  constructor
  · intro h
    obtain ⟨a, b, ha, hb, ht⟩ := exists_trim t
    rw [ht, h, List.append_nil]
    exact allBlank_append.mpr ⟨ha, hb⟩
  · exact trim_eq_nil_of_allBlank

theorem trim_trim (t : Text) : trim (trim t) = trim t := by
  obtain ⟨a, b, ha, hb, ht⟩ := exists_trim t
  calc trim (trim t) = trim (a ++ trim t) := (trim_blank_append ha).symm
    _ = trim (a ++ trim t ++ b) := (trim_append_blank hb).symm
    _ = trim t := congrArg trim ht.symm

theorem lineFeed_not_ends_trimmed {t : Text} (h : trim t = t) : ¬ ['\n'] <:+ t := by
  rintro ⟨r, rfl⟩
  have hlen := (trim_isInfix r).length_le
  rw [← trim_append_blank allBlank_lineFeed, h, List.length_append, List.length_singleton] at hlen
  omega

theorem begins_trim {u w : Text} (hu : u ≠ []) (hun : NoBlank u) (hw : w ≠ []) (hwn : NoBlank w)
    (v r : Text) : u ++ v ++ w <+: trim (u ++ v ++ w ++ r) := by
  obtain ⟨a, b, ha, hb, ht⟩ := exists_trim (u ++ v ++ w ++ r)
  have hfront : a <+: u ++ v ++ w ++ r := by
    rw [ht, List.append_assoc]
    exact List.prefix_append a _
  have hbegin : u <+: u ++ v ++ w ++ r := by
    simp only [List.append_assoc]
    exact List.prefix_append u _
  have ha0 : a = [] := by
    rcases List.prefix_or_prefix_of_prefix hfront hbegin with h | h
    · exact eq_nil_of_blank ha fun x hx => hun x (h.subset hx)
    · exact absurd (eq_nil_of_blank (fun x hx => ha x (h.subset hx)) hun) hu
  rw [ha0, List.nil_append] at ht
  rcases List.append_eq_append_iff.mp ht with ⟨x, hx, -⟩ | ⟨x, hx, hxb⟩
  · rw [hx]
    exact List.prefix_append _ x
  · have hx0 : x = [] := by
      have hblank : AllBlank x := fun c hc => hb c (by rw [hxb]; exact List.mem_append_left r hc)
      have hend : x <:+ u ++ v ++ w := ⟨_, hx.symm⟩
      rcases List.suffix_or_suffix_of_suffix hend (List.suffix_append _ w) with h | h
      · exact eq_nil_of_blank hblank fun c hc => hwn c (h.subset hc)
      · exact absurd (eq_nil_of_blank (fun c hc => hblank c (h.subset hc)) hwn) hw
    rw [hx0, List.append_nil] at hx
    exact ⟨[], (List.append_nil _).trans hx⟩

theorem trim_of_noBlank_edges {u w : Text} (hu : u ≠ []) (hun : NoBlank u) (hw : w ≠ [])
    (hwn : NoBlank w) (v : Text) : trim (u ++ v ++ w) = u ++ v ++ w := by
  have h := begins_trim hu hun hw hwn v []
  rw [List.append_nil] at h
  exact (h.eq_of_length_le (trim_isInfix _).length_le).symm

theorem infix_trim {u v w t : Text} (hu : u ≠ []) (hun : NoBlank u) (hw : w ≠ []) (hwn : NoBlank w)
    (h : u ++ v ++ w <:+: t) : u ++ v ++ w <:+: trim t := by
  obtain ⟨x, y, rfl⟩ := h
  induction x with
  | nil => exact (begins_trim hu hun hw hwn v y).isInfix
  | cons c x ih =>
    cases hc : isBlank c with
    | true =>
      have hblank : AllBlank [c] := by simpa [AllBlank] using hc
      have hcut : c :: x ++ (u ++ v ++ w) ++ y = [c] ++ (x ++ (u ++ v ++ w) ++ y) := rfl
      rw [hcut, trim_blank_append hblank]
      exact ih
    | false =>
      have hfirst : NoBlank [c] := by simpa [NoBlank] using hc
      have hbegin := begins_trim (List.cons_ne_nil c []) hfirst hw hwn (x ++ u ++ v) y
      have hcut : [c] ++ (x ++ u ++ v) ++ w = c :: x ++ (u ++ v ++ w) := by simp
      rw [hcut] at hbegin
      exact (List.suffix_append _ _).isInfix.trans hbegin.isInfix

theorem filter_trim (t : Text) :
    (trim t).filter (fun c => !isBlank c) = t.filter (fun c => !isBlank c) := by
  obtain ⟨w, b, hw, hb, ht⟩ := exists_trim t
  have none {v : Text} (hv : AllBlank v) : v.filter (fun c => !isBlank c) = [] := by
    apply List.filter_eq_nil_iff.mpr
    intro c hc
    rw [hv c hc]
    exact Bool.false_ne_true
  have h := congrArg (List.filter fun c => !isBlank c) ht
  rw [List.filter_append, List.filter_append, none hw, none hb, List.nil_append,
    List.append_nil] at h
  exact h.symm

theorem allBlank_of_trim_append {u q : Text} (h : trim (u ++ q) = trim u) : AllBlank q := by
  have hf := filter_trim (u ++ q)
  rw [h, filter_trim, List.filter_append] at hf
  have hq := List.self_eq_append_right.mp hf
  intro c hc
  have hn := List.filter_eq_nil_iff.mp hq c hc
  simpa using hn

theorem suffix_of_endsBlank {t u v : Text} (hn : NoBlank t) (hu : EndsBlank u) (h : t <:+ u ++ v) :
    t <:+ v := by
  rcases List.suffix_or_suffix_of_suffix h (List.suffix_append u v) with h' | ⟨x, rfl⟩
  · exact h'
  · obtain ⟨y, hy⟩ := h
    rw [← List.append_assoc] at hy
    have hu' : y ++ x = u := List.append_cancel_right hy
    rw [← hu'] at hu
    have hx0 := eq_nil_of_endsBlank (endsBlank_of_append hu) (noBlank_append.mp hn).1
    rw [hx0]
    exact List.suffix_refl v

theorem suffix_trim_iff {t u : Text} (hne : t ≠ []) (hn : NoBlank t) :
    t <:+ trim u ↔ ∃ a b, AllBlank b ∧ u = a ++ t ++ b := by
  constructor
  · rintro ⟨x, hx⟩
    obtain ⟨w, b, -, hb, hu⟩ := exists_trim u
    rw [← hx] at hu
    exact ⟨w ++ x, b, hb, by simpa only [List.append_assoc] using hu⟩
  · rintro ⟨a, b, hb, rfl⟩
    rw [trim_append_blank hb]
    obtain ⟨c, d, hc, hd, hsplit⟩ := exists_trim (a ++ t)
    have hdt : d <:+ a ++ t := ⟨c ++ trim (a ++ t), hsplit.symm⟩
    have hd0 : d = [] := by
      rcases List.suffix_or_suffix_of_suffix hdt (List.suffix_append a t) with h | h
      · exact eq_nil_of_blank hd fun x hx => hn x (h.subset hx)
      · exact absurd (eq_nil_of_blank (fun x hx => hd x (h.subset hx)) hn) hne
    rw [hd0, List.append_nil] at hsplit
    apply suffix_of_endsBlank hn (endsBlank_of_allBlank hc)
    rw [← hsplit]
    exact List.suffix_append a t

theorem suffix_trim_append {t u v : Text} (hne : t ≠ []) (hn : NoBlank t) (hu : EndsBlank u)
    (h : t <:+ trim (u ++ v)) : t <:+ trim u ∨ t <:+ trim v := by
  obtain ⟨a, b, hb, huv⟩ := (suffix_trim_iff hne hn).mp h
  rcases List.append_eq_append_iff.mp huv with ⟨m, hm, rfl⟩ | ⟨m, rfl, rfl⟩
  · right
    have htm : t <:+ m := by
      apply suffix_of_endsBlank hn hu
      rw [← hm]
      exact List.suffix_append a t
    obtain ⟨n, rfl⟩ := htm
    exact (suffix_trim_iff hne hn).mpr ⟨n, b, hb, rfl⟩
  · left
    exact (suffix_trim_iff hne hn).mpr ⟨a, m, (allBlank_append.mp hb).1, rfl⟩

end ScriptReplay.Text
