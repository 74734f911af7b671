import ScriptReplay.Proofs.Text.Trim
import ScriptReplay.Text.Pieces

namespace ScriptReplay.Text

def Apart (sep u v : Text) : Prop :=
  ∀ x y, sep = x ++ y → x ≠ [] → y ≠ [] → x <:+ u → ¬ y <+: v

theorem apart_of_suffix {sep u u' v : Text} (h : Apart sep u v) (hu : u' <:+ u) :
    Apart sep u' v :=
  fun x y hs hx hy hxu => h x y hs hx hy (hxu.trans hu)

theorem apart_of_begins {sep u v v' : Text} (h : Apart sep u v) (hv : v' <+: v) : Apart sep u v' :=
  fun x y hs hx hy hxu hyv => h x y hs hx hy hxu (hyv.trans hv)

theorem apart_of_startsBlank {sep u v : Text} (hn : NoBlank sep) (hv : StartsBlank v) :
    Apart sep u v := by
  intro x y hs hx hy hxu hyv
  obtain ⟨c, y', rfl⟩ := List.exists_cons_of_ne_nil hy
  obtain ⟨r, rfl⟩ := hyv
  have hc : isBlank c = true := hv c (y' ++ r) rfl
  have hc' : isBlank c = false := hn c (by rw [hs]; simp)
  rw [hc] at hc'
  exact Bool.false_ne_true hc'.symm

theorem apart_of_endsBlank {sep u v : Text} (hn : NoBlank sep) (hu : EndsBlank u) :
    Apart sep u v := by
  intro x y hs hx hy hxu hyv
  obtain ⟨r, rfl⟩ := hxu
  rw [hs] at hn
  exact hx (eq_nil_of_endsBlank (endsBlank_of_append hu) (noBlank_append.mp hn).1)

theorem breakOn_append_of_some {sep t a b : Text} (h : breakOn sep t = some (a, b)) (u : Text) :
    breakOn sep (t ++ u) = some (a, b ++ u) := by
  induction t generalizing a with
  | nil => simp [breakOn] at h
  | cons c r ih =>
    rw [breakOn] at h
    rw [List.cons_append, breakOn]
    by_cases hp : sep ≠ [] ∧ sep.isPrefixOf (c :: r) = true
    · rw [if_pos hp] at h
      cases h
      obtain ⟨z, hz⟩ := List.isPrefixOf_iff_prefix.mp hp.2
      have hp' : sep.isPrefixOf (c :: (r ++ u)) = true := by
        apply List.isPrefixOf_iff_prefix.mpr
        exact ⟨z ++ u, by rw [← List.append_assoc, hz, List.cons_append]⟩
      rw [if_pos ⟨hp.1, hp'⟩, ← List.cons_append, ← hz, List.append_assoc, List.drop_left,
        List.drop_left]
    · rw [if_neg hp] at h
      obtain ⟨⟨a', b'⟩, hr, he⟩ := Option.map_eq_some_iff.mp h
      cases he
      have hlen := (length_of_breakOn hr).1
      have hp' : ¬ (sep ≠ [] ∧ sep.isPrefixOf (c :: (r ++ u)) = true) := by
        rintro ⟨hne, hpre⟩
        apply hp
        refine ⟨hne, List.isPrefixOf_iff_prefix.mpr ?_⟩
        have hcr : c :: r <+: c :: (r ++ u) := ⟨u, rfl⟩
        apply List.prefix_of_prefix_length_le (List.isPrefixOf_iff_prefix.mp hpre) hcr
        rw [List.length_cons]
        omega
      rw [if_neg hp', ih hr]
      rfl

theorem breakOn_cons_eq_none {sep r : Text} {c : Char} (hs : sep ≠ [])
    (h : breakOn sep (c :: r) = none) : ¬ sep <+: c :: r ∧ breakOn sep r = none := by
  rw [breakOn] at h
  split at h
  · cases h
  · rename_i hp
    rw [List.isPrefixOf_iff_prefix] at hp
    exact ⟨fun hpre => hp ⟨hs, hpre⟩, Option.map_eq_none_iff.mp h⟩

theorem breakOn_append_of_none {sep u v : Text} (hs : sep ≠ []) (h : breakOn sep u = none)
    (ha : Apart sep u v) :
    breakOn sep (u ++ v) = (breakOn sep v).map fun p => (u ++ p.1, p.2) := by
  induction u with
  | nil => simp
  | cons c r ih =>
    obtain ⟨hp, hr⟩ := breakOn_cons_eq_none hs h
    have hp' : ¬ (sep ≠ [] ∧ sep.isPrefixOf (c :: (r ++ v)) = true) := by
      rintro ⟨-, hpre⟩
      obtain ⟨z, hz⟩ := List.isPrefixOf_iff_prefix.mp hpre
      rw [← List.cons_append] at hz
      rcases List.append_eq_append_iff.mp hz with ⟨y, hy, -⟩ | ⟨y, hy, hv⟩
      · exact hp ⟨y, hy.symm⟩
      · by_cases hn : y = []
        · rw [hn, List.append_nil] at hy
          exact hp ⟨[], by rw [hy, List.append_nil]⟩
        · exact ha (c :: r) y hy (List.cons_ne_nil c r) hn (List.suffix_refl _) ⟨z, hv.symm⟩
    rw [List.cons_append, breakOn, if_neg hp',
      ih hr (apart_of_suffix ha (List.suffix_cons c r)), Option.map_map]
    rfl

theorem pieces_of_none {sep t : Text} (h : breakOn sep t = none) : pieces sep t = [t] := by
  rw [pieces]
  split
  · rfl
  · rename_i a b hs
    rw [h] at hs
    cases hs

theorem pieces_of_some {sep t a b : Text} (h : breakOn sep t = some (a, b)) :
    pieces sep t = a :: pieces sep b := by
  rw [pieces]
  split
  · rename_i hn
    rw [h] at hn
    cases hn
  · rename_i a' b' hs
    rw [h] at hs
    cases hs
    rfl

theorem pieces_append_of_none {sep u v : Text} (hs : sep ≠ []) (hu : breakOn sep u = none)
    (ha : Apart sep u v) :
    ∃ q qs, pieces sep v = q :: qs ∧ pieces sep (u ++ v) = (u ++ q) :: qs := by
  have hb := breakOn_append_of_none hs hu ha
  cases hv : breakOn sep v with
  | none =>
    rw [hv] at hb
    exact ⟨v, [], pieces_of_none hv, pieces_of_none hb⟩
  | some p =>
    obtain ⟨a, b⟩ := p
    rw [hv] at hb
    exact ⟨a, pieces sep b, pieces_of_some hv, pieces_of_some hb⟩

theorem pieces_append {sep u v : Text} (hs : sep ≠ []) (ha : Apart sep u v) :
    ∃ ps p q qs, pieces sep u = ps ++ [p] ∧ pieces sep v = q :: qs ∧
      pieces sep (u ++ v) = ps ++ (p ++ q) :: qs := by
  fun_induction pieces sep u with
  | case1 u h =>
    obtain ⟨q, qs, hv, huv⟩ := pieces_append_of_none hs h ha
    exact ⟨[], u, q, qs, rfl, hv, huv⟩
  | case2 u a b h ih =>
    have hsuffix : b <:+ u := by
      obtain ⟨-, rfl⟩ := breakOn_eq_some h
      exact List.suffix_append _ _
    obtain ⟨ps, p, q, qs, hb, hv, hbv⟩ := ih (apart_of_suffix ha hsuffix)
    refine ⟨a :: ps, p, q, qs, by rw [hb]; rfl, hv, ?_⟩
    rw [pieces_of_some (breakOn_append_of_some h v), hbv]
    rfl

theorem breakOn_eq_none_iff {sep t : Text} (hs : sep ≠ []) :
    breakOn sep t = none ↔ ¬ sep <:+: t := by
  constructor
  · intro h
    induction t with
    | nil => exact fun hi => hs (List.infix_nil.mp hi)
    | cons c r ih =>
      obtain ⟨hp, hr⟩ := breakOn_cons_eq_none hs h
      intro hi
      rcases List.infix_cons_iff.mp hi with hp' | hi
      · exact hp hp'
      · exact ih hr hi
  · intro h
    cases hb : breakOn sep t with
    | none => rfl
    | some p =>
      obtain ⟨-, ht⟩ := breakOn_eq_some (a := p.1) (b := p.2) hb
      exact absurd ⟨p.1, p.2, ht.symm⟩ h

theorem contains_iff {sep t : Text} (hs : sep ≠ []) : contains sep t = true ↔ sep <:+: t := by
  rw [contains, Option.isSome_iff_ne_none]
  exact not_iff_comm.mp (breakOn_eq_none_iff hs).symm

theorem breakOn_sep {sep : Text} (hs : sep ≠ []) (t : Text) :
    breakOn sep (sep ++ t) = some ([], t) := by
  obtain ⟨c, r, rfl⟩ := List.exists_cons_of_ne_nil hs
  have hp : (c :: r).isPrefixOf (c :: (r ++ t)) = true := by
    apply List.isPrefixOf_iff_prefix.mpr
    exact ⟨t, rfl⟩
  rw [List.cons_append, breakOn, if_pos ⟨hs, hp⟩, ← List.cons_append, List.drop_left]

def NoOverlap (sep : Text) : Prop :=
  ∀ y, y ≠ [] → y ≠ sep → y <+: sep → ¬ y <:+ sep

theorem apart_of_noOverlap {sep : Text} (h : NoOverlap sep) (u v : Text) :
    Apart sep u (sep ++ v) := by
  intro x y hs hx hy hxu hyv
  have hlen : y.length ≤ sep.length := by rw [hs, List.length_append]; omega
  have hpre : y <+: sep := List.prefix_of_prefix_length_le hyv (List.prefix_append sep v) hlen
  have hne : y ≠ sep := by
    intro he
    apply hx
    rw [← he] at hs
    exact List.self_eq_append_left.mp hs
  exact h y hy hne hpre ⟨x, hs.symm⟩

theorem noOverlap_pair {c d : Char} (h : c ≠ d) : NoOverlap [c, d] := by
  intro y hy hne hpre hsuf
  have hlen := hpre.length_le
  obtain ⟨z, hz⟩ := hpre
  obtain ⟨w, hw⟩ := hsuf
  match y, hy, hne, hlen with
  | [a], _, _, _ =>
    obtain ⟨hac, -⟩ := List.cons.inj hz
    have hlast : w ++ [a] = [c] ++ [d] := hw
    have had := List.append_inj_right' hlast rfl
    exact h (hac.symm.trans (List.singleton_inj.mp had))
  | [a, b], _, hne, _ =>
    exact hne (List.append_inj_left hz rfl)

theorem breakOn_first {sep a : Text} (hs : sep ≠ []) (hn : NoOverlap sep) (ha : ¬ sep <:+: a)
    (b : Text) : breakOn sep (a ++ (sep ++ b)) = some (a, b) := by
  have hnone := (breakOn_eq_none_iff hs).mpr ha
  rw [breakOn_append_of_none hs hnone (apart_of_noOverlap hn a b), breakOn_sep hs, Option.map_some,
    List.append_nil]

theorem pieces_append_sep {sep : Text} (hs : sep ≠ []) (h : NoOverlap sep) (u v : Text) :
    pieces sep (u ++ sep ++ v) = pieces sep u ++ pieces sep v := by
  obtain ⟨ps, p, q, qs, hu, hv, huv⟩ := pieces_append hs (apart_of_noOverlap h u v)
  rw [pieces_of_some (breakOn_sep hs v)] at hv
  cases hv
  rw [List.append_assoc, huv, hu, List.append_nil, List.append_assoc]
  rfl

theorem breakOn_of_allBlank {sep w : Text} (hs : sep ≠ []) (hn : NoBlank sep) (hw : AllBlank w) :
    breakOn sep w = none := by
  cases h : breakOn sep w with
  | none => rfl
  | some p =>
    obtain ⟨-, rfl⟩ := breakOn_eq_some h
    have hsep := (allBlank_append.mp (allBlank_append.mp hw).1).2
    exact absurd (eq_nil_of_blank hsep hn) hs

theorem breakOn_before {sep t a b : Text} (h : breakOn sep t = some (a, b)) :
    breakOn sep a = none := by
  cases ha : breakOn sep a with
  | none => rfl
  | some p =>
    obtain ⟨-, ht⟩ := breakOn_eq_some h
    have hlong := breakOn_append_of_some ha (sep ++ b)
    rw [← List.append_assoc, ← ht, h] at hlong
    obtain ⟨hp, -⟩ := Prod.mk.inj (Option.some.inj hlong)
    have hlen := length_of_breakOn (a := p.1) (b := p.2) ha
    rw [← hp] at hlen
    omega

theorem breakOn_of_mem_pieces {sep t p : Text} (h : p ∈ pieces sep t) : breakOn sep p = none := by
  fun_induction pieces sep t with
  | case1 t hn =>
    rw [List.mem_singleton.mp h]
    exact hn
  | case2 t a b hs ih =>
    rcases List.mem_cons.mp h with rfl | h
    · exact breakOn_before hs
    · exact ih h

theorem pieces_ne_nil (sep t : Text) : pieces sep t ≠ [] := by
  cases h : breakOn sep t with
  | none =>
    rw [pieces_of_none h]
    exact List.cons_ne_nil _ _
  | some p =>
    rw [pieces_of_some (a := p.1) (b := p.2) h]
    exact List.cons_ne_nil _ _

theorem intercalate_pieces (sep t : Text) : List.intercalate sep (pieces sep t) = t := by
  fun_induction pieces sep t with
  | case1 t h => exact List.intercalate_singleton
  | case2 t a b h ih =>
    obtain ⟨-, rfl⟩ := breakOn_eq_some h
    rw [List.intercalate_cons_of_ne_nil (pieces_ne_nil sep b), ih]

theorem eq_pieces_iff {sep t : Text} (hs : sep ≠ []) (hn : NoOverlap sep) {ps : List Text} :
    ps = pieces sep t ↔
      ps ≠ [] ∧ List.intercalate sep ps = t ∧ ∀ p ∈ ps, ¬ sep <:+: p := by
  constructor
  · rintro rfl
    refine ⟨pieces_ne_nil sep t, intercalate_pieces sep t, ?_⟩
    exact fun p hp => (breakOn_eq_none_iff hs).mp (breakOn_of_mem_pieces hp)
  · rintro ⟨hne, rfl, hfree⟩
    induction ps with
    | nil => exact absurd rfl hne
    | cons p ps ih =>
      have hp := hfree p List.mem_cons_self
      by_cases hps : ps = []
      · rw [hps, List.intercalate_singleton, pieces_of_none ((breakOn_eq_none_iff hs).mpr hp)]
      · rw [List.intercalate_cons_of_ne_nil hps, List.append_assoc,
          pieces_of_some (breakOn_first hs hn hp _),
          ← ih hps fun q hq => hfree q (List.mem_cons_of_mem p hq)]

theorem exists_of_mem_pieces {sep t p : Text} (h : p ∈ pieces sep t) :
    ∃ before after, t = before ++ p ++ after ∧ (before = [] ∨ sep <:+ before) := by
  fun_induction pieces sep t with
  | case1 t hn =>
    rw [List.mem_singleton.mp h]
    exact ⟨[], [], (List.append_nil _).symm, .inl rfl⟩
  | case2 t a b hs ih =>
    obtain ⟨-, rfl⟩ := breakOn_eq_some hs
    rcases List.mem_cons.mp h with rfl | h
    · exact ⟨[], sep ++ b, List.append_assoc _ _ _, .inl rfl⟩
    · obtain ⟨before, after, rfl, hbefore⟩ := ih h
      refine ⟨a ++ sep ++ before, after, by simp only [List.append_assoc], .inr ?_⟩
      rcases hbefore with rfl | hbefore
      · rw [List.append_nil]
        exact List.suffix_append a sep
      · exact hbefore.trans (List.suffix_append _ _)

theorem breakOn_trim {sep : Text} (hs : sep ≠ []) (hn : NoBlank sep) (t : Text) :
    breakOn sep (trim t) = none ↔ breakOn sep t = none := by
  obtain ⟨w, b, hw, hb, ht⟩ := exists_trim t
  have hfront := breakOn_append_of_none hs (breakOn_of_allBlank hs hn hw)
    (apart_of_endsBlank (v := trim t ++ b) hn (endsBlank_of_allBlank hw))
  rw [← List.append_assoc, ← ht] at hfront
  rw [hfront, Option.map_eq_none_iff]
  constructor
  · intro h
    rw [breakOn_append_of_none hs h (apart_of_startsBlank hn (startsBlank_of_allBlank hb)),
      breakOn_of_allBlank hs hn hb]
    rfl
  · intro h
    cases hc : breakOn sep (trim t) with
    | none => rfl
    | some p =>
      rw [breakOn_append_of_some (a := p.1) (b := p.2) hc b] at h
      cases h

theorem exists_behind_blank {w t y z : Text} {c : Char} (hw : AllBlank w) (hy : EndsBlank y)
    (hc : isBlank c = false) (h : w ++ t = y ++ c :: z) : ∃ y', EndsBlank y' ∧ t = y' ++ c :: z := by
  rcases List.append_eq_append_iff.mp h with ⟨y', rfl, ht⟩ | ⟨w', rfl, hz⟩
  · exact ⟨y', endsBlank_of_append hy, ht⟩
  · cases w' with
    | nil => exact ⟨[], endsBlank_nil, hz.symm⟩
    | cons d w' =>
      obtain ⟨rfl, -⟩ := List.cons.inj hz
      have hd := hw c (by simp)
      rw [hc] at hd
      exact absurd hd Bool.false_ne_true

theorem exists_behind_sep {sep t y z : Text} {c : Char} (hn : NoBlank sep) (hne : y ≠ [])
    (hy : EndsBlank y) (h : sep ++ t = y ++ c :: z) : ∃ y', EndsBlank y' ∧ t = y' ++ c :: z := by
  rcases List.append_eq_append_iff.mp h with ⟨y', rfl, ht⟩ | ⟨r, rfl, -⟩
  · exact ⟨y', endsBlank_of_append hy, ht⟩
  · exact absurd (eq_nil_of_endsBlank hy (noBlank_append.mp hn).1) hne

theorem head_of_blank_pieces {sep x y z : Text} {c : Char} (hn : NoBlank sep)
    (hp : ∀ p ∈ pieces sep x, AllBlank p) (hy : EndsBlank y) (hc : isBlank c = false)
    (h : x ++ sep = y ++ c :: z) : ∃ r, sep = c :: r := by
  fun_induction pieces sep x generalizing y with
  | case1 x hx =>
    obtain ⟨y', hy', ht⟩ := exists_behind_blank (hp x List.mem_cons_self) hy hc h
    have hy0 : y' = [] := by
      apply eq_nil_of_endsBlank hy'
      rw [ht] at hn
      exact (noBlank_append.mp hn).1
    exact ⟨z, by rw [ht, hy0, List.nil_append]⟩
  | case2 x a b hs ih =>
    obtain ⟨hne, hx⟩ := breakOn_eq_some hs
    rw [hx, List.append_assoc, List.append_assoc] at h
    obtain ⟨y', hy', ht⟩ := exists_behind_blank (hp a List.mem_cons_self) hy hc h
    by_cases hy0 : y' = []
    · obtain ⟨d, r, rfl⟩ := List.exists_cons_of_ne_nil hne
      rw [hy0] at ht
      obtain ⟨rfl, -⟩ := List.cons.inj ht
      exact ⟨r, rfl⟩
    · obtain ⟨y₂, hy₂, hb⟩ := exists_behind_sep hn hy0 hy' ht
      exact ih (fun p hpb => hp p (List.mem_cons_of_mem a hpb)) hy₂ hb

theorem not_infix_of_breakOnLast {sep t : Text} (hs : sep ≠ []) (h : breakOnLast sep t = none) :
    ¬ sep <:+: t := by
  induction t with
  | nil =>
    intro hi
    exact hs (List.infix_nil.mp hi)
  | cons c r ih =>
    rw [breakOnLast] at h
    cases hr : breakOnLast sep r with
    | some p => rw [hr] at h; cases h
    | none =>
      rw [hr] at h
      intro hi
      rcases List.infix_cons_iff.mp hi with hp | hi
      · have hp' : sep.isPrefixOf (c :: r) = true := List.isPrefixOf_iff_prefix.mpr hp
        simp only [if_pos (show sep ≠ [] ∧ sep.isPrefixOf (c :: r) = true from ⟨hs, hp'⟩)] at h
        cases h
      · exact ih hr hi

theorem breakOnLast_eq_some {sep t a b : Text} (h : breakOnLast sep t = some (a, b)) :
    sep ≠ [] ∧ t = a ++ sep ++ b ∧ ¬ sep <:+: (sep ++ b).tail := by
  induction t generalizing a with
  | nil => cases h
  | cons c r ih =>
    rw [breakOnLast] at h
    cases hr : breakOnLast sep r with
    | some p =>
      rw [hr] at h
      cases h
      obtain ⟨hs, ht, hlast⟩ := ih hr
      exact ⟨hs, by rw [ht]; rfl, hlast⟩
    | none =>
      rw [hr] at h
      by_cases hp : sep ≠ [] ∧ sep.isPrefixOf (c :: r) = true
      · simp only [if_pos hp] at h
        cases h
        have ht : c :: r = sep ++ (c :: r).drop sep.length := eq_append_of_isPrefixOf hp.2
        refine ⟨hp.1, ht, ?_⟩
        rw [← ht]
        exact not_infix_of_breakOnLast hp.1 hr
      · simp only [if_neg hp] at h
        cases h

theorem eq_nil_of_sep_append {sep w c b : Text} (hs : sep ≠ []) (hn : NoBlank sep)
    (hw : AllBlank w) (h : sep ++ w = c ++ (sep ++ b)) : c = [] := by
  rw [← List.append_assoc] at h
  rcases List.append_eq_append_iff.mp h with ⟨d, hd, rfl⟩ | ⟨d, hd, -⟩
  · have hdw := (allBlank_append.mp hw).1
    have hd0 : d = [] := by
      have hsuffix : d <:+ c ++ sep := ⟨sep, hd.symm⟩
      rcases List.suffix_or_suffix_of_suffix hsuffix (List.suffix_append c sep) with hds | hsd
      · exact eq_nil_of_blank hdw fun x hx => hn x (hds.subset hx)
      · exact absurd (eq_nil_of_blank (fun x hx => hdw x (hsd.subset hx)) hn) hs
    rw [hd0, List.append_nil] at hd
    exact List.self_eq_append_left.mp hd.symm
  · have hlen := congrArg List.length hd
    rw [List.length_append, List.length_append] at hlen
    exact List.length_eq_zero_iff.mp (by omega)

theorem breakOnLast_of_allBlank {sep w : Text} (hs : sep ≠ []) (hn : NoBlank sep)
    (hw : AllBlank w) (a : Text) : breakOnLast sep (a ++ sep ++ w) = some (a, w) := by
  cases h : breakOnLast sep (a ++ sep ++ w) with
  | none => exact absurd ⟨a, w, rfl⟩ (not_infix_of_breakOnLast hs h)
  | some p =>
    obtain ⟨a', b'⟩ := p
    obtain ⟨-, ht, hlast⟩ := breakOnLast_eq_some h
    rw [List.append_assoc, List.append_assoc] at ht
    rcases List.append_eq_append_iff.mp ht with ⟨c, rfl, hc⟩ | ⟨c, rfl, hc⟩
    · have hc0 := eq_nil_of_sep_append hs hn hw hc
      rw [hc0, List.nil_append, List.append_cancel_left_eq] at hc
      rw [hc0, hc, List.append_nil]
    · cases c with
      | nil =>
        rw [List.nil_append, List.append_cancel_left_eq] at hc
        rw [List.append_nil, hc]
      | cons x c =>
        exfalso
        apply hlast
        rw [hc]
        exact ⟨c, w, List.append_assoc _ _ _⟩

end ScriptReplay.Text
