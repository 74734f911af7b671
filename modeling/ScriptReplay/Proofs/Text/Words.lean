import ScriptReplay.Proofs.Text.Trim
import ScriptReplay.Text.Caseless

namespace ScriptReplay.Text

theorem mem_words {t w : Text} (h : w ∈ words t) : w ≠ [] ∧ NoBlank w := by
  have single (c : Char) (hc : ¬ isBlank c = true) : NoBlank [c] := by
    intro x hx
    rw [List.mem_singleton] at hx
    subst hx
    exact Bool.eq_false_iff.mpr hc
  fun_induction words t generalizing w with
  | case1 => simp at h
  | case2 c r hc ih => exact ih h
  | case3 c hc =>
    rw [List.mem_singleton] at h
    subst h
    exact ⟨List.cons_ne_nil _ _, single c hc⟩
  | case4 c hc d r hd ih =>
    rcases List.mem_cons.mp h with rfl | h
    · exact ⟨List.cons_ne_nil _ _, single c hc⟩
    · exact ih h
  | case5 c hc d r hd hw ih =>
    rw [hw, List.mem_singleton] at h
    subst h
    exact ⟨List.cons_ne_nil _ _, single c hc⟩
  | case6 c hc d r hd v vs hw ih =>
    rw [hw] at ih h
    rcases List.mem_cons.mp h with rfl | h
    · refine ⟨List.cons_ne_nil _ _, ?_⟩
      exact noBlank_append.mpr ⟨single c hc, (ih List.mem_cons_self).2⟩
    · exact ih (List.mem_cons_of_mem _ h)

theorem words_nil : words [] = [] := rfl

theorem words_cons_of_blank {c : Char} (h : isBlank c = true) (r : Text) :
    words (c :: r) = words r := by
  rw [words.eq_def]
  exact if_pos h

theorem words_cons_of_startsBlank {c : Char} {r : Text} (hc : isBlank c = false)
    (hr : StartsBlank r) : words (c :: r) = [c] :: words r := by
  rw [words.eq_def]
  cases r with
  | nil => simp [hc, words_nil]
  | cons d r => simp [hc, hr d r rfl]

theorem words_cons_cons {c d : Char} {r w : Text} {ws : List Text} (hc : isBlank c = false)
    (hd : isBlank d = false) (hw : words (d :: r) = w :: ws) :
    words (c :: d :: r) = (c :: w) :: ws := by
  rw [words.eq_def]
  simp [hc, hd, hw]

theorem words_append {w r : Text} (hne : w ≠ []) (hw : NoBlank w) (hr : StartsBlank r) :
    words (w ++ r) = w :: words r := by
  induction w with
  | nil => exact absurd rfl hne
  | cons c w ih =>
    have hc := hw c List.mem_cons_self
    cases w with
    | nil => exact words_cons_of_startsBlank hc hr
    | cons d w =>
      have hrest : NoBlank (d :: w) := fun x hx => hw x (List.mem_cons_of_mem c hx)
      exact words_cons_cons hc (hrest d List.mem_cons_self) (ih (List.cons_ne_nil d w) hrest)

theorem words_ne_nil {c : Char} {r : Text} (h : isBlank c = false) : words (c :: r) ≠ [] := by
  rw [words.eq_def]
  cases r with
  | nil => simp [h]
  | cons d r =>
    cases hd : isBlank d with
    | true => simp [h, hd]
    | false => cases hw : words (d :: r) <;> simp [h, hd, hw]

theorem words_of_allBlank {w : Text} (h : AllBlank w) : words w = [] := by
  induction w with
  | nil => rfl
  | cons c w ih =>
    rw [words_cons_of_blank (h c List.mem_cons_self)]
    exact ih fun x hx => h x (List.mem_cons_of_mem c hx)

theorem words_blank_append {w : Text} (h : AllBlank w) (t : Text) : words (w ++ t) = words t := by
  induction w with
  | nil => rfl
  | cons c w ih =>
    rw [List.cons_append, words_cons_of_blank (h c List.mem_cons_self)]
    exact ih fun x hx => h x (List.mem_cons_of_mem c hx)

theorem words_append_blank {w : Text} (h : AllBlank w) (t : Text) : words (t ++ w) = words t := by
  induction t with
  | nil => exact words_of_allBlank h
  | cons c r ih =>
    cases hc : isBlank c with
    | true => rw [List.cons_append, words_cons_of_blank hc, words_cons_of_blank hc, ih]
    | false =>
      cases r with
      | nil =>
        rw [List.singleton_append, words_cons_of_startsBlank hc (startsBlank_of_allBlank h),
          words_cons_of_startsBlank hc startsBlank_nil, words_of_allBlank h, words_nil]
      | cons d r =>
        cases hd : isBlank d with
        | true =>
          have hs (u : Text) : StartsBlank (d :: u) := startsBlank_cons hd u
          rw [List.cons_append, List.cons_append, words_cons_of_startsBlank hc (hs _),
            words_cons_of_startsBlank hc (hs _), ← List.cons_append, ih]
        | false =>
          obtain ⟨v, vs, hv⟩ := List.exists_cons_of_ne_nil (words_ne_nil (r := r) hd)
          rw [words_cons_cons hc hd hv, List.cons_append, List.cons_append]
          exact words_cons_cons hc hd (ih.trans hv)

theorem words_trim (t : Text) : words (trim t) = words t := by
  obtain ⟨a, b, ha, hb, ht⟩ := exists_trim t
  have h := congrArg words ht
  rw [words_append_blank hb, words_blank_append ha] at h
  exact h.symm

theorem isBlank_of_between {c : Char} (hl : 'A'.toNat ≤ c.toNat) (hu : c.toNat ≤ 'z'.toNat) :
    isBlank c = false := by
  have hA : 'A'.toNat = 65 := rfl
  have hz : 'z'.toNat = 122 := rfl
  rw [hA] at hl
  rw [hz] at hu
  unfold isBlank
  generalize c.toNat = n at hl hu
  simp only [Bool.or_eq_false_iff, Bool.and_eq_false_imp, decide_eq_true_eq, decide_eq_false_iff_not,
    beq_eq_false_iff_ne]
  omega

theorem isBlank_toUpper (c : Char) : isBlank c.toUpper = isBlank c := by
  by_cases h : c.val ≥ 'a'.val ∧ c.val ≤ 'z'.val
  · have hl : 97 ≤ c.toNat := UInt32.le_iff_toNat_le.mp h.1
    have hu : c.toNat ≤ 122 := UInt32.le_iff_toNat_le.mp h.2
    have hup : c.toUpper.toNat = c.toNat - 32 := by
      have hval : c.toUpper.val = c.val + ('A'.val - 'a'.val) := by
        delta Char.toUpper
        rw [dif_pos h]
      have hdown : ('A'.val - 'a'.val).toNat = 2 ^ 32 - 32 := by decide
      have hc : c.val.toNat = c.toNat := rfl
      have hsum : c.toUpper.toNat = (c.val + ('A'.val - 'a'.val)).toNat := congrArg UInt32.toNat hval
      rw [hsum, UInt32.toNat_add, hdown, hc]
      omega
    have hA : 'A'.toNat = 65 := rfl
    have hz : 'z'.toNat = 122 := rfl
    rw [isBlank_of_between (by omega) (by omega), isBlank_of_between (by omega) (by omega)]
  · have hsame : c.toUpper = c := dif_neg h
    rw [hsame]

theorem caseless_cons (c : Char) (t : Text) : caseless (c :: t) = c.toUpper :: caseless t := rfl

theorem caseless_append (a b : Text) : caseless (a ++ b) = caseless a ++ caseless b :=
  List.map_append

theorem startsBlank_caseless {t : Text} (h : StartsBlank t) : StartsBlank (caseless t) := by
  intro c r hc
  obtain ⟨d, s, rfl, rfl, -⟩ := List.map_eq_cons_iff.mp hc
  rw [isBlank_toUpper]
  exact h d s rfl

theorem words_caseless (t : Text) : words (caseless t) = (words t).map caseless := by
  induction t with
  | nil => rfl
  | cons c r ih =>
    have hcu := isBlank_toUpper c
    cases hc : isBlank c with
    | true =>
      rw [hc] at hcu
      rw [caseless_cons, words_cons_of_blank hcu, words_cons_of_blank hc, ih]
    | false =>
      rw [hc] at hcu
      cases r with
      | nil =>
        rw [caseless_cons, words_cons_of_startsBlank hc startsBlank_nil]
        exact words_cons_of_startsBlank hcu startsBlank_nil
      | cons d r =>
        have hdu := isBlank_toUpper d
        cases hd : isBlank d with
        | true =>
          rw [hd] at hdu
          rw [caseless_cons, caseless_cons, words_cons_of_startsBlank hcu (startsBlank_cons hdu _),
            words_cons_of_startsBlank hc (startsBlank_cons hd r), ← caseless_cons, ih]
          rfl
        | false =>
          rw [hd] at hdu
          obtain ⟨v, vs, hv⟩ := List.exists_cons_of_ne_nil (words_ne_nil (r := r) hd)
          rw [hv] at ih
          rw [words_cons_cons hc hd hv, caseless_cons, caseless_cons]
          exact words_cons_cons hcu hdu ih

end ScriptReplay.Text
