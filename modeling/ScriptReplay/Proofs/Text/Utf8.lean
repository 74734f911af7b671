import ScriptReplay.Text.Utf8

namespace ScriptReplay.Utf8

theorem toNat_cases (c : Char) : c.toNat < 0xD800 ∨ 0xDFFF < c.toNat ∧ c.toNat < 0x110000 :=
  c.valid

theorem toNat_byte {k : Nat} (h : k < 256) : (UInt8.ofNat k).toNat = k :=
  UInt8.toNat_ofNat_of_lt' h

theorem isContinuation_iff (b : UInt8) :
    isContinuation b = true ↔ 0x80 ≤ b.toNat ∧ b.toNat ≤ 0xBF := by
  simp [isContinuation, UInt8.le_iff_toNat_le]

theorem isSecond_iff (a b : UInt8) :
    isSecond a b = true ↔ (0x80 ≤ b.toNat ∧ b.toNat ≤ 0xBF) ∧
      (a.toNat = 0xE0 → 0xA0 ≤ b.toNat) ∧ (a.toNat = 0xED → b.toNat ≤ 0x9F) ∧
      (a.toNat = 0xF0 → 0x90 ≤ b.toNat) ∧ (a.toNat = 0xF4 → b.toNat ≤ 0x8F) := by
  simp only [isSecond, Bool.and_eq_true, Bool.or_eq_true, bne_iff_ne, decide_eq_true_eq,
    isContinuation_iff, UInt8.le_iff_toNat_le, ne_eq, ← UInt8.toNat_inj]
  simp only [UInt8.reduceToNat]
  omega

theorem decodeEach_one {a : UInt8} (ha : a.toNat < 0x80) (r : Bytes) :
    decodeEach (a :: r) = some (Char.ofNat a.toNat) :: decodeEach r := by
  have hsmall : a < 0x80 := UInt8.lt_iff_toNat_lt.mpr ha
  rw [decodeEach.eq_def]
  simp only [if_pos hsmall]

theorem decodeEach_two {a b : UInt8} (ha : 0xC2 ≤ a.toNat ∧ a.toNat ≤ 0xDF)
    (hb : isContinuation b = true) (r : Bytes) :
    decodeEach (a :: b :: r) = some (Char.ofNat (a.toNat % 32 * 64 + low b)) :: decodeEach r := by
  have hone : ¬ a < 0x80 := by rw [UInt8.lt_iff_toNat_lt]; simp; omega
  have htwo : (0xC2 ≤ a && a ≤ 0xDF : Bool) = true := by
    simpa [UInt8.le_iff_toNat_le] using ha
  rw [decodeEach.eq_def]
  simp only [if_neg hone, htwo, hb, if_true]

theorem decodeEach_three {a b c : UInt8} (ha : 0xE0 ≤ a.toNat ∧ a.toNat ≤ 0xEF)
    (hb : isSecond a b = true) (hc : isContinuation c = true) (r : Bytes) :
    decodeEach (a :: b :: c :: r) =
      some (Char.ofNat (a.toNat % 16 * 4096 + low b * 64 + low c)) :: decodeEach r := by
  have hone : ¬ a < 0x80 := by rw [UInt8.lt_iff_toNat_lt]; simp; omega
  have htwo : ¬ (0xC2 ≤ a && a ≤ 0xDF : Bool) = true := by
    simp [UInt8.le_iff_toNat_le]; omega
  have hthree : (0xE0 ≤ a && a ≤ 0xEF : Bool) = true := by
    simpa [UInt8.le_iff_toNat_le] using ha
  rw [decodeEach.eq_def]
  simp only [if_neg hone, if_neg htwo, hthree, hb, hc, if_true]

theorem decodeEach_four {a b c d : UInt8} (ha : 0xF0 ≤ a.toNat ∧ a.toNat ≤ 0xF4)
    (hb : isSecond a b = true) (hc : isContinuation c = true) (hd : isContinuation d = true)
    (r : Bytes) :
    decodeEach (a :: b :: c :: d :: r) =
      some (Char.ofNat (a.toNat % 8 * 262144 + low b * 4096 + low c * 64 + low d)) ::
        decodeEach r := by
  have hone : ¬ a < 0x80 := by rw [UInt8.lt_iff_toNat_lt]; simp; omega
  have htwo : ¬ (0xC2 ≤ a && a ≤ 0xDF : Bool) = true := by
    simp [UInt8.le_iff_toNat_le]; omega
  have hthree : ¬ (0xE0 ≤ a && a ≤ 0xEF : Bool) = true := by
    simp [UInt8.le_iff_toNat_le]; omega
  have hfour : (0xF0 ≤ a && a ≤ 0xF4 : Bool) = true := by
    simpa [UInt8.le_iff_toNat_le] using ha
  rw [decodeEach.eq_def]
  simp only [if_neg hone, if_neg htwo, if_neg hthree, hfour, hb, hc, hd, if_true]

theorem toNat_later (k : Nat) : (UInt8.ofNat (0x80 + k % 64)).toNat = 0x80 + k % 64 :=
  toNat_byte (by omega)

theorem isContinuation_later (k : Nat) : isContinuation (.ofNat (0x80 + k % 64)) = true := by
  rw [isContinuation_iff, toNat_later]
  omega

theorem low_later (k : Nat) : low (.ofNat (0x80 + k % 64)) = k % 64 := by
  rw [low, toNat_later]
  omega

theorem decodeEach_ofTwo {n : Nat} (h : 0x80 ≤ n ∧ n < 0x800) (r : Bytes) :
    decodeEach (.ofNat (0xC0 + n / 64) :: .ofNat (0x80 + n % 64) :: r) =
      some (Char.ofNat n) :: decodeEach r := by
  have ha : (UInt8.ofNat (0xC0 + n / 64)).toNat = 0xC0 + n / 64 := toNat_byte (by omega)
  have hvalue : (0xC0 + n / 64) % 32 * 64 + n % 64 = n := by omega
  rw [decodeEach_two (by omega) (isContinuation_later n), ha, low_later, hvalue]

theorem decodeEach_ofThree {n : Nat} (h : 0x800 ≤ n ∧ n < 0x10000)
    (hchar : n < 0xD800 ∨ 0xDFFF < n) (r : Bytes) :
    decodeEach (.ofNat (0xE0 + n / 4096) :: .ofNat (0x80 + n / 64 % 64) :: .ofNat (0x80 + n % 64) ::
      r) = some (Char.ofNat n) :: decodeEach r := by
  have ha : (UInt8.ofNat (0xE0 + n / 4096)).toNat = 0xE0 + n / 4096 := toNat_byte (by omega)
  have hsecond : isSecond (.ofNat (0xE0 + n / 4096)) (.ofNat (0x80 + n / 64 % 64)) = true := by
    rw [isSecond_iff, ha, toNat_later]
    omega
  have hvalue : (0xE0 + n / 4096) % 16 * 4096 + n / 64 % 64 * 64 + n % 64 = n := by omega
  rw [decodeEach_three (by omega) hsecond (isContinuation_later n), ha, low_later, low_later, hvalue]

theorem decodeEach_ofFour {n : Nat} (h : 0x10000 ≤ n ∧ n < 0x110000) (r : Bytes) :
    decodeEach (.ofNat (0xF0 + n / 262144) :: .ofNat (0x80 + n / 4096 % 64) ::
      .ofNat (0x80 + n / 64 % 64) :: .ofNat (0x80 + n % 64) :: r) =
      some (Char.ofNat n) :: decodeEach r := by
  have ha : (UInt8.ofNat (0xF0 + n / 262144)).toNat = 0xF0 + n / 262144 := toNat_byte (by omega)
  have hsecond :
      isSecond (.ofNat (0xF0 + n / 262144)) (.ofNat (0x80 + n / 4096 % 64)) = true := by
    rw [isSecond_iff, ha, toNat_later]
    omega
  have hvalue : (0xF0 + n / 262144) % 8 * 262144 + n / 4096 % 64 * 4096 + n / 64 % 64 * 64 +
      n % 64 = n := by omega
  rw [decodeEach_four (by omega) hsecond (isContinuation_later _) (isContinuation_later n), ha,
    low_later, low_later, low_later, hvalue]

theorem decodeEach_encodeChar (c : Char) (r : Bytes) :
    decodeEach (encodeChar c ++ r) = some c :: decodeEach r := by
  have hchar := toNat_cases c
  have hback : Char.ofNat c.toNat = c := Char.ofNat_toNat c
  unfold encodeChar
  dsimp only
  split
  case isTrue h =>
    have hn : (UInt8.ofNat c.toNat).toNat = c.toNat := toNat_byte (by omega)
    rw [List.singleton_append, decodeEach_one (by omega), hn, hback]
  split
  case isTrue h => exact (decodeEach_ofTwo (by omega) r).trans (by rw [hback])
  split
  case isTrue h => exact (decodeEach_ofThree (by omega) (by omega) r).trans (by rw [hback])
  case isFalse h => exact (decodeEach_ofFour (by omega) r).trans (by rw [hback])

theorem decodeEach_encode (t : Text) : decodeEach (encode t) = t.map some := by
  induction t with
  | nil => rw [encode, List.flatMap_nil, decodeEach, List.map_nil]
  | cons c t ih => rw [encode, List.flatMap_cons, decodeEach_encodeChar, ← encode, ih, List.map_cons]

theorem decode?_encode (t : Text) : decode? (encode t) = some t := by
  rw [decode?, decodeEach_encode]
  induction t with
  | nil => rfl
  | cons c t ih => rw [List.map_cons, List.mapM_cons, ih]; rfl

theorem high_of_mem_encodeChar {c : Char} (h : ¬ c.toNat < 0x80) :
    ∀ b ∈ encodeChar c, 0x80 ≤ b.toNat := by
  have hchar := toNat_cases c
  have hbyte (k : Nat) (hk : 0x80 ≤ k ∧ k < 256) : 0x80 ≤ (UInt8.ofNat k).toNat := by
    rw [toNat_byte hk.2]
    exact hk.1
  intro b hb
  unfold encodeChar at hb
  dsimp only at hb
  rw [if_neg h] at hb
  split at hb
  · simp only [List.mem_cons, List.not_mem_nil, or_false] at hb
    rcases hb with rfl | rfl <;> exact hbyte _ (by omega)
  · split at hb
    · simp only [List.mem_cons, List.not_mem_nil, or_false] at hb
      rcases hb with rfl | rfl | rfl <;> exact hbyte _ (by omega)
    · simp only [List.mem_cons, List.not_mem_nil, or_false] at hb
      rcases hb with rfl | rfl | rfl | rfl <;> exact hbyte _ (by omega)

theorem encodeChar_ne_nil (c : Char) : encodeChar c ≠ [] := by
  unfold encodeChar
  dsimp only
  split
  · exact List.cons_ne_nil _ _
  · split
    · exact List.cons_ne_nil _ _
    · split <;> exact List.cons_ne_nil _ _

theorem dot_mem_encodeChar {c : Char} (h : 0x2E ∈ encodeChar c) : c = '.' := by
  by_cases hc : c.toNat < 0x80
  · rw [encodeChar, if_pos hc, List.mem_singleton] at h
    have hn := congrArg UInt8.toNat h
    rw [toNat_byte (by omega)] at hn
    exact Char.ext (UInt32.toNat_inj.mp hn.symm)
  · have hhigh := high_of_mem_encodeChar hc _ h
    exact absurd hhigh (by decide)

theorem dot_mem_encode {t : Text} : 0x2E ∈ encode t ↔ '.' ∈ t := by
  rw [encode, List.mem_flatMap]
  constructor
  · rintro ⟨c, hc, hdot⟩
    exact dot_mem_encodeChar hdot ▸ hc
  · intro h
    exact ⟨'.', h, by decide⟩

theorem dropWhile_encode (t : Text) :
    (encode t).dropWhile (· == 0x2E) = encode (t.dropWhile (· == '.')) := by
  induction t with
  | nil => rfl
  | cons c t ih =>
    by_cases hc : c = '.'
    · subst hc
      exact ih
    · obtain ⟨b, bs, hb⟩ := List.exists_cons_of_ne_nil (encodeChar_ne_nil c)
      have hne : b ≠ 0x2E := by
        rintro rfl
        exact hc (dot_mem_encodeChar (hb ▸ List.mem_cons_self))
      rw [List.dropWhile_cons_of_neg (by simp [hc]), encode, List.flatMap_cons, hb, List.cons_append,
        List.dropWhile_cons_of_neg (by simp [hne])]

end ScriptReplay.Utf8
