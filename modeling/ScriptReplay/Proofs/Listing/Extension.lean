import Mathlib
import ScriptReplay.Listing
import ScriptReplay.Proofs.Text.Utf8
import ScriptReplay.Proofs.Text.Words
import ScriptReplay.Text.Caseless

namespace ScriptReplay

namespace Path

theorem rtakeWhile_behind_dot (front : Bytes) {ending : Bytes} (h : 0x2E ∉ ending) :
    (front ++ 0x2E :: ending).rtakeWhile (· ≠ 0x2E) = ending := by
  have hfree : ∀ b ∈ ending.reverse, decide (b ≠ 0x2E) = true := by
    intro b hb
    rw [decide_eq_true_eq]
    rintro rfl
    exact h (List.mem_reverse.mp hb)
  rw [List.rtakeWhile, List.reverse_append, List.reverse_cons, List.append_assoc,
    List.takeWhile_append_of_pos hfree]
  simp

theorem exists_dot_of_shorter {name : FileName}
    (h : (name.rtakeWhile (· ≠ 0x2E)).length < name.length) :
    ∃ front, name = front ++ 0x2E :: name.rtakeWhile (· ≠ 0x2E) := by
  have hcut : name.rdropWhile (· ≠ 0x2E) ++ name.rtakeWhile (· ≠ 0x2E) = name :=
    List.rdropWhile_append_rtakeWhile
  have hne : name.rdropWhile (· ≠ 0x2E) ≠ [] := by
    intro hnil
    rw [hnil, List.nil_append] at hcut
    rw [hcut] at h
    exact absurd h (lt_irrefl _)
  have hlast := List.rdropWhile_last_not _ _ hne
  obtain ⟨front, b, hfront⟩ := (List.eq_nil_or_concat' _).resolve_left hne
  simp only [hfront, List.getLast_concat, decide_eq_true_eq, not_not] at hlast
  rw [hfront, hlast, List.append_assoc] at hcut
  exact ⟨front, hcut.symm⟩

theorem extension?_eq_some_iff {name : FileName} {ending : Bytes} :
    extension? name = some ending ↔
      name ≠ dotDot ∧ 0x2E ∉ ending ∧ ∃ front, front ≠ [] ∧ name = front ++ 0x2E :: ending := by
  have hdef : extension? name =
      if name = dotDot ∨ name.length ≤ (name.rtakeWhile (· ≠ 0x2E)).length + 1 then none
      else some (name.rtakeWhile (· ≠ 0x2E)) := rfl
  rw [hdef]
  constructor
  · intro h
    split at h
    · cases h
    · rename_i hnot
      obtain ⟨hdots, hlong⟩ := not_or.mp hnot
      cases h
      have hshort : (name.rtakeWhile (· ≠ 0x2E)).length < name.length := by omega
      obtain ⟨front, hname⟩ := exists_dot_of_shorter hshort
      refine ⟨hdots, fun hmem => ?_, front, ?_, hname⟩
      · simpa using List.mem_rtakeWhile_imp hmem
      · rintro rfl
        have hlen := congrArg List.length hname
        rw [List.nil_append, List.length_cons] at hlen
        omega
  · rintro ⟨hdots, hfree, front, hne, hname⟩
    have htake : name.rtakeWhile (· ≠ 0x2E) = ending := hname ▸ rtakeWhile_behind_dot front hfree
    have hlen : name.length = front.length + ending.length + 1 := by simp [hname]; omega
    have hpos := List.length_pos_iff.mpr hne
    rw [htake, if_neg]
    rintro (hd | hshort)
    · exact hdots hd
    · omega

end Path

namespace Listing

open Utf8 Text

theorem map_lowerByte_toUpper (c : Char) :
    (encodeChar c.toUpper).map lowerByte = (encodeChar c).map lowerByte := by
  by_cases h : c.val ≥ 'a'.val ∧ c.val ≤ 'z'.val
  · have hsmall : ∀ k < 26, (encodeChar (Char.ofNat (97 + k)).toUpper).map lowerByte =
        (encodeChar (Char.ofNat (97 + k))).map lowerByte := by decide
    have hl : 97 ≤ c.toNat := UInt32.le_iff_toNat_le.mp h.1
    have hu : c.toNat ≤ 122 := UInt32.le_iff_toNat_le.mp h.2
    have hc : Char.ofNat (97 + (c.toNat - 97)) = c := by
      rw [Nat.add_sub_cancel' hl, Char.ofNat_toNat]
    rw [← hc]
    exact hsmall (c.toNat - 97) (by omega)
  · have hsame : c.toUpper = c := dif_neg h
    rw [hsame]

theorem lowerByte_cases (b : UInt8) :
    lowerByte b = b ∨ b.toNat < 0x80 ∧ (lowerByte b).toNat < 0x80 := by
  unfold lowerByte
  split
  · rename_i h
    have hl := UInt8.le_iff_toNat_le.mp h.1
    have hu := UInt8.le_iff_toNat_le.mp h.2
    simp only [UInt8.reduceToNat] at hl hu
    refine .inr ⟨by omega, ?_⟩
    rw [UInt8.toNat_add]
    simp only [UInt8.reduceToNat]
    omega
  · exact .inl rfl

theorem eq_of_lowerByte {a b : UInt8} (hb : 0x80 ≤ b.toNat) (h : lowerByte a = lowerByte b) :
    a = b := by
  rcases lowerByte_cases b with hlow | ⟨hsmall, -⟩
  · rcases lowerByte_cases a with hlow' | ⟨-, hsmall⟩
    · rw [← hlow', h, hlow]
    · rw [h, hlow] at hsmall
      omega
  · omega

theorem eq_of_map_lowerByte {as bs : Bytes} (hb : ∀ b ∈ bs, 0x80 ≤ b.toNat)
    (h : as.map lowerByte = bs.map lowerByte) : as = bs := by
  induction bs generalizing as with
  | nil => exact List.map_eq_nil_iff.mp h
  | cons b bs ih =>
    obtain ⟨a, as, rfl, hfirst, hrest⟩ := List.map_eq_cons_iff.mp h
    obtain ⟨hhigh, hhighs⟩ := List.forall_mem_cons.mp hb
    rw [eq_of_lowerByte hhigh hfirst, ih hhighs hrest]

theorem exists_char_of_map_lowerByte {c : Char} {bs : Bytes}
    (h : bs.map lowerByte = (encodeChar c).map lowerByte) :
    ∃ d, bs = encodeChar d ∧ d.toUpper = c.toUpper := by
  by_cases hc : c.toNat < 0x80
  · have hsmall : ∀ k < 0x80, (Char.ofNat k).toNat = k ∧
        (Char.ofNat k).toUpper = (Char.ofNat (lowerByte (.ofNat k)).toNat).toUpper := by decide
    have hencode : encodeChar c = [.ofNat c.toNat] := if_pos hc
    rw [hencode, List.map_singleton] at h
    obtain ⟨b, rfl, hb⟩ := List.map_eq_singleton_iff.mp h
    have hlt : b.toNat < 0x80 := by
      by_contra hhigh
      have heq := eq_of_lowerByte (Nat.le_of_not_lt hhigh) hb.symm
      rw [← heq, toNat_byte (by omega)] at hhigh
      exact hhigh hc
    obtain ⟨hback, hup⟩ := hsmall b.toNat hlt
    refine ⟨Char.ofNat b.toNat, ?_, ?_⟩
    · rw [encodeChar, hback, if_pos hlt, UInt8.ofNat_toNat]
    · rw [hup, UInt8.ofNat_toNat, hb, ← (hsmall c.toNat hc).2, Char.ofNat_toNat]
  · exact ⟨c, eq_of_map_lowerByte (high_of_mem_encodeChar hc) h, rfl⟩

theorem map_lowerByte_eq_iff {bs : Bytes} {wanted : Text} :
    bs.map lowerByte = (encode wanted).map lowerByte ↔
      ∃ t, bs = encode t ∧ sameCaseless t wanted = true := by
  constructor
  · intro h
    induction wanted generalizing bs with
    | nil =>
      rw [List.map_eq_nil_iff.mp h]
      exact ⟨[], rfl, rfl⟩
    | cons c wanted ih =>
      rw [encode, List.flatMap_cons, List.map_append] at h
      obtain ⟨first, rest, rfl, hfirst, hrest⟩ := List.map_eq_append_iff.mp h
      obtain ⟨d, rfl, hd⟩ := exists_char_of_map_lowerByte hfirst
      obtain ⟨t, rfl, ht⟩ := ih hrest
      refine ⟨d :: t, rfl, ?_⟩
      rw [sameCaseless, beq_iff_eq] at ht ⊢
      rw [caseless_cons, caseless_cons, hd, ht]
  · rintro ⟨t, rfl, ht⟩
    have hupper (u : Text) : (encode (caseless u)).map lowerByte = (encode u).map lowerByte := by
      rw [encode, encode, caseless, List.flatMap_map, List.map_flatMap, List.map_flatMap]
      exact List.flatMap_congr fun c _ => map_lowerByte_toUpper c
    rw [← hupper t, eq_of_beq ht, hupper wanted]

/-- A dot that is not the first byte, and behind it, with no further dot, a text that is the wanted
one but for the case of the letters A to Z. -/
def HasEnding (name : FileName) (wanted : Text) : Prop :=
  ∃ front ending, front ≠ [] ∧ '.' ∉ ending ∧ name = front ++ 0x2E :: encode ending ∧
    sameCaseless ending wanted = true

theorem hasExtension_iff {wanted : Text} {name : FileName} (h : name ≠ Path.dotDot) :
    hasExtension (encode wanted) name = true ↔ HasEnding name wanted := by
  unfold hasExtension
  constructor
  · intro hext
    split at hext
    · cases hext
    · rename_i bytes hname
      obtain ⟨-, hfree, front, hne, rfl⟩ := Path.extension?_eq_some_iff.mp hname
      obtain ⟨ending, rfl, hsame⟩ := map_lowerByte_eq_iff.mp (eq_of_beq hext)
      exact ⟨front, ending, hne, fun hdot => hfree (dot_mem_encode.mpr hdot), rfl, hsame⟩
  · rintro ⟨front, ending, hne, hfree, rfl, hsame⟩
    have hname := Path.extension?_eq_some_iff.mpr
      ⟨h, fun hdot => hfree (dot_mem_encode.mp hdot), front, hne, rfl⟩
    rw [hname]
    exact beq_iff_eq.mpr (map_lowerByte_eq_iff.mpr ⟨ending, rfl, hsame⟩)

end Listing

end ScriptReplay
