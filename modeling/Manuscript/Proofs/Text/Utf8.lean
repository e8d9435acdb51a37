import Manuscript.Disk.Basic
import Manuscript.Text.Utf8
import Mathlib.Algebra.BigOperators.Group.List.Basic
import Mathlib.Tactic.SplitIfs

/-!
A text is read from its bytes.

The bytes of a character tell by the first of them how many there are, and none
of them is what a reading rejects: no longer spelling than needed, no half of a
surrogate pair and nothing beyond the last code point.
-/

namespace Manuscript.Text

namespace Utf8

/-- The bytes that go on with a character carry six bits each. -/
theorem continuation_ofNat {k : Nat} (hk : k < 64) :
    isContinuation (.ofNat (k + 128)) = true ∧ low (.ofNat (k + 128)) = k := by
  have hall : ∀ k < 64, isContinuation (.ofNat (k + 128)) = true ∧ low (.ofNat (k + 128)) = k := by
    decide
  exact hall k hk

theorem first_one {v : Nat} (hv : v ≤ 127) (rest : List UInt8) :
    first (.ofNat v :: rest) = (some (Char.ofNat v), 1) := by
  have hall : ∀ v < 128, (UInt8.ofNat v < 0x80) ∧ (UInt8.ofNat v).toNat = v := by
    decide
  obtain ⟨hlow, hvalue⟩ := hall v (by omega)
  rw [first.eq_def]
  simp only [hlow, hvalue, if_true]

theorem first_two {k i : Nat} (hk : 2 ≤ k ∧ k < 32) (hi : i < 64) (rest : List UInt8) :
    first (.ofNat (k + 192) :: .ofNat (i + 128) :: rest) =
      (some (Char.ofNat (k * 64 + i)), 2) := by
  have hall : ∀ k < 32, 2 ≤ k → ¬(UInt8.ofNat (k + 192) < 0x80) ∧
      (0xc2 ≤ UInt8.ofNat (k + 192) && UInt8.ofNat (k + 192) ≤ 0xdf) = true ∧
      (UInt8.ofNat (k + 192)).toNat % 32 = k := by
    decide
  obtain ⟨hhigh, hlead, hbits⟩ := hall k hk.2 hk.1
  obtain ⟨hnext, hlow⟩ := continuation_ofNat hi
  rw [first, if_neg hhigh, if_pos hlead]
  simp only [hnext, hlow, hbits, if_true]

/-- Three bytes spell a character that two do not, and no half of a surrogate pair. -/
theorem first_three {k i j : Nat} (hk : k < 16) (hi : i < 64) (hj : j < 64)
    (hleast : k = 0 → 32 ≤ i) (hwhole : k = 13 → i < 32) (rest : List UInt8) :
    first (.ofNat (k + 224) :: .ofNat (i + 128) :: .ofNat (j + 128) :: rest) =
      (some (Char.ofNat (k * 4096 + i * 64 + j)), 3) := by
  have hall : ∀ k < 16, ¬(UInt8.ofNat (k + 224) < 0x80) ∧
      ¬(0xc2 ≤ UInt8.ofNat (k + 224) && UInt8.ofNat (k + 224) ≤ 0xdf) = true ∧
      (0xe0 ≤ UInt8.ofNat (k + 224) && UInt8.ofNat (k + 224) ≤ 0xef) = true ∧
      (UInt8.ofNat (k + 224)).toNat % 16 = k := by
    decide
  have hseconds : ∀ k < 16, ∀ i < 64, (k = 0 → 32 ≤ i) → (k = 13 → i < 32) →
      (!allowsSecond (.ofNat (k + 224)) (.ofNat (i + 128))) = false := by
    decide +kernel
  obtain ⟨hhigh, htwo, hlead, hbits⟩ := hall k hk
  have hsecond := hseconds k hk i hi hleast hwhole
  obtain ⟨-, hlow⟩ := continuation_ofNat hi
  obtain ⟨hnext, hlast⟩ := continuation_ofNat hj
  rw [first, if_neg hhigh, if_neg htwo, if_pos hlead]
  simp only [hsecond, hnext, hlow, hlast, hbits, if_true, Bool.false_eq_true, if_false]

theorem first_four {k i j l : Nat} (hk : k < 5) (hi : i < 64) (hj : j < 64) (hl : l < 64)
    (hleast : k = 0 → 16 ≤ i) (hgreatest : k = 4 → i < 16) (rest : List UInt8) :
    first (.ofNat (k + 240) :: .ofNat (i + 128) :: .ofNat (j + 128) :: .ofNat (l + 128) :: rest) =
      (some (Char.ofNat (k * 262144 + i * 4096 + j * 64 + l)), 4) := by
  have hall : ∀ k < 5, ¬(UInt8.ofNat (k + 240) < 0x80) ∧
      ¬(0xc2 ≤ UInt8.ofNat (k + 240) && UInt8.ofNat (k + 240) ≤ 0xdf) = true ∧
      ¬(0xe0 ≤ UInt8.ofNat (k + 240) && UInt8.ofNat (k + 240) ≤ 0xef) = true ∧
      (0xf0 ≤ UInt8.ofNat (k + 240) && UInt8.ofNat (k + 240) ≤ 0xf4) = true ∧
      (UInt8.ofNat (k + 240)).toNat % 8 = k := by
    decide
  have hseconds : ∀ k < 5, ∀ i < 64, (k = 0 → 16 ≤ i) → (k = 4 → i < 16) →
      (!allowsSecond (.ofNat (k + 240)) (.ofNat (i + 128))) = false := by
    decide +kernel
  obtain ⟨hhigh, htwo, hthree, hlead, hbits⟩ := hall k hk
  have hsecond := hseconds k hk i hi hleast hgreatest
  obtain ⟨-, hlow⟩ := continuation_ofNat hi
  obtain ⟨hnext, hmiddle⟩ := continuation_ofNat hj
  obtain ⟨hend, hlast⟩ := continuation_ofNat hl
  rw [first, if_neg hhigh, if_neg htwo, if_neg hthree, if_pos hlead]
  simp only [hsecond, hnext, hend, hlow, hmiddle, hlast, hbits, if_true, Bool.not_true,
    Bool.false_eq_true, if_false]

/-- A character is read from its bytes, whatever bytes follow. -/
theorem first_utf8EncodeChar (c : Char) (rest : List UInt8) :
    first (String.utf8EncodeChar c ++ rest) = (some c, (String.utf8EncodeChar c).length) := by
  have hvalid : c.val.toNat < 0xd800 ∨ 0xdfff < c.val.toNat ∧ c.val.toNat < 0x110000 := c.valid
  have hvalue : Char.ofNat c.val.toNat = c := Char.ofNat_toNat c
  generalize hv : c.val.toNat = v at hvalid hvalue
  simp only [String.utf8EncodeChar, hv]
  split_ifs with hone htwo hthree
  · rw [List.cons_append, first_one hone, hvalue]
    rfl
  · have hjoin : v / 64 % 32 * 64 + v % 64 = v := by omega
    rw [List.cons_append, List.cons_append, first_two (by omega) (by omega), hjoin, hvalue]
    rfl
  · have hjoin : v / 4096 % 16 * 4096 + v / 64 % 64 * 64 + v % 64 = v := by omega
    simp only [List.cons_append]
    rw [first_three (by omega) (by omega) (by omega) (by omega) (by omega), hjoin, hvalue]
    rfl
  · have hjoin :
        v / 262144 % 8 * 262144 + v / 4096 % 64 * 4096 + v / 64 % 64 * 64 + v % 64 = v := by
      omega
    simp only [List.cons_append]
    rw [first_four (by omega) (by omega) (by omega) (by omega) (by omega) (by omega), hjoin,
      hvalue]
    rfl

theorem readFrom_flatMap (illFormed t : Text) {fuel : Nat} (hfuel : t.length ≤ fuel)
    (before : Text) :
    readFrom illFormed fuel (t.flatMap String.utf8EncodeChar) before = t.reverse ++ before := by
  induction t generalizing fuel before with
  | nil => cases fuel <;> rfl
  | cons c t ih =>
      rw [List.length_cons] at hfuel
      obtain ⟨fuel, rfl⟩ : ∃ k, fuel = k + 1 := ⟨fuel - 1, by omega⟩
      have hfirst := first_utf8EncodeChar c (t.flatMap String.utf8EncodeChar)
      rw [List.flatMap_cons, readFrom, hfirst]
      · simp only [List.drop_left, ih (Nat.le_of_succ_le_succ hfuel), List.reverse_cons,
          List.append_assoc, List.singleton_append]
      · simp

end Utf8

theorem ofText_eq_flatMap (t : Text) : Bytes.ofText t = t.flatMap String.utf8EncodeChar := by
  show (String.ofList t).toByteArray.data.toList = t.flatMap String.utf8EncodeChar
  rw [String.toByteArray_ofList, List.utf8Encode, List.data_toByteArray]

theorem length_le_flatMap (t : Text) :
    t.length ≤ (t.flatMap String.utf8EncodeChar).length := by
  have hpos : ∀ n ∈ t.map fun c => (String.utf8EncodeChar c).length, 1 ≤ n := by
    refine List.forall_mem_map.mpr fun c _ => ?_
    rw [String.length_utf8EncodeChar]
    exact c.utf8Size_pos
  have hle := List.length_le_sum_of_one_le _ hpos
  rwa [List.length_map, ← List.length_flatMap] at hle

theorem ofBytesWith_ofText (illFormed t : Text) :
    ofBytesWith illFormed ⟨(Bytes.ofText t).toArray⟩ = t := by
  show (Utf8.readFrom illFormed (Bytes.ofText t).toArray.size (Bytes.ofText t) []).reverse = t
  rw [List.size_toArray, ofText_eq_flatMap,
    Utf8.readFrom_flatMap illFormed t (length_le_flatMap t), List.append_nil,
    List.reverse_reverse]

end Manuscript.Text
