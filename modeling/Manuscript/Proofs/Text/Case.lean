import Manuscript.Text.Case

/-!
What the case maps make of characters.

The image of a character is the character itself or is given by the tables, by
runs of code points or one by one. So the tables tell which characters are the
images of no other ones.
-/

namespace Manuscript.Text.Case

/-- Whether the tables map anything to a code point, where each run is taken as a whole. -/
def makes (runs : List Run) (long : List (Nat × List Nat)) (n : Nat) : Bool :=
  runs.any (fun r => decide (r.first + r.shift ≤ n ∧ n ≤ r.last + r.shift)) ||
    long.any (·.2.contains n)

variable {runs : List Run} {long : List (Nat × List Nat)} {n m : Nat} {c x : Char}

theorem makes_of_run {r : Run} (hr : r ∈ runs) (h : r.image? n = some m) (hm : m ≠ 0) :
    makes runs long m = true := by
  rw [Run.image?] at h
  split at h
  next hn =>
    have hshift : (n + r.shift).toNat = m := Option.some.inj h
    refine Bool.or_eq_true_iff.mpr (.inl (List.any_eq_true.mpr ⟨r, hr, ?_⟩))
    rw [decide_eq_true_eq]
    omega
  next => cases h

theorem makes_of_long {entry : Nat × List Nat} (hentry : entry ∈ long) (h : m ∈ entry.2) :
    makes runs long m = true :=
  Bool.or_eq_true_iff.mpr
    (.inr (List.any_eq_true.mpr ⟨entry, hentry, List.contains_iff_mem.mpr h⟩))

theorem toNat_ofNat (h : (Char.ofNat n).toNat ≠ 0) : (Char.ofNat n).toNat = n := by
  by_cases hvalid : n.isValidChar
  · rw [Char.ofNat, dif_pos hvalid]
    rfl
  · rw [Char.ofNat, dif_neg hvalid] at h
    exact absurd rfl h

/-- A character that the tables map nothing to is the image of itself alone. -/
theorem eq_of_mem_image (hx : x.toNat ≠ 0) (hmakes : makes runs long x.toNat = false)
    (h : x ∈ image runs long c) : c = x := by
  have hnot : ¬makes runs long x.toNat = true := by simp [hmakes]
  rw [image] at h
  split at h
  next codes hcodes =>
    obtain ⟨n, hn, rfl⟩ := List.mem_map.mp h
    obtain ⟨before, after, rfl, -⟩ := List.lookup_eq_some_iff.mp hcodes
    rw [toNat_ofNat hx] at hnot
    exact absurd (makes_of_long (List.mem_append_right before List.mem_cons_self) hn) hnot
  next =>
    split at h
    next code hcode =>
      obtain rfl := List.mem_singleton.mp h
      obtain ⟨r, hr, himage⟩ := List.exists_of_findSome?_eq_some hcode
      rw [toNat_ofNat hx] at hnot
      exact absurd (makes_of_run hr himage (toNat_ofNat hx ▸ hx)) hnot
    next => exact (List.mem_singleton.mp h).symm

end Manuscript.Text.Case
