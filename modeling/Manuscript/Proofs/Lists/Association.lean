import Mathlib.Data.List.Nodup

/-!
Looking a key up in a list of pairs. Where no key stands twice, what is found
under a key is what is listed with it.
-/

namespace Manuscript

variable {α β : Type} [BEq α] [LawfulBEq α] {pairs : List (α × β)} {key : α} {value : β}

theorem lookup_cons_eq [DecidableEq α] (x : α × β) (pairs : List (α × β)) :
    (x :: pairs).lookup key = if key = x.1 then some x.2 else pairs.lookup key := by
  rw [List.lookup_cons]
  by_cases h : key = x.1
  · rw [if_pos h, beq_iff_eq.mpr h]
  · rw [if_neg h, beq_eq_false_iff_ne.mpr h]

theorem lookup_of_mem (h : (pairs.map Prod.fst).Nodup) (hmem : (key, value) ∈ pairs) :
    pairs.lookup key = some value := by
  induction pairs with
  | nil => exact absurd hmem List.not_mem_nil
  | cons x pairs ih =>
      obtain ⟨hx, hrest⟩ := List.nodup_cons.mp h
      rcases List.mem_cons.mp hmem with rfl | hmem
      · exact List.lookup_cons_self
      · have hne : key ≠ x.1 := by
          rintro rfl
          exact hx (List.mem_map.mpr ⟨_, hmem, rfl⟩)
        rw [List.lookup_cons, beq_eq_false_iff_ne.mpr hne]
        exact ih hrest hmem

theorem lookup_eq_some_iff_mem (h : (pairs.map Prod.fst).Nodup) :
    pairs.lookup key = some value ↔ (key, value) ∈ pairs := by
  refine ⟨fun hlookup => ?_, lookup_of_mem h⟩
  obtain ⟨before, after, hpairs, -⟩ := List.lookup_eq_some_iff.mp hlookup
  simp [hpairs]

end Manuscript
