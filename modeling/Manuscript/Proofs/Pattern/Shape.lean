import Manuscript.Proofs.Pattern.Cutting

/-!
Patterns whose matches can be written back from their groups.

Where all that a pattern leaves open stands in groups, and no index is used
twice, the text of a match is fixed text and the texts of groups: a template,
the shape of the pattern. A rule can then be judged by its shape and its
replacement alone.
-/

namespace Manuscript

namespace Pattern

def indices : Pattern → List Nat
  | .seq p q | .alt p q => p.indices ++ q.indices
  | .star _ p => p.indices
  | .group i p => i :: p.indices
  | _ => []

/-- The text of a match, written from the groups it went through. -/
def shape? : Pattern → Option Template
  | .empty | .check _ => some []
  | .word w => some [.fixed w]
  | .seq p q => p.shape?.bind fun t => q.shape?.map fun u => t ++ u
  | .group i _ | .alt (.group i _) .empty => some [.group i]
  | _ => none

theorem Reads.mem_indices {p : Pattern} {b : Option Char} {t r : Text} {g : Groups}
    (h : p.Reads b t r g) : ∀ x ∈ g, x.1 ∈ p.indices := by
  induction p generalizing b t r g with
  | empty => simp [h.2]
  | word w => simp [h.2]
  | one k => simp [h.2]
  | many greedy k => simp [h.2]
  | check a => simp [h.2.1]
  | seq p q ihp ihq =>
      obtain ⟨t, u, g, k, rfl, rfl, hp, hq⟩ := h
      intro x hx
      rcases List.mem_append.mp hx with hx | hx
      · exact List.mem_append_right _ (ihq hq x hx)
      · exact List.mem_append_left _ (ihp hp x hx)
  | alt p q ihp ihq =>
      intro x hx
      rcases h with h | h
      · exact List.mem_append_left _ (ihp h x hx)
      · exact List.mem_append_right _ (ihq h x hx)
  | group i p ih =>
      obtain ⟨k, rfl, hp⟩ := h
      intro x hx
      rcases List.mem_cons.mp hx with rfl | hx
      · exact List.mem_cons_self
      · exact List.mem_cons_of_mem _ (ih hp x hx)
  | star greedy p ih =>
      change Rounds p.Reads b t r g at h
      induction h with
      | stop => simp
      | pause hR => exact ih hR
      | round hR _ _ ihR =>
          intro x hx
          rcases List.mem_append.mp hx with hx | hx
          · exact ihR x hx
          · exact ih hR x hx

theorem Reads.lookup_eq_none {p : Pattern} {b : Option Char} {t r : Text} {g : Groups}
    (h : p.Reads b t r g) {i : Nat} (hi : i ∉ p.indices) : g.lookup i = none := by
  rw [List.lookup_eq_none_iff]
  intro x hx
  have hne : i ≠ x.1 := fun hix => hi (hix ▸ h.mem_indices x hx)
  simpa using hne

theorem Found.group_of_ne_zero (m : Found) {i : Nat} (hi : i ≠ 0) :
    m.group i = (m.groups.lookup i).getD [] := by
  cases i with
  | zero => exact absurd rfl hi
  | succ i => rfl

end Pattern

namespace Template

@[simp] theorem fill_nil (m : Pattern.Found) : fill [] m = [] := rfl

@[simp] theorem fill_fixed (u : Text) (t : Template) (m : Pattern.Found) :
    fill (.fixed u :: t) m = u ++ fill t m := rfl

@[simp] theorem fill_group (i : Nat) (t : Template) (m : Pattern.Found) :
    fill (.group i :: t) m = m.group i ++ fill t m := rfl

@[simp] theorem fill_append (t u : Template) (m : Pattern.Found) :
    fill (t ++ u) m = fill t m ++ fill u m := by
  simp [fill]

end Template

namespace Pattern

/-- The shape, filled with groups that agree with those read, is the text read. -/
theorem Reads.fill_shape {p : Pattern} {shape : Template} (hshape : p.shape? = some shape)
    (hnodup : p.indices.Nodup) (hzero : 0 ∉ p.indices) {b : Option Char} {t r : Text}
    {g : Groups} (h : p.Reads b t r g) (m : Found)
    (hm : ∀ i ∈ p.indices, m.groups.lookup i = g.lookup i) : shape.fill m = t := by
  induction p generalizing shape b t r g with
  | empty =>
      obtain rfl : [] = shape := by simpa [shape?] using hshape
      exact h.1.symm
  | word w =>
      obtain rfl : [.fixed w] = shape := by simpa [shape?] using hshape
      simpa using h.1.symm
  | check a =>
      obtain rfl : [] = shape := by simpa [shape?] using hshape
      exact h.1.symm
  | one k => simp [shape?] at hshape
  | many greedy k => simp [shape?] at hshape
  | star greedy p => simp [shape?] at hshape
  | group i p =>
      obtain rfl : [.group i] = shape := by simpa [shape?] using hshape
      obtain ⟨k, rfl, -⟩ := h
      have hi : i ≠ 0 := fun h0 => hzero (h0 ▸ List.mem_cons_self)
      simp [m.group_of_ne_zero hi, hm i List.mem_cons_self]
  | alt p q =>
      -- only a group that may be left out has a shape
      cases p with
      | group i p =>
          cases q with
          | empty =>
              obtain rfl : [.group i] = shape := by simpa [shape?] using hshape
              have hi : i ≠ 0 := fun h0 => hzero (h0 ▸ List.mem_cons_self)
              have hlookup := hm i List.mem_cons_self
              rcases h with ⟨k, rfl, -⟩ | ⟨rfl, rfl⟩
              · simp [m.group_of_ne_zero hi, hlookup]
              · simp [m.group_of_ne_zero hi, hlookup]
          | _ => simp [shape?] at hshape
      | _ => simp [shape?] at hshape
  | seq p q ihp ihq =>
      obtain ⟨t, u, g, k, rfl, rfl, hp, hq⟩ := h
      simp only [indices, List.nodup_append, List.mem_append, not_or] at hnodup hzero hm
      obtain ⟨hnp, hnq, hdisj⟩ := hnodup
      simp only [shape?, Option.bind_eq_some_iff, Option.map_eq_some_iff] at hshape
      obtain ⟨shapep, hsp, shapeq, hsq, rfl⟩ := hshape
      have hmp : ∀ i ∈ p.indices, m.groups.lookup i = g.lookup i := by
        intro i hi
        have hnone := hq.lookup_eq_none fun hiq => hdisj i hi i hiq rfl
        rw [hm i (.inl hi), List.lookup_append, hnone, Option.none_or]
      have hmq : ∀ i ∈ q.indices, m.groups.lookup i = k.lookup i := by
        intro i hi
        have hnone := hp.lookup_eq_none fun hip => hdisj i hip i hi rfl
        rw [hm i (.inr hi), List.lookup_append, hnone, Option.or_none]
      rw [Template.fill_append, ihp hsp hnp hzero.1 hp hmp, ihq hsq hnq hzero.2 hq hmq]

end Pattern

end Manuscript
