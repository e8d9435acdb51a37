import Manuscript.Proofs.Repair.Conservation

/-!
Repairs by the standard rules come to an end, and their flags say how.

A marker name has fifteen bytes, and every replacement loses one. A text can
therefore take no more passes with hits than it has fifteens of bytes. The
outcome counts as converged exactly if no rule matches its text any more, and
then a further repair finds nothing to do.
-/

namespace Manuscript.Repair

theorem pass_byteSize {table : Table} (htable : ∀ rule ∈ table, rule.Strips) (t : Text) :
    (pass table t).1.byteSize + 15 * (pass table t).2.total ≤ t.byteSize := by
  obtain ⟨a, b, ha, hstrip⟩ := pass_strips htable t
  have := hstrip.byteSize_eq
  omega

/-- As many passes as the text has fifteens of bytes are enough. -/
theorem advance_converges {table : Table} (htable : ∀ rule ∈ table, rule.Strips) (bound : Nat)
    (p : Progress) (h : p.text.byteSize / 15 ≤ bound) :
    (advance table bound p).converged = true := by
  induction bound generalizing p with
  | zero =>
      have := pass_byteSize htable p.text
      have hsilent : (pass table p.text).2.total = 0 := by omega
      rw [advance_silent 0 hsilent]
  | succ bound ih =>
      by_cases hpass : (pass table p.text).2.total = 0
      · rw [advance_silent _ hpass]
      · rw [advance_succ _ hpass]
        have := pass_byteSize htable p.text
        refine ih _ ?_
        change (pass table p.text).1.byteSize / 15 ≤ bound
        omega

theorem repair_shortens (n : Nat) (v : Bool) (t : Text) :
    let o := Engine.repair { maxPasses := n, validate := v } t
    o.text.byteSize + 15 * o.count ≤ t.byteSize ∧
      (t.byteSize / 15 ≤ n → o.converged = true ∧ ∀ k, .passBoundExhausted k ∉ o.warnings) := by
  intro o
  obtain ⟨a, b, ha, hstrip⟩ : ∃ a b, o.count ≤ a ∧ Strips a b t o.text := repair_strips n v t
  constructor
  · have := hstrip.byteSize_eq
    omega
  · intro hn
    have hconv : o.converged = true := by
      rw [Engine.repair_converged]
      exact advance_converges Standard.strips n (.start t) hn
    refine ⟨hconv, fun k hk => ?_⟩
    have := ((Engine.exhausted_mem_warnings _ t k).mp hk).1
    exact absurd (hconv.symm.trans this) (by simp)

/-- A repair has converged exactly if a pass over its text is silent. -/
theorem repair_converged_iff (e : Engine) (t : Text) :
    (e.repair t).converged = true ↔ (pass e.table (e.repair t).text).2.total = 0 := by
  rw [Engine.repair_converged, Engine.repair_text]
  exact advance_converged_iff e.maxPasses rfl

theorem repair_text_of_count {e : Engine} {t : Text} (h : (e.repair t).count = 0) :
    (e.repair t).text = t := by
  rw [Engine.repair_count] at h
  rw [Engine.repair_text]
  exact advance_text_of_count e.maxPasses h

theorem repair_silent {e : Engine} {t : Text} (h : (pass e.table t).2.total = 0) :
    (e.repair t).text = t ∧ (e.repair t).count = 0 ∧ (e.repair t).converged = true ∧
      (e.repair t).passes = 1 := by
  rw [Engine.repair_count, Engine.repair_text, Engine.repair_converged, Engine.repair_passes,
    advance_silent e.maxPasses (p := .start t) h]
  exact ⟨rfl, rfl, rfl, rfl⟩

theorem repair_flags (n : Nat) (v : Bool) (t : Text) :
    let o := Engine.repair { maxPasses := n, validate := v } t
    (o.changed = true ↔ o.text ≠ t) ∧
      (o.converged = true ↔ ∀ rule ∈ Standard.table, ¬rule.finder.Occurs o.text) ∧
      (o.converged = true → ∀ m w,
        let again := Engine.repair { maxPasses := m, validate := w } o.text
        again.text = o.text ∧ again.count = 0 ∧ again.converged = true ∧ again.passes = 1) := by
  intro o
  have hconv : o.converged = true ↔ (pass Standard.table o.text).2.total = 0 :=
    repair_converged_iff _ t
  refine ⟨?_, ?_, ?_⟩
  · rw [Outcome.changed, decide_eq_true_iff]
    obtain ⟨a, b, ha, hstrip⟩ : ∃ a b, o.count ≤ a ∧ Strips a b t o.text := repair_strips n v t
    constructor
    · intro hcount
      exact hstrip.ne (by omega)
    · intro htext hcount
      exact htext (repair_text_of_count hcount)
  · rw [hconv]
    exact pass_silent_iff Standard.strips o.text
  · intro h m w
    exact repair_silent (hconv.mp h)

end Manuscript.Repair
