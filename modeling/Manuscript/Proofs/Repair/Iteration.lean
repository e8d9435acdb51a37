import Manuscript.Proofs.Repair.Passes
import Mathlib.Algebra.BigOperators.Intervals
import Mathlib.Data.ENat.Lattice

/-!
The loop over passes as an iteration, for any table.

A repair keeps the passes with replacements that come before the first pass
without any, as many of them as its bound allows. Its text is that of the last
pass kept, and its counts are theirs. Only at the bound does it matter whether
one more pass would be silent. Two repairs one after the other therefore keep
the same passes as one whose bound is the sum of theirs.
-/

namespace Manuscript.Repair

def afterPasses (table : Table) (k : Nat) (t : Text) : Text :=
  (fun u => (pass table u).1)^[k] t

/-- What is counted in the pass that comes after so many others. -/
def tallyAt (table : Table) (t : Text) (k : Nat) : Tally :=
  (pass table (afterPasses table k t)).2

/-- What is counted in the first passes, category by category. -/
def tallyBefore (table : Table) (t : Text) (k : Nat) : Tally :=
  ⟨fun c => ∑ i ∈ Finset.range k, (tallyAt table t i).count c⟩

/-- How many passes with replacements come before the first one without; infinitely many if
there is none. -/
noncomputable def busyPasses (table : Table) (t : Text) : ℕ∞ :=
  sInf {k | ∃ i : ℕ, (i : ℕ∞) = k ∧ (tallyAt table t i).total = 0}

/-! ### Iterated passes -/

variable {table : Table} {t : Text}

@[simp] theorem afterPasses_zero : afterPasses table 0 t = t := rfl

@[simp] theorem tallyAt_zero : tallyAt table t 0 = (pass table t).2 := rfl

@[simp] theorem tallyBefore_zero : tallyBefore table t 0 = .zero := rfl

@[simp] theorem afterPasses_one : afterPasses table 1 t = (pass table t).1 := rfl

theorem afterPasses_add (j k : Nat) :
    afterPasses table (j + k) t = afterPasses table k (afterPasses table j t) := by
  rw [Nat.add_comm, afterPasses, Function.iterate_add_apply]
  rfl

theorem tallyAt_add (j k : Nat) :
    tallyAt table t (j + k) = tallyAt table (afterPasses table j t) k := by
  rw [tallyAt, afterPasses_add, tallyAt]

theorem tallyBefore_add (j k : Nat) :
    tallyBefore table t (j + k) =
      (tallyBefore table t j).plus (tallyBefore table (afterPasses table j t) k) := by
  simp only [tallyBefore, Tally.plus, Finset.sum_range_add, tallyAt_add]

@[simp] theorem tallyBefore_one : tallyBefore table t 1 = (pass table t).2 := by
  simp only [tallyBefore, Finset.sum_range_one, tallyAt_zero]

theorem tallyBefore_succ (k : Nat) :
    tallyBefore table t (k + 1) = (tallyBefore table t k).plus (tallyAt table t k) := by
  simp only [tallyBefore, Tally.plus, Finset.sum_range_succ]

theorem total_tallyBefore (k : Nat) :
    (tallyBefore table t k).total = ∑ i ∈ Finset.range k, (tallyAt table t i).total := by
  induction k with
  | zero => rfl
  | succ k ih => rw [tallyBefore_succ, Tally.total_plus, ih, Finset.sum_range_succ]

/-! ### The first silent pass -/

theorem lt_busyPasses_iff (n : ℕ) :
    (n : ℕ∞) < busyPasses table t ↔ ∀ i ≤ n, (tallyAt table t i).total ≠ 0 := by
  constructor
  · intro h i hi hsilent
    have hle : busyPasses table t ≤ i := sInf_le ⟨i, rfl, hsilent⟩
    exact absurd (h.trans_le hle) (by simpa using hi)
  · intro h
    have hle : ((n + 1 : ℕ) : ℕ∞) ≤ busyPasses table t := by
      refine le_sInf ?_
      rintro _ ⟨i, rfl, hsilent⟩
      have : n < i := by
        by_contra hi
        exact h i (by omega) hsilent
      exact_mod_cast this
    exact lt_of_lt_of_le (by exact_mod_cast Nat.lt_succ_self n) hle

theorem busyPasses_eq_iff (k : ℕ) :
    busyPasses table t = k ↔
      (∀ i < k, (tallyAt table t i).total ≠ 0) ∧ (tallyAt table t k).total = 0 := by
  constructor
  · intro h
    refine ⟨fun i hi => ?_, ?_⟩
    · exact (lt_busyPasses_iff i).mp (by rw [h]; exact_mod_cast hi) i le_rfl
    · by_contra hk
      refine absurd ((lt_busyPasses_iff k).mpr fun i hi => ?_) (by rw [h]; exact lt_irrefl _)
      rcases Nat.lt_or_eq_of_le hi with hi | rfl
      · exact (lt_busyPasses_iff i).mp (by rw [h]; exact_mod_cast hi) i le_rfl
      · exact hk
  · rintro ⟨hbusy, hsilent⟩
    refine le_antisymm (sInf_le ⟨k, rfl, hsilent⟩) (le_sInf ?_)
    rintro _ ⟨i, rfl, hi⟩
    have : k ≤ i := by
      by_contra hlt
      exact hbusy i (by omega) hi
    exact_mod_cast this

/-! ### The loop -/

namespace Tally

@[simp] theorem plus_zero (u : Tally) : u.plus .zero = u := rfl

theorem plus_assoc (u v w : Tally) : (u.plus v).plus w = u.plus (v.plus w) := by
  simp only [plus, Nat.add_assoc]

@[simp] theorem zero_plus (u : Tally) : zero.plus u = u := by
  simp only [plus, zero, Nat.zero_add]

theorem mem_entries (u : Tally) (c : Category) (n : Nat) :
    (c, n) ∈ u.entries ↔ u.count c = n ∧ n ≠ 0 := by
  have hall : c ∈ Category.all := by cases c <;> decide
  simp only [entries, List.mem_filter, List.mem_map, Prod.mk.injEq, decide_eq_true_eq]
  constructor
  · rintro ⟨⟨_, _, rfl, rfl⟩, hn⟩
    exact ⟨rfl, hn⟩
  · rintro ⟨rfl, hn⟩
    exact ⟨⟨c, hall, rfl, rfl⟩, hn⟩

theorem sum_entries (u : Tally) : (u.entries.map Prod.snd).sum = u.total := by
  rw [entries, total]
  induction Category.all with
  | nil => rfl
  | cons c cs ih =>
      rw [List.map_cons, List.foldr_cons, ← ih]
      by_cases hc : u.count c = 0
      · rw [List.filter_cons_of_neg (by simpa using hc), hc, Nat.zero_add]
      · rw [List.filter_cons_of_pos (by simpa using hc), List.map_cons, List.sum_cons]

end Tally

/-- Passes with replacements are gone through as long as the bound allows. -/
theorem advance_busy {p : Progress} (hp : p.converged = false) {k : Nat}
    (h : ∀ i < k, (tallyAt table p.text i).total ≠ 0) (n : Nat) :
    advance table (k + n) p = advance table n
      ⟨afterPasses table k p.text, p.tally.plus (tallyBefore table p.text k),
        p.count + (tallyBefore table p.text k).total, p.passes + k, false⟩ := by
  -- the loop takes the first pass off, so the passes left are those from its text
  induction k generalizing p with
  | zero =>
      obtain ⟨text, tally, count, passes, converged⟩ := p
      obtain rfl : converged = false := hp
      rw [Nat.zero_add]
      rfl
  | succ k ih =>
      have hfirst : (pass table p.text).2.total ≠ 0 := by
        have := h 0 (Nat.succ_pos k)
        rwa [tallyAt_zero] at this
      have hrest : ∀ i < k, (tallyAt table (pass table p.text).1 i).total ≠ 0 := by
        intro i hi
        have := h (1 + i) (by omega)
        rwa [tallyAt_add] at this
      rw [Nat.add_right_comm, advance_succ _ hfirst, ih (p.converged_next table) hrest]
      simp only [Progress.text_next, Progress.tally_next, Progress.count_next,
        Progress.passes_next]
      rw [Nat.add_comm k 1, afterPasses_add, tallyBefore_add, Tally.total_plus, ← Nat.add_assoc,
        ← Nat.add_assoc, ← Tally.plus_assoc, tallyBefore_one, afterPasses_one]

theorem advance_start_busy {k : Nat} (h : ∀ i < k, (tallyAt table t i).total ≠ 0) (n : Nat) :
    advance table (k + n) (.start t) =
      advance table n ⟨afterPasses table k t, tallyBefore table t k,
        (tallyBefore table t k).total, k, false⟩ := by
  have hloop := advance_busy (p := .start t) rfl h n
  simpa [Progress.start] using hloop

/-- The loop keeps the first `k` passes under the bound `n`. -/
structure Keeps (table : Table) (t : Text) (n k : Nat) : Prop where
  le : k ≤ n
  busy : ∀ i < k, (tallyAt table t i).total ≠ 0
  silent : k < n → (tallyAt table t k).total = 0

namespace Keeps

theorem unique {n k l : Nat} (h : Keeps table t n k) (g : Keeps table t n l) : k = l := by
  rcases Nat.lt_trichotomy k l with hlt | rfl | hlt
  · exact absurd (h.silent (hlt.trans_le g.le)) (g.busy k hlt)
  · rfl
  · exact absurd (g.silent (hlt.trans_le h.le)) (h.busy l hlt)

theorem trans {a b j k : Nat} (h : Keeps table t a j)
    (g : Keeps table (afterPasses table j t) b k) : Keeps table t (a + b) (j + k) where
  le := Nat.add_le_add h.le g.le
  busy := by
    intro i hi
    by_cases hij : i < j
    · exact h.busy i hij
    · obtain ⟨m, rfl⟩ := Nat.exists_eq_add_of_le (Nat.le_of_not_lt hij)
      rw [tallyAt_add]
      exact g.busy m (by omega)
  silent := by
    intro hlt
    rw [tallyAt_add]
    by_cases hk : k < b
    · exact g.silent hk
    -- the second bound is used up, so the first one is not, and nothing was left to do
    · have hj := h.silent (by have := h.le; have := g.le; omega)
      have hk : k = 0 := by
        by_contra hne
        exact g.busy 0 (Nat.pos_of_ne_zero hne) hj
      rw [hk]
      exact hj

end Keeps

/-- The outcome is that of the first `k` passes. -/
structure Outcome.IsAfter (o : Outcome) (table : Table) (t : Text) (k : Nat) : Prop where
  text : o.text = afterPasses table k t
  tally : o.tally = tallyBefore table t k
  count : o.count = ∑ i ∈ Finset.range k, (tallyAt table t i).total

def Warning.isExhausted : Warning → Bool
  | .passBoundExhausted _ => true
  | .structural _ => false

theorem Engine.filter_exhausted (e : Engine) (t : Text) :
    (e.repair t).warnings.filter Warning.isExhausted =
      if (e.repair t).converged then [] else [.passBoundExhausted e.maxPasses] := by
  rw [repair_warnings, List.filter_append]
  have hstructural : ∀ issues : List Structure.Issue,
      (issues.map Warning.structural).filter Warning.isExhausted = [] := by
    intro issues
    simp [List.filter_eq_nil_iff, Warning.isExhausted]
  have hrest : (if e.validate && (e.repair t).count ≠ 0 then
      (Structure.validate (e.repair t).text).map Warning.structural else []).filter
        Warning.isExhausted = [] := by
    split
    next => exact hstructural _
    next => rfl
  rw [hrest, List.append_nil]
  cases (e.repair t).converged with
  | true => rfl
  | false => rfl

theorem repair_of_advance {e : Engine} {k passes : Nat} {c : Bool}
    (h : advance e.table e.maxPasses (.start t) =
      ⟨afterPasses e.table k t, tallyBefore e.table t k, (tallyBefore e.table t k).total, passes,
        c⟩) :
    (e.repair t).IsAfter e.table t k ∧ (e.repair t).passes = passes ∧
      (e.repair t).converged = c := by
  refine ⟨⟨?_, ?_, ?_⟩, ?_, ?_⟩
  · rw [Engine.repair_text, h]
  · rw [Engine.repair_tally, h]
  · rw [Engine.repair_count, h]
    exact total_tallyBefore k
  · rw [Engine.repair_passes, h]
  · rw [Engine.repair_converged, h]

/-- A silent pass within the bound ends the repair. -/
theorem repair_of_silent (e : Engine) {k : Nat} (hle : k ≤ e.maxPasses)
    (hbusy : ∀ i < k, (tallyAt e.table t i).total ≠ 0)
    (hsilent : (tallyAt e.table t k).total = 0) :
    (e.repair t).IsAfter e.table t k ∧ (e.repair t).passes = k + 1 ∧
      (e.repair t).converged = true := by
  refine repair_of_advance ?_
  obtain ⟨m, hm⟩ := Nat.exists_eq_add_of_le hle
  rw [tallyAt] at hsilent
  rw [hm, advance_start_busy hbusy,
    advance_silent (p := ⟨afterPasses e.table k t, _, _, _, _⟩) m hsilent]

/-- The bound ends the repair if no pass has been silent until then. -/
theorem repair_of_busy (e : Engine) (hbusy : ∀ i ≤ e.maxPasses, (tallyAt e.table t i).total ≠ 0) :
    (e.repair t).IsAfter e.table t e.maxPasses ∧ (e.repair t).passes = e.maxPasses ∧
      (e.repair t).converged = false := by
  refine repair_of_advance ?_
  have hstart : ∀ i < e.maxPasses, (tallyAt e.table t i).total ≠ 0 :=
    fun i hi => hbusy i (Nat.le_of_lt hi)
  have hlast := hbusy e.maxPasses le_rfl
  rw [tallyAt] at hlast
  have hloop := advance_start_busy hstart 0
  rw [advance_zero (p := ⟨afterPasses e.table e.maxPasses t, _, _, _, _⟩) hlast] at hloop
  exact hloop

theorem repair_keeps (e : Engine) (t : Text) :
    ∃ k, Keeps e.table t e.maxPasses k ∧ (e.repair t).IsAfter e.table t k := by
  by_cases hbusy : ∀ i ≤ e.maxPasses, (tallyAt e.table t i).total ≠ 0
  -- no pass up to the bound is silent, the one that only confirms included
  · have hkeeps : Keeps e.table t e.maxPasses e.maxPasses :=
      ⟨le_rfl, fun i hi => hbusy i (Nat.le_of_lt hi), fun h => absurd h (Nat.lt_irrefl _)⟩
    exact ⟨e.maxPasses, hkeeps, (repair_of_busy e hbusy).1⟩
  · have hex : ∃ i, i ≤ e.maxPasses ∧ (tallyAt e.table t i).total = 0 := by simpa using hbusy
    obtain ⟨hle, hsilent⟩ := Nat.find_spec hex
    have hbefore : ∀ i < Nat.find hex, (tallyAt e.table t i).total ≠ 0 :=
      fun i hi h => Nat.find_min hex hi ⟨by omega, h⟩
    exact ⟨Nat.find hex, ⟨hle, hbefore, fun _ => hsilent⟩,
      (repair_of_silent e hle hbefore hsilent).1⟩

/-- Going on with a repair comes to the same as having allowed it more passes. -/
theorem repair_resume (e : Engine) (a b : Nat) (t : Text) :
    let first := Engine.repair { e with maxPasses := a } t
    let second := Engine.repair { e with maxPasses := b } first.text
    let whole := Engine.repair { e with maxPasses := a + b } t
    second.text = whole.text ∧ first.count + second.count = whole.count ∧
      first.tally.plus second.tally = whole.tally := by
  intro first second whole
  obtain ⟨j, hj, hfirst⟩ : ∃ j, Keeps e.table t a j ∧ first.IsAfter e.table t j :=
    repair_keeps { e with maxPasses := a } t
  obtain ⟨k, hk, hsecond⟩ : ∃ k, Keeps e.table first.text b k ∧
      second.IsAfter e.table first.text k :=
    repair_keeps { e with maxPasses := b } first.text
  obtain ⟨l, hl, hwhole⟩ : ∃ l, Keeps e.table t (a + b) l ∧ whole.IsAfter e.table t l :=
    repair_keeps { e with maxPasses := a + b } t
  rw [hfirst.text] at hk hsecond
  obtain rfl : l = j + k := hl.unique (hj.trans hk)
  refine ⟨?_, ?_, ?_⟩
  · rw [hsecond.text, hwhole.text, afterPasses_add]
  · simp only [hfirst.count, hsecond.count, hwhole.count, Finset.sum_range_add, tallyAt_add]
  · rw [hfirst.tally, hsecond.tally, hwhole.tally, tallyBefore_add]

/-- A repair iterates passes up to the first silent one, as far as its bound allows, and can be
resumed. -/
theorem repair_iterates (e : Engine) (t : Text) :
    let o := e.repair t
    (∀ k : ℕ, busyPasses e.table t = k → k ≤ e.maxPasses →
        o.IsAfter e.table t k ∧ o.converged = true ∧ o.passes = k + 1 ∧
          o.warnings.filter Warning.isExhausted = []) ∧
      ((e.maxPasses : ℕ∞) < busyPasses e.table t →
        o.IsAfter e.table t e.maxPasses ∧ o.converged = false ∧ o.passes = e.maxPasses ∧
          o.warnings.head? = some (.passBoundExhausted e.maxPasses) ∧
          o.warnings.filter Warning.isExhausted = [.passBoundExhausted e.maxPasses]) ∧
      (∀ c n, (c, n) ∈ o.tally.entries ↔ o.tally.count c = n ∧ n ≠ 0) ∧
      (o.tally.entries.map Prod.snd).sum = o.count ∧
      ∀ a b,
        let first := Engine.repair { e with maxPasses := a } t
        let second := Engine.repair { e with maxPasses := b } first.text
        let whole := Engine.repair { e with maxPasses := a + b } t
        second.text = whole.text ∧ first.count + second.count = whole.count ∧
          first.tally.plus second.tally = whole.tally := by
  intro o
  refine ⟨?_, ?_, o.tally.mem_entries, o.tally.sum_entries.trans (e.total_repair_tally t),
    fun a b => repair_resume e a b t⟩
  · intro k hk hle
    obtain ⟨hbusy, hsilent⟩ := (busyPasses_eq_iff k).mp hk
    obtain ⟨hafter, hpasses, hconv⟩ := repair_of_silent e hle hbusy hsilent
    refine ⟨hafter, hconv, hpasses, ?_⟩
    rw [e.filter_exhausted t, hconv, if_pos rfl]
  · intro hlt
    obtain ⟨hafter, hpasses, hconv⟩ := repair_of_busy e ((lt_busyPasses_iff _).mp hlt)
    refine ⟨hafter, hconv, hpasses, ?_, ?_⟩
    · rw [e.repair_warnings t, hconv]
      rfl
    · rw [e.filter_exhausted t, hconv]
      rfl

end Manuscript.Repair
