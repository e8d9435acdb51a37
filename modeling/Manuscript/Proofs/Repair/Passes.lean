import Manuscript.Proofs.Repair.Stripping
import Manuscript.Repair.Engine

/-!
Passes of the repair engine and the loop over them, for any table.

The counts of a pass are the hits of its rules one after the other. For rules
that strip, every match is a hit, so a pass without hits is one in which no
rule matches, and it leaves the text as it is.
-/

namespace Manuscript.Repair

/-! ### Tallies -/

namespace Tally

@[simp] theorem total_zero : zero.total = 0 := rfl

theorem total_add (t : Tally) (c : Category) (n : Nat) : (t.add c n).total = t.total + n := by
  cases c <;> simp [total, add, Category.all] <;> omega

theorem total_plus (t u : Tally) : (t.plus u).total = t.total + u.total := by
  simp only [total, plus, Category.all, List.foldr]
  omega

theorem lookup_entries (f : Category → Nat) (cs : List Category) (c : Category) :
    (((cs.map fun d => (d, f d)).filter (·.2 ≠ 0)).lookup c).getD 0 =
      if c ∈ cs then f c else 0 := by
  induction cs with
  | nil => rfl
  | cons d cs ih =>
      by_cases hd : f d = 0
      · rw [List.map_cons, List.filter_cons_of_neg (by simpa using hd), ih]
        by_cases hc : c = d
        · subst hc
          simp [hd]
        · simp [hc]
      · rw [List.map_cons, List.filter_cons_of_pos (by simpa using hd), List.lookup_cons]
        by_cases hc : c = d
        · subst hc
          simp
        · rw [beq_false_of_ne hc, ih]
          simp [hc]

@[simp] theorem settle_eq (t : Tally) : t.settle = t := by
  obtain ⟨count⟩ := t
  simp only [settle, entries, mk.injEq]
  funext c
  rw [lookup_entries, if_pos]
  cases c <;> decide

end Tally

/-! ### One rule -/

/-- The text with every match of the rule replaced, and the number of hits. -/
def Rule.rewrite (rule : Rule) (t : Text) : Text × Nat :=
  rule.replacement.replaceIn (rule.finder.pieces t)

def Finder.Occurs : Finder → Text → Prop
  | .pattern p, t => p.Occurs t
  | .automaton m, t => ∃ found, .found found ∈ m.pieces t

theorem applyRule_eq (state : Text × Tally) (rule : Rule) :
    applyRule state rule = ((rule.rewrite state.1).1,
      if (rule.rewrite state.1).2 = 0 then state.2
      else state.2.add rule.category (rule.rewrite state.1).2) := rfl

theorem total_applyRule (state : Text × Tally) (rule : Rule) :
    (applyRule state rule).2.total = state.2.total + (rule.rewrite state.1).2 := by
  rw [applyRule_eq]
  split
  next h => rw [h, Nat.add_zero]
  next => exact Tally.total_add _ _ _

@[simp] theorem replaceIn_kept (t : Template) (c : Char) (pieces : List Pattern.Piece) :
    t.replaceIn (.kept c :: pieces) = (c :: (t.replaceIn pieces).1, (t.replaceIn pieces).2) := rfl

@[simp] theorem replaceIn_found (t : Template) (m : Pattern.Found)
    (pieces : List Pattern.Piece) :
    t.replaceIn (.found m :: pieces) = (t.fill m ++ (t.replaceIn pieces).1,
      if t.fill m = m.text then (t.replaceIn pieces).2 else (t.replaceIn pieces).2 + 1) := rfl

/-- What is known of a rewriting by a rule that strips. -/
structure Stripped (t : Text) (found : Prop) (new : Text × Nat) : Prop where
  strips : ∃ a b, new.2 ≤ a ∧ Strips a b t new.1
  hit_iff : new.2 ≠ 0 ↔ found
  eq_of_silent : new.2 = 0 → new.1 = t

theorem Rule.Strips.stripped {rule : Rule} (h : rule.Strips) (t : Text) :
    Stripped t (rule.finder.Occurs t) (rule.rewrite t) := by
  obtain ⟨p, hp, hstrips⟩ := h
  have hsome : p.ReadsSome := by
    rintro b _ r g hreads rfl
    obtain ⟨a, c, ha, hstrip⟩ := hstrips b [] r g hreads
    have := hstrip.byteSize_eq
    simp only [Text.byteSize] at this
    omega
  suffices H : ∀ s : Pattern.Place, s.groups = [] →
      Stripped s.rest (∃ m, .found m ∈ p.cut s) (rule.replacement.replaceIn (p.cut s)) by
    have := H (.ofText t) rfl
    rw [← Pattern.pieces_eq_cut] at this
    have hfound := Pattern.forall_kept_iff hsome t
    rw [← not_exists, not_iff_not] at hfound
    rw [hfound] at this
    rw [Rule.rewrite, hp]
    exact this
  intro s hs
  induction s using Pattern.cut_induction hsome with
  | stop s hrest =>
      rw [Pattern.cut_stop hsome hrest, hrest]
      exact ⟨⟨0, 0, le_rfl, .refl []⟩, by simp [Template.replaceIn], fun _ => rfl⟩
  | kept s c rest hrest hnone ih =>
      obtain ⟨⟨a, b, ha, hstrip⟩, hhit, hsilent⟩ := ih hs
      rw [Pattern.cut_kept hsome hrest hnone, hrest, replaceIn_kept]
      refine ⟨⟨a, b, ha, ?_⟩, by simpa using hhit, fun h => congrArg (c :: ·) (hsilent h)⟩
      simpa [Pattern.Place.past] using (Repair.Strips.refl [c]).append hstrip
  | found s e he ih =>
      obtain ⟨⟨a, b, ha, hstrip⟩, -, -⟩ := ih rfl
      obtain ⟨u, g, hreach, hreads, hfound⟩ := Pattern.foundBetween_eq hs he
      obtain ⟨c, d, hc, hnew⟩ := hstrips _ _ _ _ hreads
      rw [Pattern.cut_found hsome he, hfound, replaceIn_found, if_neg (hnew.ne hc), hreach.rest]
      refine ⟨⟨c + a, d + b, ?_, hnew.append hstrip⟩, by simp, fun h => absurd h (by simp)⟩
      simp only
      omega

/-! ### One pass -/

theorem pass_eq (table : Table) (t : Text) : pass table t = table.foldl applyRule (t, .zero) := by
  simp [pass]

theorem total_le_foldl (table : Table) (state : Text × Tally) :
    state.2.total ≤ (table.foldl applyRule state).2.total := by
  induction table generalizing state with
  | nil => exact le_rfl
  | cons rule table ih =>
      have := total_applyRule state rule
      have := ih (applyRule state rule)
      rw [List.foldl_cons]
      omega

section

variable {table : Table} (htable : ∀ rule ∈ table, rule.Strips)
include htable

theorem foldl_strips (state : Text × Tally) :
    ∃ a b, (table.foldl applyRule state).2.total ≤ state.2.total + a ∧
      Strips a b state.1 (table.foldl applyRule state).1 := by
  induction table generalizing state with
  | nil => exact ⟨0, 0, le_rfl, .refl _⟩
  | cons rule table ih =>
      obtain ⟨⟨a, b, ha, hstrip⟩, -, -⟩ := (htable rule List.mem_cons_self).stripped state.1
      obtain ⟨c, d, hc, hrest⟩ := ih (fun r hr => htable r (List.mem_cons_of_mem _ hr))
        (applyRule state rule)
      refine ⟨a + c, b + d, ?_, hstrip.trans hrest⟩
      rw [total_applyRule] at hc
      rw [List.foldl_cons]
      omega

theorem foldl_silent {state : Text × Tally}
    (h : (table.foldl applyRule state).2.total = state.2.total) :
    (table.foldl applyRule state).1 = state.1 ∧ ∀ rule ∈ table, ¬rule.finder.Occurs state.1 := by
  induction table generalizing state with
  | nil => simp
  | cons rule table ih =>
      rw [List.foldl_cons] at h ⊢
      obtain ⟨-, hhit, hsilent⟩ := (htable rule List.mem_cons_self).stripped state.1
      have hle := total_le_foldl table (applyRule state rule)
      have htotal := total_applyRule state rule
      have hzero : (rule.rewrite state.1).2 = 0 := by omega
      have htext : (applyRule state rule).1 = state.1 := hsilent hzero
      have hrest : (table.foldl applyRule (applyRule state rule)).2.total =
          (applyRule state rule).2.total := by omega
      obtain ⟨heq, hrest⟩ := ih (fun r hr => htable r (List.mem_cons_of_mem _ hr)) hrest
      rw [htext] at heq hrest
      refine ⟨heq, fun r hr => ?_⟩
      rcases List.mem_cons.mp hr with rfl | hr
      · exact fun hocc => hhit.mpr hocc hzero
      · exact hrest r hr

theorem foldl_eq_of_not_occurs {state : Text × Tally}
    (h : ∀ rule ∈ table, ¬rule.finder.Occurs state.1) : table.foldl applyRule state = state := by
  induction table generalizing state with
  | nil => rfl
  | cons rule table ih =>
      obtain ⟨-, hhit, hsilent⟩ := (htable rule List.mem_cons_self).stripped state.1
      have hzero : (rule.rewrite state.1).2 = 0 := by
        by_contra hne
        exact h rule List.mem_cons_self (hhit.mp hne)
      have heq : applyRule state rule = state := by
        rw [applyRule_eq, if_pos hzero, hsilent hzero]
      rw [List.foldl_cons, heq]
      exact ih (fun r hr => htable r (List.mem_cons_of_mem _ hr))
        (fun r hr => h r (List.mem_cons_of_mem _ hr))

theorem pass_strips (t : Text) :
    ∃ a b, (pass table t).2.total ≤ a ∧ Strips a b t (pass table t).1 := by
  obtain ⟨a, b, ha, hstrip⟩ := foldl_strips htable (t, .zero)
  rw [pass_eq]
  exact ⟨a, b, by simpa using ha, hstrip⟩

/-- A pass is silent exactly if no rule of its table matches anywhere. -/
theorem pass_silent_iff (t : Text) :
    (pass table t).2.total = 0 ↔ ∀ rule ∈ table, ¬rule.finder.Occurs t := by
  rw [pass_eq]
  constructor
  · exact fun h => (foldl_silent htable h).2
  · intro h
    rw [foldl_eq_of_not_occurs htable h]
    rfl

end

/-! ### The loop over passes -/

theorem advance_silent {table : Table} {p : Progress} (bound : Nat)
    (h : (pass table p.text).2.total = 0) :
    advance table bound p = { p with passes := p.passes + 1, converged := true } := by
  rw [advance]
  exact if_pos h

theorem advance_zero {table : Table} {p : Progress} (h : (pass table p.text).2.total ≠ 0) :
    advance table 0 p = p := by
  rw [advance]
  exact if_neg h

/-- What the loop goes on from behind a pass with hits. -/
def Progress.next (table : Table) (p : Progress) : Progress :=
  ⟨(pass table p.text).1, p.tally.plus (pass table p.text).2,
    p.count + (pass table p.text).2.total, p.passes + 1, false⟩

@[simp] theorem Progress.text_next (table : Table) (p : Progress) :
    (p.next table).text = (pass table p.text).1 := rfl

@[simp] theorem Progress.tally_next (table : Table) (p : Progress) :
    (p.next table).tally = p.tally.plus (pass table p.text).2 := rfl

@[simp] theorem Progress.count_next (table : Table) (p : Progress) :
    (p.next table).count = p.count + (pass table p.text).2.total := rfl

@[simp] theorem Progress.passes_next (table : Table) (p : Progress) :
    (p.next table).passes = p.passes + 1 := rfl

@[simp] theorem Progress.converged_next (table : Table) (p : Progress) :
    (p.next table).converged = false := rfl

theorem advance_succ {table : Table} {p : Progress} (bound : Nat)
    (h : (pass table p.text).2.total ≠ 0) :
    advance table (bound + 1) p = advance table bound (p.next table) := by
  rw [advance, Progress.next, ← Tally.settle_eq (p.tally.plus (pass table p.text).2)]
  exact if_neg h

theorem advance_pass {table : Table} {t u : Text} {tally new : Tally} {count passes : Nat}
    {c : Bool} (bound : Nat) (hpass : pass table t = (u, new)) (hnew : new.total ≠ 0) :
    advance table (bound + 1) ⟨t, tally, count, passes, c⟩ =
      advance table bound ⟨u, tally.plus new, count + new.total, passes + 1, false⟩ := by
  rw [advance_succ, Progress.next, hpass]
  rwa [hpass]

/-- What relates the ends of the loop, silent or used up, and is kept by a pass with hits before
them, relates whatever the loop starts from to what it comes to. -/
theorem advance_induction {table : Table} {P : Progress → Progress → Prop}
    (silent : ∀ p, (pass table p.text).2.total = 0 →
      P p { p with passes := p.passes + 1, converged := true })
    (stopped : ∀ p, (pass table p.text).2.total ≠ 0 → P p p)
    (busy : ∀ p q, (pass table p.text).2.total ≠ 0 → P (p.next table) q → P p q)
    (bound : Nat) (p : Progress) : P p (advance table bound p) := by
  induction bound generalizing p with
  | zero =>
      by_cases h : (pass table p.text).2.total = 0
      · rw [advance_silent 0 h]
        exact silent p h
      · rw [advance_zero h]
        exact stopped p h
  | succ bound ih =>
      by_cases h : (pass table p.text).2.total = 0
      · rw [advance_silent _ h]
        exact silent p h
      · rw [advance_succ _ h]
        exact busy p _ h (ih _)

/-- What the loop adds to the count is what it adds to the categories of the tally. -/
theorem advance_count (table : Table) (bound : Nat) (p : Progress) :
    (advance table bound p).count + p.tally.total =
      p.count + (advance table bound p).tally.total := by
  refine advance_induction
    (P := fun p q => q.count + p.tally.total = p.count + q.tally.total)
    ?silent ?stopped ?busy bound p
  case silent => exact fun p _ => rfl
  case stopped => exact fun p _ => rfl
  case busy =>
    intro p q _ hrest
    simp only [Progress.count_next, Progress.tally_next, Tally.total_plus] at hrest
    omega

theorem count_le_advance (table : Table) (bound : Nat) (p : Progress) :
    p.count ≤ (advance table bound p).count := by
  refine advance_induction (P := fun p q => p.count ≤ q.count) ?silent ?stopped ?busy bound p
  case silent => exact fun p _ => le_rfl
  case stopped => exact fun p _ => le_rfl
  case busy => exact fun p q _ hrest => (Nat.le_add_right _ _).trans hrest

/-- The loop ends with a silent pass over the text it returns, or unconverged before a pass that
has hits. -/
theorem advance_converged_iff {table : Table} (bound : Nat) {p : Progress}
    (hp : p.converged = false) :
    (advance table bound p).converged = true ↔
      (pass table (advance table bound p).text).2.total = 0 := by
  refine advance_induction
    (P := fun p q => p.converged = false →
      (q.converged = true ↔ (pass table q.text).2.total = 0))
    ?silent ?stopped ?busy bound p hp
  case silent => exact fun p h _ => iff_of_true rfl h
  case stopped =>
    intro p h hp
    exact iff_of_false (Bool.eq_false_iff.mp hp) h
  case busy => exact fun p q _ hrest _ => hrest rfl

theorem advance_text_of_count {table : Table} (bound : Nat) {p : Progress}
    (h : (advance table bound p).count = p.count) :
    (advance table bound p).text = p.text := by
  by_cases hpass : (pass table p.text).2.total = 0
  · rw [advance_silent _ hpass]
  · cases bound with
    | zero => rw [advance_zero hpass]
    | succ bound =>
        rw [advance_succ _ hpass] at h
        have hle := count_le_advance table bound (p.next table)
        rw [h, Progress.count_next] at hle
        omega

theorem advance_strips {table : Table} (htable : ∀ rule ∈ table, rule.Strips) (bound : Nat)
    (p : Progress) :
    ∃ a b, (advance table bound p).count ≤ p.count + a ∧
      Strips a b p.text (advance table bound p).text := by
  refine advance_induction
    (P := fun p q => ∃ a b, q.count ≤ p.count + a ∧ Strips a b p.text q.text)
    ?silent ?stopped ?busy bound p
  case silent => exact fun p _ => ⟨0, 0, le_rfl, .refl _⟩
  case stopped => exact fun p _ => ⟨0, 0, le_rfl, .refl _⟩
  case busy =>
    rintro p q - ⟨c, d, hc, hrest⟩
    obtain ⟨a, b, ha, hpass⟩ := pass_strips htable p.text
    rw [Progress.count_next] at hc
    refine ⟨a + c, b + d, ?_, hpass.trans hrest⟩
    omega

/-! ### The whole repair -/

def Progress.start (t : Text) : Progress :=
  ⟨t, .zero, 0, 0, false⟩

@[simp] theorem Progress.count_start (t : Text) : (start t).count = 0 := rfl

theorem Engine.repair_text (e : Engine) (t : Text) :
    (e.repair t).text = (advance e.table e.maxPasses (.start t)).text := rfl

theorem Engine.repair_tally (e : Engine) (t : Text) :
    (e.repair t).tally = (advance e.table e.maxPasses (.start t)).tally := rfl

theorem Engine.repair_count (e : Engine) (t : Text) :
    (e.repair t).count = (advance e.table e.maxPasses (.start t)).count := rfl

theorem Engine.repair_passes (e : Engine) (t : Text) :
    (e.repair t).passes = (advance e.table e.maxPasses (.start t)).passes := rfl

theorem Engine.repair_converged (e : Engine) (t : Text) :
    (e.repair t).converged = (advance e.table e.maxPasses (.start t)).converged := rfl

theorem Engine.repair_warnings (e : Engine) (t : Text) :
    (e.repair t).warnings =
      (if (e.repair t).converged then [] else [.passBoundExhausted e.maxPasses]) ++
        if e.validate && (e.repair t).count ≠ 0 then
          (Structure.validate (e.repair t).text).map .structural
        else [] := rfl

/-- The replacements counted are those of all categories. -/
theorem Engine.total_repair_tally (e : Engine) (t : Text) :
    (e.repair t).tally.total = (e.repair t).count := by
  have hloop := advance_count e.table e.maxPasses (.start t)
  have hstart : (Progress.start t).tally.total = 0 := rfl
  rw [repair_tally, repair_count]
  simp only [Progress.count_start, hstart] at hloop
  omega

/-- The bound is reported exactly if the repair has not converged. -/
theorem Engine.exhausted_mem_warnings (e : Engine) (t : Text) (k : Nat) :
    .passBoundExhausted k ∈ (e.repair t).warnings ↔
      (e.repair t).converged = false ∧ k = e.maxPasses := by
  rw [repair_warnings, List.mem_append]
  cases (e.repair t).converged with
  | true => simp
  | false => simp

end Manuscript.Repair
