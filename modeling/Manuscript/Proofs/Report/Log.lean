import Manuscript.Report.Basic
import Mathlib.Data.List.Perm.Subperm

/-!
The report as an ordered log.

A stage that comes later in the pipeline than all recorded ones is recorded
behind them, and any other leaves the report as it is. So the stages stay in
order, and whatever is pushed, the log only grows at its end. What a log says of
a stage, and that its run has passed, is read off its beginning and stays true.
A sequence of stages in the order of the pipeline is recorded as it is.
-/

namespace Manuscript

/-- The results stand in the order of the pipeline, each stage at most once. -/
def StageResult.InOrder (results : List StageResult) : Prop :=
  results.Pairwise fun a b => a.stage.position < b.stage.position

theorem Stage.all_inOrder : Stage.all.Pairwise fun a b => a.position < b.position := by
  decide

theorem Stage.mem_all (s : Stage) : s ∈ Stage.all := by
  cases s <;> decide

theorem StageResult.inOrder_of_prefix {results : List StageResult}
    (h : results.map (·.stage) <+: Stage.all) : InOrder results := by
  have := Stage.all_inOrder.sublist h.sublist
  rwa [List.pairwise_map] at this

namespace StageResult.InOrder

variable {results : List StageResult} (h : InOrder results)
include h

theorem nodup_stages : (results.map (·.stage)).Nodup := by
  refine List.pairwise_map.mpr (h.imp fun hlt heq => ?_)
  rw [heq] at hlt
  exact Nat.lt_irrefl _ hlt

theorem length_le : results.length ≤ 5 := by
  have hall : results.map (·.stage) ⊆ Stage.all := fun s _ => s.mem_all
  have hlength := (h.nodup_stages.subperm hall).length_le
  rwa [List.length_map] at hlength

end StageResult.InOrder

namespace Report

variable {r r' : Report} {s : StageResult}

/-! ### One call -/

theorem push_of_accepts (h : r.accepts s = true) : r.push s = ⟨r.stages ++ [s]⟩ := by
  rw [push, if_pos h]

theorem push_of_refuses (h : r.accepts s = false) : r.push s = r := by
  rw [push, if_neg (by simp [h])]

theorem accepts_iff : r.accepts s = true ↔
    ∀ last ∈ r.stages.getLast?, last.stage.position < s.stage.position := by
  rw [accepts]
  cases r.stages.getLast? with
  | none => simp
  | some last => simp

theorem accepts_of_inOrder (h : StageResult.InOrder (r.stages ++ [s])) : r.accepts s = true := by
  refine accepts_iff.mpr fun last hlast => ?_
  exact (List.pairwise_append.mp h).2.2 last (List.mem_of_getLast? hlast) s
    (List.mem_singleton_self s)

/-- What comes after the last stage comes after all of them. -/
theorem inOrder_of_accepts (h : StageResult.InOrder r.stages) (haccepts : r.accepts s = true) :
    StageResult.InOrder (r.stages ++ [s]) := by
  refine List.pairwise_append.mpr ⟨h, List.pairwise_singleton _ _, fun a ha b hb => ?_⟩
  obtain rfl := List.mem_singleton.mp hb
  obtain hnil | ⟨before, last, hstages⟩ := List.eq_nil_or_concat' r.stages
  · rw [hnil] at ha
    cases ha
  · have hlast := accepts_iff.mp haccepts last (by simp [hstages])
    rw [StageResult.InOrder, hstages, List.pairwise_append] at h
    rw [hstages, List.mem_append] at ha
    rcases ha with ha | ha
    · exact Nat.lt_trans (h.2.2 a ha last (List.mem_singleton_self last)) hlast
    · rwa [List.mem_singleton.mp ha]

theorem inOrder_push (h : StageResult.InOrder r.stages) (s : StageResult) :
    StageResult.InOrder (r.push s).stages := by
  cases haccepts : r.accepts s with
  | true =>
      rw [push_of_accepts haccepts]
      exact inOrder_of_accepts h haccepts
  | false => rwa [push_of_refuses haccepts]

theorem prefix_push (r : Report) (s : StageResult) : r.stages <+: (r.push s).stages := by
  cases haccepts : r.accepts s with
  | true =>
      rw [push_of_accepts haccepts]
      exact List.prefix_append _ _
  | false => simp [push_of_refuses haccepts]

/-! ### A sequence of calls -/

theorem inOrder_foldl_push (h : StageResult.InOrder r.stages) (calls : List StageResult) :
    StageResult.InOrder (calls.foldl push r).stages := by
  induction calls generalizing r with
  | nil => exact h
  | cons s calls ih => exact ih (inOrder_push h s)

theorem prefix_foldl_push (r : Report) (calls : List StageResult) :
    r.stages <+: (calls.foldl push r).stages := by
  induction calls generalizing r with
  | nil => exact List.prefix_rfl
  | cons s calls ih => exact (prefix_push r s).trans (ih (r.push s))

/-- Results that continue the order are all recorded. -/
theorem foldl_push {results : List StageResult}
    (h : StageResult.InOrder (r.stages ++ results)) :
    results.foldl push r = ⟨r.stages ++ results⟩ := by
  induction results generalizing r with
  | nil => rw [List.append_nil]; rfl
  | cons s results ih =>
      have hfirst : StageResult.InOrder (r.stages ++ [s]) := by
        refine h.sublist (List.Sublist.append_left ?_ _)
        exact List.singleton_sublist.mpr List.mem_cons_self
      rw [List.foldl_cons, push_of_accepts (accepts_of_inOrder hfirst)]
      have hrest := ih (r := ⟨r.stages ++ [s]⟩)
      simp only [List.append_assoc, List.singleton_append] at hrest
      exact hrest h

/-! ### What a log says -/

theorem stage?_mono (h : r.stages <+: r'.stages) {stage : Stage} {result : StageResult}
    (hresult : r.stage? stage = some result) : r'.stage? stage = some result :=
  h.find?_eq_some hresult

theorem passed_mono (h : r.stages <+: r'.stages) (hpassed : r.passed = true) :
    r'.passed = true := by
  rw [passed, List.all_eq_true] at hpassed ⊢
  intro stage hstage
  have hok := hpassed stage hstage
  cases hresult : r.stage? stage with
  | none =>
      rw [hresult] at hok
      cases hok
  | some result =>
      rw [hresult] at hok
      rw [stage?_mono h hresult]
      exact hok

/-- Whatever is pushed onto a report in order, it stays in order and goes on from what was recorded,
so that no stage gets another result and a passed run stays passed. The next call records its stage
exactly if that comes after the last one, and otherwise changes nothing. -/
theorem foldl_push_log (h : StageResult.InOrder r.stages) (calls : List StageResult) :
    let now := calls.foldl push r
    (StageResult.InOrder now.stages ∧ (now.stages.map (·.stage)).Nodup ∧ now.stages.length ≤ 5) ∧
      r.stages <+: now.stages ∧
      (∀ stage result, r.stage? stage = some result → now.stage? stage = some result) ∧
      (r.passed = true → now.passed = true) ∧
      ∀ s, now.stages <+: (now.push s).stages ∧
        (now.accepts s = true ↔
          ∀ last ∈ now.stages.getLast?, last.stage.position < s.stage.position) ∧
        (now.accepts s = true → now.push s = ⟨now.stages ++ [s]⟩) ∧
        (now.accepts s = false → now.push s = now) := by
  intro now
  have hnow : StageResult.InOrder now.stages := inOrder_foldl_push h calls
  have hgrown : r.stages <+: now.stages := prefix_foldl_push r calls
  exact ⟨⟨hnow, hnow.nodup_stages, hnow.length_le⟩, hgrown, fun _ _ => stage?_mono hgrown,
    passed_mono hgrown, fun s => ⟨prefix_push now s, accepts_iff, push_of_accepts,
      push_of_refuses⟩⟩

/-- Behind a gap in the order the stages that would fill it are refused. -/
theorem foldl_push_log_gap :
    let r : Report := ⟨[.of .scanning true .nothing, .of .stubbing true .nothing]⟩
    let calls := [.of .resolving true .nothing, .failure .stubbing "late", .of .fullBuildTest true
      .nothing]
    StageResult.InOrder r.stages ∧
      (calls.foldl push r).stages = r.stages ++ [.of .fullBuildTest true .nothing] ∧
      (calls.foldl push r).stage? .stubbing = some (.of .stubbing true .nothing) := by
  intro r calls
  have h : StageResult.InOrder r.stages :=
    List.pairwise_pair.mpr (show Stage.position .scanning < Stage.position .stubbing by decide)
  exact ⟨h, rfl, (foldl_push_log h calls).2.2.1 .stubbing _ rfl⟩

end Report

end Manuscript
