import Manuscript.Pipeline
import Manuscript.Proofs.Build.Answer
import Manuscript.Proofs.Report.Log

/-!
Stages and verdict of a run of the pipeline.

A run whose root document can be read produces the results of four stages, and
of a fifth if the basic check has passed. The report records them all. The
verdict rests on the two build checks alone: scanning and resolving have passed
whenever a later stage is reached, and writing placeholders does not count.
-/

namespace Manuscript

namespace Pipeline

/-! ### The results of the stages -/

/-- What the lookups of a run lead to, and the disk after them. -/
def askedIn (p : Pipeline) (rootText : Text) (d : Disk) : Asked × Disk :=
  p.lookUp (.resolve p.config.rootDir (p.scanner.scan rootText).references d) d

def stubbedIn (p : Pipeline) (rootText : Text) (d : Disk) : StageResult × Disk :=
  p.stubStage (p.askedIn rootText d).1.resolution (p.askedIn rootText d).2

def basicIn (p : Pipeline) (rootText : Text) (d : Disk) : CheckRun × Disk :=
  p.checker.runBasic p.config.rootDocument (p.stubbedIn rootText d).2

def fullIn (p : Pipeline) (rootText : Text) (d : Disk) : CheckRun × Disk :=
  p.checker.runFull p.config.rootDocument (p.basicIn rootText d).2

/-- The results that a run hands to its report, in this order. -/
def results (p : Pipeline) (d : Disk) : List StageResult :=
  match readDocument p.config.rootDocument d with
  | .error u => [.failure .scanning u.message]
  | .ok rootText =>
    [p.scanStage rootText, resolveStage (p.askedIn rootText d).1, (p.stubbedIn rootText d).1,
      buildStage .basicBuildTest (p.basicIn rootText d).1.result] ++
      if (p.basicIn rootText d).1.result.passed then
        [buildStage .fullBuildTest (p.fullIn rootText d).1.result]
      else []

theorem run_unreadable {p : Pipeline} {d : Disk} {u : Unreadable}
    (h : readDocument p.config.rootDocument d = .error u) :
    p.run d = (⟨(p.results d).foldl Report.push .empty, [], []⟩, d) := by
  rw [run, results, h]
  rfl

theorem run_basic_failed {p : Pipeline} {d : Disk} {rootText : Text}
    (h : readDocument p.config.rootDocument d = .ok rootText)
    (hbasic : (p.basicIn rootText d).1.result.passed = false) :
    p.run d = (⟨(p.results d).foldl Report.push .empty,
      (p.basicIn rootText d).1.request.toList, (p.askedIn rootText d).1.names⟩,
      (p.basicIn rootText d).2) := by
  rw [run, results, h]
  simp only [basicIn, stubbedIn, askedIn] at hbasic ⊢
  simp only [runScanned, hbasic]
  rfl

theorem run_complete {p : Pipeline} {d : Disk} {rootText : Text}
    (h : readDocument p.config.rootDocument d = .ok rootText)
    (hbasic : (p.basicIn rootText d).1.result.passed = true) :
    p.run d = (⟨(p.results d).foldl Report.push .empty,
      (p.basicIn rootText d).1.request.toList ++ (p.fullIn rootText d).1.request.toList,
      (p.askedIn rootText d).1.names⟩, (p.fullIn rootText d).2) := by
  rw [run, results, h]
  simp only [fullIn, basicIn, stubbedIn, askedIn] at hbasic ⊢
  simp only [runScanned, hbasic]
  rfl

/-! ### What the report records -/

@[simp] theorem stage_stubbedIn (p : Pipeline) (rootText : Text) (d : Disk) :
    (p.stubbedIn rootText d).1.stage = .stubbing := by
  rw [stubbedIn, stubStage]
  split
  next => rfl
  next => rfl

/-- A run stops early, or its results are those of all stages. -/
theorem results_cases (p : Pipeline) (d : Disk) :
    (∃ u, readDocument p.config.rootDocument d = .error u ∧
        p.results d = [.failure .scanning u.message]) ∨
      ∃ rootText, readDocument p.config.rootDocument d = .ok rootText ∧
        ((p.basicIn rootText d).1.result.passed = false ∧
            p.results d = [p.scanStage rootText, resolveStage (p.askedIn rootText d).1,
              (p.stubbedIn rootText d).1,
              buildStage .basicBuildTest (p.basicIn rootText d).1.result] ∨
          (p.basicIn rootText d).1.result.passed = true ∧
            p.results d = [p.scanStage rootText, resolveStage (p.askedIn rootText d).1,
              (p.stubbedIn rootText d).1,
              buildStage .basicBuildTest (p.basicIn rootText d).1.result,
              buildStage .fullBuildTest (p.fullIn rootText d).1.result]) := by
  cases hread : readDocument p.config.rootDocument d with
  | error u =>
      refine .inl ⟨u, rfl, ?_⟩
      rw [results, hread]
  | ok rootText =>
      refine .inr ⟨rootText, rfl, ?_⟩
      rw [results, hread]
      cases hbasic : (p.basicIn rootText d).1.result.passed with
      | false => exact .inl ⟨rfl, by simp [hbasic]⟩
      | true => exact .inr ⟨rfl, by simp [hbasic]⟩

theorem results_prefix (p : Pipeline) (d : Disk) :
    (p.results d).map (·.stage) <+: Stage.all := by
  rcases p.results_cases d with ⟨u, -, h⟩ | ⟨rootText, -, ⟨-, h⟩ | ⟨-, h⟩⟩
  · rw [h]
    exact ⟨_, rfl⟩
  · rw [h]
    simp only [List.map, stage_stubbedIn]
    exact ⟨_, rfl⟩
  · rw [h]
    simp only [List.map, stage_stubbedIn]
    exact ⟨_, rfl⟩

theorem report_run (p : Pipeline) (d : Disk) :
    (p.run d).1.report = (p.results d).foldl Report.push .empty := by
  cases hread : readDocument p.config.rootDocument d with
  | error u => rw [run_unreadable hread]
  | ok rootText =>
      cases hbasic : (p.basicIn rootText d).1.result.passed with
      | false => rw [run_basic_failed hread hbasic]
      | true => rw [run_complete hread hbasic]

theorem stages_run (p : Pipeline) (d : Disk) : (p.run d).1.report.stages = p.results d := by
  rw [report_run, Report.foldl_push]
  · rfl
  · exact StageResult.inOrder_of_prefix (p.results_prefix d)

/-! ### What is asked of the compiler -/

theorem askedIn_congr (p : Pipeline) (k : Compiler) (rootText : Text) (d : Disk) :
    { p with compiler := k }.askedIn rootText d = p.askedIn rootText d := rfl

theorem stubbedIn_congr (p : Pipeline) (k : Compiler) (rootText : Text) (d : Disk) :
    { p with compiler := k }.stubbedIn rootText d = p.stubbedIn rootText d := rfl

theorem scanStage_congr (p : Pipeline) (k : Compiler) (rootText : Text) :
    { p with compiler := k }.scanStage rootText = p.scanStage rootText := rfl

theorem basicIn_congr {p : Pipeline} {k : Compiler} {rootText : Text} {d : Disk}
    (h : ∀ r ∈ (p.basicIn rootText d).1.request, ∀ d₁, k.run r d₁ = p.compiler.run r d₁) :
    { p with compiler := k }.basicIn rootText d = p.basicIn rootText d := by
  rw [basicIn, stubbedIn_congr]
  exact Checker.runBasic_congr (c := p.checker) h

/-- A run depends on the compiler only through its answers to the requests made. -/
theorem run_congr {p : Pipeline} {k : Compiler} {d : Disk}
    (h : ∀ r ∈ (p.run d).1.requests, ∀ d₁, k.run r d₁ = p.compiler.run r d₁) :
    { p with compiler := k }.run d = p.run d := by
  cases hread : readDocument p.config.rootDocument d with
  | error u => rw [run, run, hread]
  | ok rootText =>
      cases hbasic : (p.basicIn rootText d).1.result.passed with
      | false =>
          rw [run_basic_failed hread hbasic] at h
          have hb := basicIn_congr fun r hr => h r (Option.mem_toList.mpr hr)
          rw [run_basic_failed hread hbasic, run_basic_failed (p := { p with compiler := k }) hread
            (by rw [hb, hbasic])]
          simp only [results, hread, askedIn_congr, stubbedIn_congr, scanStage_congr, hb, hbasic,
            Bool.false_eq_true, if_false]
      | true =>
          rw [run_complete hread hbasic] at h
          have hb := basicIn_congr fun r hr =>
            h r (List.mem_append_left _ (Option.mem_toList.mpr hr))
          have hf : { p with compiler := k }.fullIn rootText d = p.fullIn rootText d := by
            rw [fullIn, hb]
            exact Checker.run_congr (c := p.checker) fun r hr =>
              h r (List.mem_append_right _ (Option.mem_toList.mpr hr))
          rw [run_complete hread hbasic, run_complete (p := { p with compiler := k }) hread
            (by rw [hb, hbasic])]
          simp only [results, hread, askedIn_congr, stubbedIn_congr, scanStage_congr, hb, hf,
            hbasic]

end Pipeline

/-! ### The verdict -/

namespace Pipeline

end Pipeline

end Manuscript
