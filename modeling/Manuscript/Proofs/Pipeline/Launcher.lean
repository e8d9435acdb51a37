import Manuscript.Build.Launcher
import Manuscript.Proofs.Pipeline.Preservation

/-!
Compilers and lookups that are programs, whatever starts them.

A program that could not be started leaves the disk as it was. So the compiler
and the lookup touch what their programs touch, and what a check or a lookup
comes to depends on how the program has ended and on what it has left.
-/

namespace Manuscript.Launcher

open Disk

variable {l : Launcher} {program : String} {arguments extraArgs : List String}
  {directory : Location} {deadline : Nat} {d d' : Disk} {result : Result} {ps : List Path}

/-! ### Starting a program -/

theorem start_eq_ok_iff :
    l.start program arguments directory deadline d = (.ok result, d') ↔
      (∀ word ∈ program :: arguments, '\x00' ∉ word.toList) ∧
        ∃ after, l.launch program arguments deadline { d with cwd := directory } =
          .ok (result, after) ∧ { after with cwd := d.cwd } = d' := by
  have hwords : (program :: arguments).any (·.toList.contains '\x00') = false ↔
      ∀ word ∈ program :: arguments, '\x00' ∉ word.toList := by
    rw [List.any_eq_false]
    exact forall₂_congr fun word _ => by simp
  rw [start, ← hwords]
  cases hany : (program :: arguments).any (·.toList.contains '\x00') with
  | true => simp
  | false =>
      cases hlaunch : l.launch program arguments deadline { d with cwd := directory } with
      | error e => simp
      | ok outcome => simp [Prod.ext_iff]

theorem disk_of_start_error {e : StartError}
    (h : l.start program arguments directory deadline d = (.error e, d')) : d' = d := by
  rw [start] at h
  split at h
  next => exact (Prod.mk.inj h).2.symm
  next =>
    split at h
    next => exact (Prod.mk.inj h).2.symm
    next => cases h

/-- Started with these arguments, a program touches nothing but what is at the paths, which are
those of the directory that it is started from. -/
def Confined (l : Launcher) (program : String) (arguments : List String) (deadline : Nat)
    (ps : List Path) : Prop :=
  ∀ (d : Disk) directory result after, d.LinkFree →
    l.launch program arguments deadline { d with cwd := directory } = .ok (result, after) →
      d.Touches { after with cwd := d.cwd } ps

theorem Confined.start_touches (hl : l.Confined program arguments deadline ps) (h : d.LinkFree)
    (directory : Location) :
    d.Touches (l.start program arguments directory deadline d).2 ps := by
  rcases hstart : l.start program arguments directory deadline d with ⟨e | result, d'⟩
  · obtain rfl := disk_of_start_error hstart
    exact (Touches.refl h).mono (List.nil_subset _)
  · obtain ⟨-, after, hlaunch, rfl⟩ := start_eq_ok_iff.mp hstart
    exact hl d directory result after h hlaunch

/-! ### The compiler -/

theorem compiler_writesArtifact
    (hl : ∀ request : CompileRequest, l.Confined program (request.arguments extraArgs)
      request.timeoutMs [request.expectedArtifact]) :
    (l.compiler program extraArgs).WritesArtifact := by
  intro request d h
  simp only [compiler]
  split
  next directory _ => exact (hl request).start_touches h directory
  next => exact (Touches.refl h).mono (List.nil_subset _)

theorem compilerAnswer_notFound_iff {outcome : Except StartError Result} :
    (∃ name, compilerAnswer program deadline outcome = .error (.notFound name)) ↔
      outcome = .error (.system .notFound) := by
  match outcome with
  | .error .nulCharacter => simp [compilerAnswer]
  | .error (.system e) => cases e <;> simp [compilerAnswer]
  | .ok ⟨.exited status, out, err⟩ => simp [compilerAnswer]
  | .ok ⟨.killed, out, err⟩ => simp [compilerAnswer]
  | .ok ⟨.outOfTime, out, err⟩ => simp [compilerAnswer]

theorem compilerAnswer_success_iff {outcome : Except StartError Result} :
    (∃ output, compilerAnswer program deadline outcome = .ok output ∧ output.success = true) ↔
      ∃ result, outcome = .ok result ∧ result.ending = .exited 0 := by
  match outcome with
  | .error .nulCharacter => simp [compilerAnswer]
  | .error (.system e) => cases e <;> simp [compilerAnswer]
  | .ok ⟨.exited status, out, err⟩ => simp [compilerAnswer]
  | .ok ⟨.killed, out, err⟩ => simp [compilerAnswer]
  | .ok ⟨.outOfTime, out, err⟩ => simp [compilerAnswer]

/-- A check by a program passes only if there is no such program, and then vacuously, or if the
program has ended with status zero and has left an artifact that is large enough. -/
theorem run_passed (l : Launcher) {c : Checker} (hc : c.compiler = l.compiler program extraArgs)
    (kind : CheckKind) (document : Path) (d : Disk) :
    let request := c.request document d
    let check := c.run kind document d
    check.1.result.passed = true →
      ∃ d₁ directory, d₁.at? request.workingDir = some (directory, .directory) ∧
        let started :=
          l.start program (request.arguments extraArgs) directory request.timeoutMs d₁
        (started.1 = .error (.system .notFound) ∧ check.1.result.vacuous = true) ∨
          ∃ result n, started.1 = .ok result ∧ result.ending = .exited 0 ∧
            started.2.fileSize? request.expectedArtifact = some n ∧ c.minArtifactBytes < n ∧
            check.1.result.vacuous = false := by
  intro request check hpassed
  have hcheck : check = c.run kind document d := rfl
  rcases c.run_cases kind document d with ⟨e, d₁, -, hrun⟩ | ⟨d₁, e, d₂, -, -, hrun⟩ |
      ⟨d₁, parked, d₂, answer, d₃, -, -, hanswer, hrun⟩
  · rw [hcheck, hrun] at hpassed
    cases hpassed
  · rw [hcheck, hrun] at hpassed
    cases hpassed
  · obtain ⟨-, hverdict, hvacuous⟩ := c.judge_verdict kind document request.expectedArtifact
      (d₃.fileSize? request.expectedArtifact) answer
    rw [hcheck, hrun] at hpassed ⊢
    rw [hc, compiler] at hanswer
    dsimp only at hanswer
    split at hanswer
    next directory hat =>
      obtain ⟨rfl, rfl⟩ := Prod.mk.inj hanswer
      refine ⟨d₂, directory, hat, ?_⟩
      rcases hverdict.mp hpassed with hnone | ⟨output, n, houtput, hsuccess, hsize, hlarge⟩
      · exact .inl ⟨compilerAnswer_notFound_iff.mp hnone, hvacuous.mpr hnone⟩
      · obtain ⟨result, hstarted, hending⟩ :=
          compilerAnswer_success_iff.mp ⟨output, houtput, hsuccess⟩
        refine .inr ⟨result, n, hstarted, hending, hsize, hlarge, ?_⟩
        rw [Bool.eq_false_iff]
        intro hnone
        obtain ⟨name, hname⟩ := hvacuous.mp hnone
        cases houtput.symm.trans hname
    -- without its directory the compiler was not started
    next =>
      obtain ⟨rfl, -⟩ := Prod.mk.inj hanswer
      rcases hverdict.mp hpassed with ⟨name, hnone⟩ | ⟨output, n, houtput, -⟩
      · cases hnone
      · cases houtput

/-! ### The package lookup -/

theorem locator_onlyAsks
    (hl : ∀ name, l.Confined program [String.join [name, ".sty"]] lookupTime []) :
    (l.locator program).OnlyAsks :=
  fun name d h => (hl name).start_touches h d.cwd

/-- A lookup finds what its program prints, if the program has ended with status zero, and cannot
be asked if the program could not be started or has taken too long. -/
theorem locate_cases (l : Launcher) (program name : String) (d : Disk) :
    let started := l.start program [String.join [name, ".sty"]] d.cwd lookupTime d
    let found (result : Result) : Text := (Text.ofBytes ⟨result.stdout.toArray⟩).trim
    let lookup := ((l.locator program).locate name d).1
    (∀ p, lookup = .found p ↔ ∃ result, started.1 = .ok result ∧ result.ending = .exited 0 ∧
        found result ≠ [] ∧ ⟨found result⟩ = p) ∧
      ((∃ reason, lookup = .unavailable reason) ↔
        (∃ e, started.1 = .error e) ∨
          ∃ result, started.1 = .ok result ∧ result.ending = .outOfTime) := by
  intro started found lookup
  have hlookup : lookup = lookupAnswer program started.1 := rfl
  rw [hlookup]
  match started.1 with
  | .error .nulCharacter => simp [lookupAnswer]
  | .error (.system e) => cases e <;> simp [lookupAnswer]
  | .ok ⟨.killed, out, err⟩ => simp [lookupAnswer]
  | .ok ⟨.outOfTime, out, err⟩ => simp [lookupAnswer]
  | .ok ⟨.exited (status + 1), out, err⟩ => simp [lookupAnswer]
  | .ok ⟨.exited 0, out, err⟩ =>
      by_cases hempty : (Text.ofBytes ⟨out.toArray⟩).trim = []
      · simp [lookupAnswer, found, hempty]
      · simp [lookupAnswer, found, hempty]

end Manuscript.Launcher
