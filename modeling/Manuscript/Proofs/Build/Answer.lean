import Manuscript.Build.Check

/-!
How a build check ends.

A check ends before the compiler is asked if its output directory cannot be
created or an earlier artifact cannot be moved aside, and otherwise with what it
makes of the compiler's answer. It lists errors exactly if it has not passed,
and it has passed only if the compiler was asked.
-/

namespace Manuscript.Checker

@[simp] theorem errors_pending (kind : CheckKind) (document artifact : Path) :
    (CheckResult.pending kind document artifact).errors = [] := rfl

@[simp] theorem passed_pending (kind : CheckKind) (document artifact : Path) :
    (CheckResult.pending kind document artifact).passed = false := rfl

/-- The steps of a check: it stops at the directory, stops at the earlier artifact, or asks. -/
theorem run_cases (c : Checker) (kind : CheckKind) (document : Path) (d : Disk) :
    let request := c.request document d
    let artifact := request.expectedArtifact
    let pending := CheckResult.pending kind document artifact
    (∃ e d₁, d.ensureDir request.outputDir = (.error e, d₁) ∧
        c.run kind document d =
          (⟨{ pending with
              errors := [String.join ["Could not create output directory: ", e.message]] },
            none⟩, d₁)) ∨
      (∃ d₁ e d₂, d.ensureDir request.outputDir = (.ok (), d₁) ∧
        park artifact d₁ = (.error e, d₂) ∧
        c.run kind document d = (⟨{ pending with errors := [e.message] }, none⟩, d₂)) ∨
      ∃ d₁ parked d₂ answer d₃, d.ensureDir request.outputDir = (.ok (), d₁) ∧
        park artifact d₁ = (.ok parked, d₂) ∧
        c.compiler.run request d₂ = (answer, d₃) ∧
        c.run kind document d =
          (⟨c.judge pending (d₃.fileSize? artifact) answer, some request⟩,
            settleParked artifact parked d₃) := by
  intro request artifact pending
  rcases hensure : d.ensureDir request.outputDir with ⟨e | ⟨⟩, d₁⟩
  · refine .inl ⟨e, d₁, rfl, ?_⟩
    rw [run, hensure]
  · rcases hpark : park artifact d₁ with ⟨e | parked, d₂⟩
    · refine .inr (.inl ⟨d₁, e, d₂, rfl, hpark, ?_⟩)
      rw [run, hensure]
      simp only [artifact, request] at hpark
      simp only [hpark]
      rfl
    · refine .inr (.inr ⟨d₁, parked, d₂, _, _, rfl, hpark, rfl, ?_⟩)
      rw [run, hensure]
      simp only [artifact, request] at hpark
      simp only [hpark]
      rfl

/-- A check depends on the compiler only through its answer to the request made. -/
theorem run_congr {c : Checker} {k : Compiler} {kind : CheckKind} {document : Path} {d : Disk}
    (h : ∀ r ∈ (c.run kind document d).1.request, ∀ d₁, k.run r d₁ = c.compiler.run r d₁) :
    { c with compiler := k }.run kind document d = c.run kind document d := by
  have hrequest : { c with compiler := k }.request document d = c.request document d := rfl
  rcases hensure : d.ensureDir (c.request document d).outputDir with ⟨e | ⟨⟩, d₁⟩
  · rw [run, run, hrequest, hensure]
  · rcases hpark : park (c.request document d).expectedArtifact d₁ with ⟨e | parked, d₂⟩
    · rw [run, run, hrequest, hensure]
      simp only [hpark]
    · have hrun : (c.run kind document d).1.request = some (c.request document d) := by
        rw [run, hensure]
        simp only [hpark]
      have hanswer := h _ (by rw [hrun]; rfl) d₂
      rw [run, run, hrequest, hensure]
      simp only [hpark, hanswer]
      rfl

/-! ### The basic check -/

theorem runBasic_congr {c : Checker} {k : Compiler} {root : Path} {d : Disk}
    (h : ∀ r ∈ (c.runBasic root d).1.request, ∀ d₁, k.run r d₁ = c.compiler.run r d₁) :
    { c with compiler := k }.runBasic root d = c.runBasic root d := by
  rw [runBasic] at h
  rw [runBasic, runBasic]
  cases hload : d.loadText root with
  | error e => rfl
  | ok rootText =>
      rcases hstore : d.storeText (BasicDocument.path root) (BasicDocument.text rootText) with
        ⟨e | ⟨⟩, d₁⟩
      · simp only [hstore]
      · simp only [hload, hstore] at h
        simp only [hstore, run_congr h]

end Manuscript.Checker
