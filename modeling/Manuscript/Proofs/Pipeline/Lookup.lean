import Manuscript.Proofs.Pipeline.Verdict
import Manuscript.Proofs.Project.Providing
import Manuscript.Proofs.Project.Stubbing

/-!
Asking the distribution for missing packages.

The candidates are asked for in order, each once, until the distribution turns
out to be unavailable. What it provides goes out of the missing files, so no
placeholder is written for it, and everything else that was missing stays.
-/

namespace Manuscript

namespace Lookup

end Lookup

namespace Pipeline

variable {answer : String → Lookup} {name : String} {names : List String} {r : Resolution}
  {d : Disk}

/-! ### What is asked for -/

def placeholders (p : Pipeline) (r : Resolution) (d : Disk) : List MissingFile :=
  if p.config.generateStubs then Stub.made p.date r.missing d else []

theorem stubStage_data (p : Pipeline) (r : Resolution) (d : Disk) : ∃ failed,
    (p.stubStage r d).1.data = .stub ((p.placeholders r d).map (·.expectedPath)) failed := by
  rw [stubStage, placeholders]
  split
  next =>
    rw [← (Stub.generateAll_accounts p.date r.missing d).created]
    exact ⟨_, rfl⟩
  next => exact ⟨[], rfl⟩

section

variable (p : Pipeline) (base : Path) (references : List Reference)

end

end Pipeline

end Manuscript
