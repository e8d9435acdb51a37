import Manuscript.Proofs.Build.Preservation
import Manuscript.Proofs.Pipeline.Lookup
import Manuscript.Proofs.Project.Inside

/-!
The files that a run of the pipeline leaves as they are.

Placeholders are written over whatever there may be, but only for references
whose file is missing, and these lead to no file that was there before the run.
All else that a run writes goes to a few paths of its own: the basic document,
the artifacts of the two build checks, and the places where earlier artifacts
wait.
-/

namespace Manuscript

open Disk

def Locator.OnlyAsks (l : Locator) : Prop :=
  ∀ (name : String) (d : Disk), d.LinkFree → d.Touches (l.locate name d).2 []

/-- The placeholders that the stage of stubbing lists as created. -/
def Report.created (r : Report) : List Path :=
  match r.stage? .stubbing with
  | some ⟨_, _, _, _, .stub created _, _⟩ => created
  | _ => []

namespace Pipeline

variable {p : Pipeline} {d : Disk} {rootText : Text}

/-! ### Looking up packages -/

theorem askFor_missing (l : Locator) (names : List String) (r : Resolution) (d : Disk) :
    (askFor l names r d).1.resolution.missing ⊆ r.missing := by
  induction names generalizing r d with
  | nil => exact List.Subset.refl _
  | cons name names ih =>
      rw [askFor]
      split
      next => exact List.Subset.refl _
      next => exact ih r _
      next => exact List.Subset.trans (ih _ _) (List.filter_subset_self _)

theorem askFor_touches {l : Locator} (hl : l.OnlyAsks) (h : d.LinkFree) (names : List String)
    (r : Resolution) : d.Touches (askFor l names r d).2 [] := by
  induction names generalizing r d with
  | nil => exact .refl h
  | cons name names ih =>
      have hasks := hl name d h
      rw [askFor]
      split
      next heq => rwa [heq] at hasks
      next heq =>
        rw [heq] at hasks
        exact hasks.trans (ih hasks.growth.linkFree r)
      next heq =>
        rw [heq] at hasks
        exact hasks.trans (ih hasks.growth.linkFree _)

theorem askedIn_missing {m : MissingFile}
    (hm : m ∈ (p.askedIn rootText d).1.resolution.missing) :
    m.expectedPath = m.reference.expectedPath p.config.rootDir ∧
      d.holdsFile m.expectedPath = false := by
  have hsubset : (p.askedIn rootText d).1.resolution.missing ⊆
      (Resolution.resolve p.config.rootDir (p.scanner.scan rootText).references d).missing := by
    rw [askedIn, lookUp]
    split
    next => exact List.Subset.refl _
    next => exact askFor_missing _ _ _ _
  exact (Resolution.mem_missing_resolve (hsubset hm)).2

theorem askedIn_touches (hl : ∀ l ∈ p.locator, l.OnlyAsks) (rootText : Text) (h : d.LinkFree) :
    d.Touches (p.askedIn rootText d).2 [] := by
  rw [askedIn, lookUp]
  split
  next => exact .refl h
  next l heq => exact askFor_touches (hl l heq) h _ _

/-! ### The placeholders of a run -/

/-- The missing files for which a run means to make placeholders. -/
def wanted (p : Pipeline) (rootText : Text) (d : Disk) : List MissingFile :=
  if p.config.generateStubs then Stub.inside (p.askedIn rootText d).1.resolution.missing else []

def stubs (p : Pipeline) (rootText : Text) (d : Disk) : List MissingFile :=
  if p.config.generateStubs then
    Stub.made p.date (p.askedIn rootText d).1.resolution.missing (p.askedIn rootText d).2
  else []

theorem stubbedIn_data (p : Pipeline) (rootText : Text) (d : Disk) : ∃ failed,
    (p.stubbedIn rootText d).1.data =
      .stub ((p.stubs rootText d).map (·.expectedPath)) failed :=
  p.stubStage_data (p.askedIn rootText d).1.resolution (p.askedIn rootText d).2

theorem stubbedIn_touches (h : (p.askedIn rootText d).2.LinkFree) :
    (p.askedIn rootText d).2.Touches (p.stubbedIn rootText d).2
      ((p.wanted rootText d).map (·.expectedPath)) := by
  rw [stubbedIn, stubStage, wanted]
  split
  next => exact Stub.generateAll_touches h _ _
  next => exact .refl h

theorem stubbedIn_touches_stubs (h : (p.askedIn rootText d).2.LinkFree)
    (htakes : (p.askedIn rootText d).2.TakesWrites) :
    (p.askedIn rootText d).2.Touches (p.stubbedIn rootText d).2
      ((p.stubs rootText d).map (·.expectedPath)) := by
  rw [stubbedIn, stubStage, stubs]
  split
  next => exact Stub.generateAll_touches_made h htakes _ _
  next => exact .refl h

theorem created_run (h : readDocument p.config.rootDocument d = .ok rootText) :
    (p.run d).1.report.created = (p.stubs rootText d).map (·.expectedPath) := by
  obtain ⟨failed, hdata⟩ := p.stubbedIn_data rootText d
  have hstage : (p.run d).1.report.stage? .stubbing = some (p.stubbedIn rootText d).1 := by
    simp only [Report.stage?, stages_run, results, h]
    simp [scanStage, resolveStage, StageResult.of]
  rw [Report.created, hstage]
  cases hresult : (p.stubbedIn rootText d).1 with
  | mk stage passed errors warnings data durationMs =>
      rw [hresult] at hdata
      obtain rfl := hdata
      rfl

theorem created_run_unreadable {u : Unreadable}
    (h : readDocument p.config.rootDocument d = .error u) : (p.run d).1.report.created = [] := by
  simp only [Report.created, Report.stage?, stages_run, results, h]
  rfl

/-! ### The whole run -/

/-- The paths that the build checks of a run write to. -/
def ownPaths (p : Pipeline) (d : Disk) : List Path :=
  let basicDocument := BasicDocument.path p.config.rootDocument
  let basicArtifact := (p.checker.request basicDocument d).expectedArtifact
  let artifact := (p.checker.request p.config.rootDocument d).expectedArtifact
  [basicDocument, basicArtifact, artifact, Checker.parkedPath basicArtifact,
    Checker.parkedPath artifact]

/-- What a run leaves of the files that were there, and which files it adds. -/
structure Preserves (p : Pipeline) (d : Disk) (report : Report) (d' : Disk) : Prop where
  directories : ∀ l, d.entry? l = some .directory → d'.entry? l = some .directory
  kept : ∀ l bytes, d.file? l = some bytes →
    d'.file? l = some bytes ∨ ∃ q ∈ p.ownPaths d, d'.LeadsTo q l
  /-- A placeholder that takes no bytes once it is created would stay behind empty, and unlisted. -/
  added : d.TakesWrites → ∀ l, d.file? l = none → d'.file? l ≠ none →
    (∃ q ∈ p.ownPaths d, d'.LeadsTo q l) ∨ ∃ q ∈ report.created, d'.LeadsTo q l
  unstubbed : p.config.generateStubs = false → report.created = []
  basicDocument : Apart (BasicDocument.path p.config.rootDocument) p.config.rootDocument
  artifacts : Apart
    (p.checker.request (BasicDocument.path p.config.rootDocument) d).expectedArtifact
    (p.checker.request p.config.rootDocument d).expectedArtifact

theorem leads_of_readDocument (h : d.LinkFree)
    (hread : readDocument p.config.rootDocument d = .ok rootText) :
    ∃ o name, d.Leads p.config.rootDocument o name := by
  cases hbytes : d.read p.config.rootDocument with
  | error f => simp [readDocument, readText, hbytes] at hread
  | ok bytes =>
      obtain ⟨o, name, x, hleads, -⟩ := h.leads_of_read hbytes
      exact ⟨o, name, hleads⟩

/-- A placeholder is wanted where no file was. -/
theorem file?_of_wanted (h : d.LinkFree)
    (hread : readDocument p.config.rootDocument d = .ok rootText) {d' : Disk} (hd : d.Extends d')
    {m : MissingFile} (hm : m ∈ p.wanted rootText d) {l : Location}
    (hleads : d'.LeadsTo m.expectedPath l) : d.file? l = none := by
  obtain ⟨o, name, hroot⟩ := p.leads_of_readDocument h hread
  rw [wanted] at hm
  split at hm
  next =>
    obtain ⟨hmissing, hinside⟩ := List.mem_filter.mp hm
    obtain ⟨hexpected, hnone⟩ := askedIn_missing hmissing
    rw [hexpected] at hnone hleads
    exact Stub.file?_eq_none h hd (h.enters_directory hroot) hinside hnone hleads
  next => exact absurd hm List.not_mem_nil

/-- A run touches its own paths and what the stage of stubbing touches. -/
theorem run_touches (h : d.LinkFree) (hk : p.compiler.WritesArtifact)
    (hl : ∀ l ∈ p.locator, l.OnlyAsks)
    (hread : readDocument p.config.rootDocument d = .ok rootText) {stubs : List Path}
    (hstubs : (p.askedIn rootText d).2.Touches (p.stubbedIn rootText d).2 stubs) :
    d.Touches (p.run d).2 (p.ownPaths d ++ stubs) := by
  obtain ⟨o, name, hroot⟩ := p.leads_of_readDocument h hread
  have hasked := p.askedIn_touches hl rootText h
  have hstubbed : d.Touches (p.stubbedIn rootText d).2 stubs :=
    (hasked.mono (List.nil_subset _)).trans hstubs
  have hbasic : d.Touches (p.basicIn rootText d).2 (p.ownPaths d ++ stubs) := by
    have htouches := p.checker.runBasic_touches hk h hstubbed.growth hroot
    exact (hstubbed.mono (List.subset_append_right _ _)).trans
      (htouches.mono (by simp [ownPaths]))
  cases hpassed : (p.basicIn rootText d).1.result.passed with
  | false =>
      rw [run_basic_failed hread hpassed]
      exact hbasic
  | true =>
      rw [run_complete hread hpassed]
      have hrequest := p.checker.request_of_extends h hbasic.growth (h.enters_directory hroot)
      have hfull := p.checker.run_touches hk hbasic.growth.linkFree .full p.config.rootDocument
      rw [hrequest] at hfull
      exact hbasic.trans (hfull.mono (by simp [ownPaths]))

/-- No run destroys a file, except for what is at the paths of its build checks. -/
theorem run_preserves (p : Pipeline) (h : d.LinkFree) (hk : p.compiler.WritesArtifact)
    (hl : ∀ l ∈ p.locator, l.OnlyAsks) : p.Preserves d (p.run d).1.report (p.run d).2 := by
  have hbasicDocument := BasicDocument.apart_path p.config.rootDocument
  have hartifacts := p.checker.apart_artifacts p.config.rootDocument d
  cases hread : readDocument p.config.rootDocument d with
  | error u =>
      have hcreated := created_run_unreadable hread
      have hdisk : (p.run d).2 = d := by rw [run_unreadable hread]
      rw [hdisk]
      exact ⟨fun _ => id, fun _ _ => .inl, fun _ l hnone hsome => absurd hnone hsome,
        fun _ => hcreated, hbasicDocument, hartifacts⟩
  | ok rootText =>
      have hasked := p.askedIn_touches hl rootText h
      have htouches := run_touches h hk hl hread (stubbedIn_touches hasked.growth.linkFree)
      have hcreated := created_run hread
      refine ⟨htouches.growth.directory, fun l bytes hfile => ?_, fun htakes l hnone hsome => ?_,
        fun hoff => ?_, hbasicDocument, hartifacts⟩
      · rcases htouches.file l with hsame | ⟨q, hq, hleads⟩
        · exact .inl (hsame.trans hfile)
        · rcases List.mem_append.mp hq with hown | hstub
          · exact .inr ⟨q, hown, hleads⟩
          · obtain ⟨m, hm, rfl⟩ := List.mem_map.mp hstub
            rw [file?_of_wanted h hread htouches.growth hm hleads] at hfile
            cases hfile
      · have hmade := run_touches h hk hl hread
          (stubbedIn_touches_stubs hasked.growth.linkFree (htakes.congr hasked.growth.refuses))
        rcases hmade.file l with hsame | ⟨q, hq, hleads⟩
        · exact absurd (hsame.trans hnone) hsome
        · rcases List.mem_append.mp hq with hown | hstub
          · exact .inl ⟨q, hown, hleads⟩
          · exact .inr ⟨q, hcreated ▸ hstub, hleads⟩
      · rw [hcreated, stubs, hoff, if_neg Bool.false_ne_true]
        rfl

def fiveBytePipeline : Pipeline where
  config := { minArtifactBytes := 4 }
  compiler := Checker.fiveByteChecker.compiler
  locator := some (.ofInstalled ["amsmath"])
  date := "2024/05/01"

/-- A root document that includes a part which is there and one which is not, and an artifact. -/
def halfWritten : Disk :=
  .ofTree ["w".toList]
    [(["w".toList, "main.tex".toList],
        .file (.ofText "\\input\x7bone\x7d\n\\input\x7btwo\x7d\n".toList) false),
      (["w".toList, "one.tex".toList], .file [1] false),
      (["w".toList, "main.pdf".toList], .file [7, 8, 9] false)]

theorem halfWritten_linkFree : halfWritten.LinkFree :=
  .of_entries (by decide) (by decide) (by decide)

theorem run_preserves_halfWritten :
    halfWritten.LinkFree ∧ halfWritten.TakesWrites ∧ fiveBytePipeline.compiler.WritesArtifact ∧
      (∀ l ∈ fiveBytePipeline.locator, l.OnlyAsks) ∧
      (fiveBytePipeline.run halfWritten).1.report.created = [.ofString "./two.tex"] ∧
      fiveBytePipeline.Preserves halfWritten (fiveBytePipeline.run halfWritten).1.report
        (fiveBytePipeline.run halfWritten).2 := by
  have htakes : halfWritten.TakesWrites := fun _ _ => rfl
  have hcompiler : fiveBytePipeline.compiler.WritesArtifact :=
    fun request _ h => h.write_touches request.expectedArtifact Checker.fiveBytes
  have hlocator : ∀ l ∈ fiveBytePipeline.locator, l.OnlyAsks := by
    intro l hl
    obtain rfl := Option.some.inj hl
    exact fun _ _ h => .refl h
  exact ⟨halfWritten_linkFree, htakes, hcompiler, hlocator, by decide +kernel,
    run_preserves fiveBytePipeline halfWritten_linkFree hcompiler hlocator⟩

end Pipeline

end Manuscript
