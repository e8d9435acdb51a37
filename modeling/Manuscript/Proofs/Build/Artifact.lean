import Manuscript.Proofs.Build.Answer
import Manuscript.Proofs.Disk.Naming
import Manuscript.Proofs.Disk.Operation

/-!
What a build check does to the artifact of an earlier run.

The earlier artifact waits beside its place under another name, so the file
that is at its place when the compiler has answered is one that the compiler
wrote. The check judges this file, and afterwards either it or the earlier
artifact is there, and nothing waits any more.
-/

namespace Manuscript

namespace CompileRequest

def artifactName (r : CompileRequest) : Text :=
  r.document.fileStem ++ ".pdf".toList

theorem parts_expectedArtifact (r : CompileRequest) :
    ∃ before, r.expectedArtifact.parts = before ++ [r.artifactName] := by
  refine Path.exists_parts_join ?_
  simp only [List.mem_append, not_or]
  exact ⟨Path.slash_not_mem_fileStem _, by decide⟩

end CompileRequest

/-- A text that is long enough is a name. -/
theorem Path.component?_of_length {name : Text} (h : 3 ≤ name.length) :
    component? name = some (.normal name) := by
  rw [component?_eq_normal_iff]
  refine ⟨?_, ?_, ?_⟩
  all_goals
    rintro rfl
    simp at h

namespace Checker

open Disk

variable {d d' : Disk} {p : Path} {o : Location} {before : List Text} {name : Text}

def waiting : Text :=
  ".previous".toList

/-- An earlier artifact cannot wait at a path. -/
def Blocked (d : Disk) (parked : Path) : Prop :=
  usable parked ≠ .ok () ∨ maxNameBytes < parked.fileName.byteSize ∨ d.holdsDirectory parked = true

structure Waits (d : Disk) (p : Path) (o : Location) (name : Text) (old : Bytes) : Prop where
  plain : d.Plain
  artifact : d.Leads p o name
  aside : d.Leads (parkedPath p) o (name ++ waiting)
  vacant : d.entry? (o ++ [name]) = none
  parked : ∃ x, d.entry? (o ++ [name ++ waiting]) = some (.file old x)

theorem ne_waiting (name : Text) : name ≠ name ++ waiting := by
  intro h
  exact absurd (List.append_right_eq_self.mp h.symm) (by decide)

section

variable (hparts : p.parts = before ++ [name]) (hname : 3 ≤ name.length)
include hparts hname

theorem names_artifact : Names p name :=
  (names_of_parts hparts (Path.component?_of_length hname)).1

theorem names_parkedPath : Names (parkedPath p) (name ++ waiting) := by
  obtain ⟨others, hothers, -⟩ := Path.components_withSuffix hparts
    (Path.component?_of_length hname) (by decide : '/' ∉ waiting)
  exact (names_of_parts hothers (Path.component?_append (Path.component?_of_length hname) _)).1

theorem fileName_parkedPath : (parkedPath p).fileName = name ++ waiting :=
  Path.fileName_withSuffix hparts (Path.component?_of_length hname) (by decide : '/' ∉ waiting)

/-- An earlier artifact is moved aside, unless its waiting place is blocked. -/
theorem park_of_file (h : d.Plain) (hp : d.Leads p o name) {old : Bytes} {x : Bool}
    (hfile : d.entry? (o ++ [name]) = some (.file old x)) :
    (∃ e, park p d = (.error e, d) ∧ Blocked d (parkedPath p)) ∨
      ∃ given, park p d = (.ok (some (parkedPath p)), given) ∧ Waits given p o name old := by
  have hcomponent := Path.component?_of_length hname
  have hnames := names_parkedPath hparts hname
  have hholds : d.holdsFile p = true := (h.read_of_file hp hfile).2.2
  cases husable : usable (parkedPath p) with
  | error f =>
      obtain ⟨g, hrename⟩ := rename_of_unusable d p husable
      refine .inl ⟨.moving p (parkedPath p) g, ?_, .inl (by simp [husable])⟩
      rw [park, if_pos hholds, moveFile, hrename]
  | ok u =>
      have ho := h.linkFree.holder_withSuffix hparts hcomponent (by decide) hp.holder husable
      have hrename := h.rename_of_leads hp hnames ho (ne_waiting name) ⟨old, x, hfile⟩
      by_cases hshort : maxNameBytes < (name ++ waiting).byteSize
      · rw [if_pos hshort] at hrename
        refine .inl ⟨.moving p (parkedPath p) (.os .nameTooLong), ?_, .inr (.inl ?_)⟩
        · rw [park, if_pos hholds, moveFile, hrename]
        · rwa [fileName_parkedPath hparts hname]
      · have hparked : d.Leads (parkedPath p) o (name ++ waiting) := ⟨hnames, ho, hshort⟩
        rw [if_neg hshort] at hrename
        by_cases hdir : d.entry? (o ++ [name ++ waiting]) = some .directory
        · rw [if_pos hdir] at hrename
          refine .inl ⟨.moving p (parkedPath p) (.os .isDirectory), ?_, .inr (.inr ?_)⟩
          · rw [park, if_pos hholds, moveFile, hrename]
          · rw [holdsDirectory, h.linkFree.at?_of_leads hparked, hdir]
            rfl
        · rw [if_neg hdir] at hrename
          obtain ⟨hd, -, hold, hvacant⟩ := h.linkFree.replace (h.linkFree.directory_of_leads hp)
            (ne_waiting name) hfile hdir
          refine .inr ⟨_, ?_, h.of_changesFiles hd, ?_, ?_, hvacant, x, hold⟩
          · rw [park, if_pos hholds, moveFile, hrename]
          · exact hp.of_changesFiles h.linkFree hd
          · exact hparked.of_changesFiles h.linkFree hd

end

/-! ### Settling -/

namespace Waits

variable {old bytes : Bytes} {after : Disk}

theorem settle_unwritten (h : Waits d p o name old) :
    d.fileSize? p = none ∧ (settle p (parkedPath p) d).read p = .ok old ∧
      (settle p (parkedPath p) d).holds (parkedPath p) = false := by
  obtain ⟨x, hparked⟩ := h.parked
  have hlink := h.plain.linkFree
  have hsize := (hlink.holds_of_none h.artifact h.vacant).2
  have hholds : d.holdsFile p = false := by
    rw [holdsFile, hlink.at?_of_leads h.artifact, h.vacant]
    rfl
  have hfree : d.entry? (o ++ [name]) ≠ some .directory := by simp [h.vacant]
  have hrename := h.plain.rename_of_leads h.aside h.artifact.names h.artifact.holder
    (Ne.symm (ne_waiting name)) ⟨old, x, hparked⟩
  rw [if_neg h.artifact.short, if_neg hfree] at hrename
  obtain ⟨hd, hlink', hback, hgone⟩ := hlink.replace (hlink.directory_of_leads h.artifact)
    (Ne.symm (ne_waiting name)) hparked hfree
  have hplain' := h.plain.of_changesFiles hd
  rw [settle, hholds, if_neg Bool.false_ne_true, moveFile, hrename]
  exact ⟨hsize, (hplain'.read_of_file (h.artifact.of_changesFiles hlink hd) hback).1,
    (hlink'.holds_of_none (h.aside.of_changesFiles hlink hd) hgone).1⟩

theorem settle_written (h : Waits d p o name old) (hw : d.write p bytes = (.ok (), after)) :
    after.fileSize? p = some bytes.length ∧
      (settle p (parkedPath p) after).read p = .ok bytes ∧
      (settle p (parkedPath p) after).holds (parkedPath p) = false := by
  obtain ⟨x, hparked⟩ := h.parked
  have hlink := h.plain.linkFree
  obtain ⟨loc, hleads, hd, hhere, hothers⟩ := hlink.write_ok hw
  obtain rfl : o ++ [name] = loc := h.artifact.leadsTo.unique hleads
  obtain ⟨y, hnew⟩ := file?_eq_some_iff.mp hhere
  have hplain := h.plain.of_changesFiles hd
  have hartifact := h.artifact.of_changesFiles hlink hd
  have haside := h.aside.of_changesFiles hlink hd
  obtain ⟨-, hsize, hholds⟩ := hplain.read_of_file hartifact hnew
  -- the bytes went to the artifact alone, so the earlier one still waits beside it
  have hloc : o ++ [name] ≠ o ++ [name ++ waiting] := by simpa using ne_waiting name
  have hwaits : after.entry? (o ++ [name ++ waiting]) = some (.file old x) := by
    rw [hothers _ hloc.symm, hparked]
  obtain ⟨hdrop, hfinal, hgone, hstays⟩ := hplain.linkFree.dropFile (by simp) hwaits
  have hremove := hplain.remove_of_leads haside ⟨old, x, hwaits⟩
  rw [settle, if_pos hholds, removeIfPresent, hremove]
  have hthere := (hstays _ hloc).trans hnew
  exact ⟨hsize, ((hplain.of_changesFiles hdrop).read_of_file
      (hartifact.of_changesFiles hplain.linkFree hdrop) hthere).1,
    (hfinal.holds_of_none (haside.of_changesFiles hplain.linkFree hdrop) hgone).1⟩

end Waits

/-! ### The whole check -/

/-- From one disk to the other the compiler wrote these bytes to the artifact, or nothing. -/
def Wrote (artifact : Path) (given after : Disk) : Option Bytes → Prop
  | none => after = given
  | some bytes => given.write artifact bytes = (.ok (), after)

/-- After the answer of the compiler its artifact is there, or else the one that waited. -/
theorem Waits.settled {old : Bytes} {after : Disk} {written : Option Bytes}
    (h : Waits d p o name old) (hwrote : Wrote p d after written) :
    after.fileSize? p = written.map List.length ∧
      (settle p (parkedPath p) after).read p = .ok (written.getD old) ∧
      (settle p (parkedPath p) after).holds (parkedPath p) = false := by
  cases written with
  | none =>
      obtain rfl : after = d := hwrote
      exact h.settle_unwritten
  | some bytes => exact h.settle_written hwrote

/-- What a check that asked the compiler makes of the artifact before it, of the answer and of
what the compiler wrote. -/
structure ArtifactKept (minBytes : Nat) (artifact : Path) (before after : Disk)
    (answer : Except CompileError CompileOutput) (written : Option Bytes) (result : CheckResult) :
    Prop where
  fresh : ∀ bytes, written = some bytes → after.read artifact = .ok bytes
  kept : written = none → after.read artifact = before.read artifact
  gone : before.holdsFile artifact = true → after.holds (parkedPath artifact) = false
  size : ∀ output, answer = .ok output → result.artifactSize = written.map List.length
  passed : result.passed = true ↔
    (∃ program, answer = .error (.notFound program)) ∨
      ∃ output bytes, answer = .ok output ∧ output.success = true ∧ written = some bytes ∧
        minBytes < bytes.length
  vacuous : result.vacuous = true ↔ ∃ program, answer = .error (.notFound program)

theorem evaluate_eq_nil_iff (output : CompileOutput) (artifact : Path) (size : Option Nat)
    (minBytes : Nat) : output.evaluate artifact size minBytes = [] ↔
      output.success = true ∧ ∃ n, size = some n ∧ minBytes < n := by
  simp only [CompileOutput.evaluate, List.append_eq_nil_iff]
  refine and_congr ?_ ?_
  · cases output.success with
    | true => simp
    | false => cases output.exitCode <;> simp
  · cases size with
    | none => simp
    | some n => simp

theorem judge_verdict (c : Checker) (kind : CheckKind) (document artifact : Path)
    (size : Option Nat) (answer : Except CompileError CompileOutput) :
    let result := c.judge (.pending kind document artifact) size answer
    (∀ output, answer = .ok output → result.artifactSize = size) ∧
      (result.passed = true ↔ (∃ program, answer = .error (.notFound program)) ∨
        ∃ output n, answer = .ok output ∧ output.success = true ∧ size = some n ∧
          c.minArtifactBytes < n) ∧
      (result.vacuous = true ↔ ∃ program, answer = .error (.notFound program)) := by
  match answer with
  | .ok output => simp [judge, evaluate_eq_nil_iff, CheckResult.pending]
  | .error (.notFound program) => simp [judge]
  | .error (.timedOut seconds) => simp [judge, CheckResult.pending]
  | .error (.io message) => simp [judge, CheckResult.pending]

theorem settled_of_vacant (h : d.Plain) {after : Disk} {written : Option Bytes}
    (hholds : d.holdsFile p = false) (hwrote : Wrote p d after written) :
    after.fileSize? p = written.map List.length ∧
      (∀ bytes, written = some bytes → after.read p = .ok bytes) ∧
      (written = none → after.read p = d.read p) := by
  cases written with
  | none =>
      obtain rfl : after = d := hwrote
      exact ⟨fileSize?_of_not_holdsFile hholds, nofun, fun _ => rfl⟩
  | some bytes =>
      obtain ⟨loc, ⟨o, last, hleads, rfl⟩, hd, hhere, -⟩ := h.linkFree.write_ok hwrote
      obtain ⟨x, hnew⟩ := file?_eq_some_iff.mp hhere
      obtain ⟨hread, hsize, -⟩ :=
        (h.of_changesFiles hd).read_of_file (hleads.of_changesFiles h.linkFree hd) hnew
      refine ⟨hsize, ?_, nofun⟩
      rintro _ ⟨⟩
      exact hread

section

variable (hparts : p.parts = before ++ [name]) (hname : 3 ≤ name.length)
include hparts hname

/-- The size of the artifact that the compiler left, and what is there once all is settled. -/
theorem settled (h : d.Plain) {given after : Disk} {parked : Option Path}
    {written : Option Bytes} (hpark : park p d = (.ok parked, given))
    (hwrote : Wrote p given after written) :
    after.fileSize? p = written.map List.length ∧
      (∀ bytes, written = some bytes → (settleParked p parked after).read p = .ok bytes) ∧
      (written = none → (settleParked p parked after).read p = d.read p) ∧
      (d.holdsFile p = true → (settleParked p parked after).holds (parkedPath p) = false) := by
  cases hholds : d.holdsFile p with
  | false =>
      rw [park, hholds, if_neg Bool.false_ne_true] at hpark
      obtain ⟨rfl, rfl⟩ : none = parked ∧ d = given := by simpa using hpark
      obtain ⟨hsize, hfresh, hkept⟩ := settled_of_vacant h hholds hwrote
      exact ⟨hsize, hfresh, hkept, nofun⟩
  | true =>
      obtain ⟨o, hleads, old, x, hold⟩ := h.exists_file (names_artifact hparts hname) hholds
      have hread := (h.read_of_file hleads hold).1
      rcases park_of_file hparts hname h hleads hold with
        ⟨e, herror, -⟩ | ⟨disk, hparked, hwaits⟩
      · cases herror.symm.trans hpark
      · obtain ⟨hpath, rfl⟩ := Prod.mk.inj (hparked.symm.trans hpark)
        obtain rfl := Except.ok.inj hpath
        obtain ⟨hsize, hsettled, hgone⟩ := hwaits.settled hwrote
        refine ⟨hsize, ?_, ?_, fun _ => hgone⟩
        · rintro bytes rfl
          exact hsettled
        · rintro rfl
          exact hsettled.trans hread.symm

end

/-- A check judges what the compiler has written in it, and never loses an earlier artifact. It
asks the compiler unless an earlier artifact cannot wait; then it fails and changes nothing. -/
theorem run_keeps_artifact (c : Checker) (kind : CheckKind) (document : Path) {d d₁ : Disk}
    (hplain : d.Plain) (hdir : d.ensureDir (c.request document d).outputDir = (.ok (), d₁))
    (written : Option Bytes) :
    let request := c.request document d
    let artifact := request.expectedArtifact
    let given := (park artifact d₁).2
    let answered := c.compiler.run request given
    let check := c.run kind document d
    Wrote artifact given answered.2 written →
      (∀ loc, d₁.file? loc = d.file? loc) ∧
        (check.1.request = some request ∧
            ArtifactKept c.minArtifactBytes artifact d₁ check.2 answered.1 written
              check.1.result ∨
          check.1.request = none ∧ check.1.result.passed = false ∧ check.2 = d₁ ∧
            d₁.holdsFile artifact = true ∧ Blocked d₁ (parkedPath artifact)) := by
  intro request artifact given answered check hwrote
  obtain ⟨before, hparts⟩ := request.parts_expectedArtifact
  have hname : 3 ≤ request.artifactName.length := by
    rw [CompileRequest.artifactName, List.length_append]
    exact Nat.le_add_left_of_le (by decide)
  obtain ⟨hplain₁, hfiles⟩ : d₁.Plain ∧ ∀ l, d₁.file? l = d.file? l := by
    have hspec := hplain.ensureDir_spec request.outputDir
    rwa [hdir] at hspec
  refine ⟨hfiles, ?_⟩
  have hcheck : check = c.run kind document d := rfl
  rcases c.run_cases kind document d with ⟨e, d₂, herror, -⟩ | ⟨d₂, e, d₃, hensure, hpark, hrun⟩ |
      ⟨d₂, parked, d₃, answer, d₄, hensure, hpark, hanswer, hrun⟩
  · rw [hdir] at herror
    cases herror
  -- the earlier artifact could not be moved aside, so there was one, and its place is blocked
  · obtain rfl : d₁ = d₂ := (Prod.mk.inj (hdir.symm.trans hensure)).2
    have hholds : d₁.holdsFile artifact = true := by
      by_contra hnot
      rw [park, if_neg hnot] at hpark
      cases hpark
    obtain ⟨o, hleads, old, x, hold⟩ :=
      hplain₁.exists_file (names_artifact hparts hname) hholds
    rcases park_of_file hparts hname hplain₁ hleads hold with
      ⟨f, hfails, hblocked⟩ | ⟨disk, hparked, -⟩
    · obtain rfl := (Prod.mk.inj (hfails.symm.trans hpark)).2
      refine .inr ?_
      rw [hcheck, hrun]
      exact ⟨rfl, rfl, rfl, hholds, hblocked⟩
    · cases hparked.symm.trans hpark
  -- the compiler was asked, and what is judged and settled is what it left
  · obtain rfl : d₁ = d₂ := (Prod.mk.inj (hdir.symm.trans hensure)).2
    have hgiven : given = d₃ := congrArg Prod.snd hpark
    have hanswered : answered = (answer, d₄) := by rw [← hanswer, ← hgiven]
    rw [hgiven, hanswered] at hwrote
    obtain ⟨hsize, hfresh, hkept, hgone⟩ := settled hparts hname hplain₁ hpark hwrote
    obtain ⟨hfound, hpassed, hvacuous⟩ :=
      c.judge_verdict kind document artifact (d₄.fileSize? artifact) answer
    refine .inl ?_
    rw [hcheck, hrun, hanswered]
    refine ⟨rfl, hfresh, hkept, hgone, ?_, ?_, hvacuous⟩
    · intro output houtput
      rw [hfound output houtput, hsize]
    · rw [hpassed, hsize]
      simp [Option.map_eq_some_iff]

def fiveBytes : Bytes :=
  [1, 2, 3, 4, 5]

def fiveByteChecker : Checker where
  compiler := ⟨"five", fun request d =>
    (.ok ⟨true, some 0, [], []⟩, (d.write request.expectedArtifact fiveBytes).2)⟩
  minArtifactBytes := 4
  timeoutMs := 1000
  outputDir := none
  keepBasicDocument := false

theorem fiveByteChecker_answer (request : CompileRequest) (given : Disk) :
    (fiveByteChecker.compiler.run request given).1 = .ok ⟨true, some 0, [], []⟩ := rfl

theorem fiveByteChecker_wrote {request : CompileRequest} {given : Disk}
    (h : (given.write request.expectedArtifact fiveBytes).1 = .ok ()) :
    Wrote request.expectedArtifact given (fiveByteChecker.compiler.run request given).2
      (some fiveBytes) :=
  Prod.ext h rfl

def builtBefore : Disk :=
  .ofTree ["w".toList]
    [(["w".toList, "main.tex".toList], .file [] false),
      (["w".toList, "main.pdf".toList], .file [7, 8, 9] false)]

theorem builtBefore_plain : builtBefore.Plain :=
  .of_entries (by decide) (by decide) (by decide) fun _ _ => rfl

def mainDocument : Path :=
  .ofString "main.tex"

def mainRequest : CompileRequest :=
  fiveByteChecker.request mainDocument builtBefore

theorem run_keeps_artifact_builtBefore :
    builtBefore.Plain ∧
      builtBefore.ensureDir mainRequest.outputDir = (.ok (), builtBefore) ∧
      builtBefore.read mainRequest.expectedArtifact = .ok [7, 8, 9] ∧
      (fiveByteChecker.run .full mainDocument builtBefore).2.read mainRequest.expectedArtifact =
        .ok fiveBytes ∧
      (fiveByteChecker.run .full mainDocument builtBefore).2.holds
        (parkedPath mainRequest.expectedArtifact) = false ∧
      (fiveByteChecker.run .full mainDocument builtBefore).1.result.artifactSize = some 5 ∧
      (fiveByteChecker.run .full mainDocument builtBefore).1.result.passed = true := by
  have hread : builtBefore.read mainRequest.expectedArtifact = .ok [7, 8, 9] := by decide +kernel
  have hholds : builtBefore.holdsFile mainRequest.expectedArtifact = true := by decide +kernel
  have hthere : builtBefore.holds mainRequest.outputDir = true := by decide +kernel
  have hdir : builtBefore.ensureDir mainRequest.outputDir = (.ok (), builtBefore) := if_pos hthere
  have hwritten : ((park mainRequest.expectedArtifact builtBefore).2.write
      mainRequest.expectedArtifact fiveBytes).1 = .ok () := by decide +kernel
  have hfree : ¬Blocked builtBefore (parkedPath mainRequest.expectedArtifact) := by
    rw [Blocked]
    decide +kernel
  have hanswer := fiveByteChecker_answer mainRequest
    (park mainRequest.expectedArtifact builtBefore).2
  obtain ⟨-, hcases⟩ := run_keeps_artifact fiveByteChecker .full mainDocument builtBefore_plain hdir
    (some fiveBytes) (fiveByteChecker_wrote hwritten)
  refine ⟨builtBefore_plain, hdir, hread, ?_⟩
  generalize fiveByteChecker.run .full mainDocument builtBefore = check at hcases ⊢
  rcases hcases with ⟨-, hkept⟩ | ⟨-, -, -, -, hblocked⟩
  · have hsize := hkept.size _ hanswer
    exact ⟨hkept.fresh _ rfl, hkept.gone hholds, hsize,
      hkept.passed.mpr (.inr ⟨_, _, hanswer, rfl, rfl, by decide⟩)⟩
  · exact absurd hblocked hfree

end Checker

end Manuscript
