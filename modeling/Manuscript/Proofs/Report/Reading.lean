import Manuscript.Report.Json
import Manuscript.Proofs.Json.Record

/-!
A report is read from its JSON as it was.

For each record there are two facts: what is written for it is exact, so that its
text keeps it, and its fields are read from there. The numbers of a report have
the range of a machine word; nothing else is asked of it, not even that the stages
are in order.
-/

namespace Manuscript

open Json

/-! ### References and resolutions -/

theorem ReferenceKind.ofName?_name (kind : ReferenceKind) : ofName? kind.name = some kind := by
  cases kind with
  | stylePackage => rfl
  | contentModule => rfl

namespace Reference

theorem exact_toJson (r : Reference) : Exact 1 r.toJson :=
  exact_record ⟨.string 0 _, .string 0 _⟩

theorem ofJson?_toJson (held : Bool) (r : Reference) : ofJson? held r.toJson = some r := by
  have hfields : fields? ["path", "kind"] r.toJson =
      some [some (.string r.path), some (.string r.kind.name)] :=
    fields?_object rfl (by decide)
  have hkind : ReferenceKind.ofJson? held (.string r.kind.name) = some r.kind :=
    ReferenceKind.ofName?_name r.kind
  simp only [ofJson?, hfields, required?, string?, hkind, Option.bind_some, Option.bind_eq_bind]

end Reference

namespace FileRecord

theorem exact_toJson (r : FileRecord) : Exact 1 r.toJson :=
  exact_record ⟨exact_path 0 _, .bool 0 _⟩

theorem ofJson?_toJson (r : FileRecord) : ofJson? r.toJson = some r := by
  have hfields : fields? ["path", "exists"] r.toJson =
      some [some r.path.toJson, some (.bool r.found)] :=
    fields?_object rfl (by decide)
  simp only [ofJson?, hfields, required?, ofJson?_path, bool?, Option.bind_some,
    Option.bind_eq_bind]

end FileRecord

namespace MissingFile

theorem exact_toJson (m : MissingFile) : Exact 2 m.toJson :=
  exact_record ⟨m.reference.exact_toJson, exact_path 1 _⟩

theorem ofJson?_toJson (held : Bool) (m : MissingFile) : ofJson? held m.toJson = some m := by
  have hfields : fields? ["reference", "expected_path"] m.toJson =
      some [some m.reference.toJson, some m.expectedPath.toJson] :=
    fields?_object rfl (by decide)
  simp only [ofJson?, hfields, required?, Reference.ofJson?_toJson, ofJson?_path,
    Option.bind_some, Option.bind_eq_bind]

end MissingFile

namespace Resolution

theorem exact_members (r : Resolution) : r.members.Forall fun m => Exact 3 m.2 :=
  ⟨exact_map fun f _ => f.exact_toJson.mono (by omega), exact_map fun m _ => m.exact_toJson,
    exact_strings 2 _⟩

theorem ofJson?_toJson (held : Bool) (r : Resolution) : ofJson? held r.toJson = some r := by
  have hfields : fields? ["records", "missing", "provided"] r.toJson =
      some [some (.array (r.records.map FileRecord.toJson)),
        some (.array (r.missing.map MissingFile.toJson)), some (.strings r.provided)] :=
    fields?_object rfl (by decide)
  have hrecords : list? FileRecord.ofJson? (.array (r.records.map FileRecord.toJson)) =
      some r.records := list?_map fun f _ => f.ofJson?_toJson
  have hmissing : list? (MissingFile.ofJson? held) (.array (r.missing.map MissingFile.toJson)) =
      some r.missing := list?_map fun m _ => m.ofJson?_toJson held
  simp only [ofJson?, hfields, required?, orElse?, hrecords, hmissing, list?_strings,
    Option.bind_some, Option.bind_eq_bind]

end Resolution

namespace Scan.Result

theorem exact_toJson (r : Result) : Exact 2 r.toJson :=
  exact_record ⟨exact_strings 0 _, exact_strings 0 _, exact_strings 0 _⟩

theorem ofJson?_toJson (r : Result) : ofJson? r.toJson = some r := by
  have hfields : fields? ["style_packages", "content_modules", "external_packages"] r.toJson =
      some [some (.strings r.stylePackages), some (.strings r.contentModules),
        some (.strings r.externalPackages)] :=
    fields?_object rfl (by decide)
  simp only [ofJson?, hfields, required?, list?_strings, Option.bind_some, Option.bind_eq_bind]

end Scan.Result

/-! ### Structural issues -/

namespace Structure.Issue

def number : Issue → Nat
  | .unexpectedClosingBrace line => line
  | .unclosedBraces count => count
  | .mismatchedEnvironment line _ _ => line
  | .unclosedEnvironment _ line => line
  | .residualEscapeMarker line _ => line
  | .mixedDelimiters line _ => line

def Fits (i : Issue) : Prop :=
  i.number < Text.countLimit

instance : DecidablePred Fits :=
  fun i => inferInstanceAs (Decidable (i.number < Text.countLimit))

theorem exact_toJson {i : Issue} (h : i.Fits) : Exact 2 i.toJson := by
  cases i with
  | unexpectedClosingBrace line => exact exact_record (exact_record (exact_ofNat 0 h))
  | unclosedBraces count => exact exact_record (exact_record (exact_ofNat 0 h))
  | mismatchedEnvironment line expected found =>
      exact exact_record (exact_record
        ⟨exact_ofNat 0 h, exact_ofOption fun s _ => .string 0 s, .string 0 found⟩)
  | unclosedEnvironment name line =>
      exact exact_record (exact_record ⟨.string 0 name, exact_ofNat 0 h⟩)
  | residualEscapeMarker line snippet =>
      exact exact_record (exact_record ⟨exact_ofNat 0 h, .string 0 snippet⟩)
  | mixedDelimiters line command =>
      exact exact_record (exact_record ⟨exact_ofNat 0 h, .string 0 command⟩)

theorem ofJson?_toJson {i : Issue} (h : i.Fits) : ofJson? i.toJson = some i := by
  cases i with
  | unexpectedClosingBrace line =>
      have hfields : fields? ["line"] (.object [("line", .ofNat line)]) =
          some [some (.ofNat line)] := fields?_object rfl (by decide)
      simp only [toJson, ofJson?, ofFields?, hfields, required?, nat?_ofNat (n := line) h,
        Option.bind_some, Option.bind_eq_bind]
  | unclosedBraces count =>
      have hfields : fields? ["count"] (.object [("count", .ofNat count)]) =
          some [some (.ofNat count)] := fields?_object rfl (by decide)
      simp only [toJson, ofJson?, ofFields?, hfields, required?, nat?_ofNat (n := count) h,
        Option.bind_some, Option.bind_eq_bind]
  | mismatchedEnvironment line expected found =>
      have hfields : fields? ["line", "expected", "found"]
          (.object [("line", .ofNat line), ("expected", .ofOption .string expected),
            ("found", .string found)]) =
          some [some (.ofNat line), some (.ofOption .string expected), some (.string found)] :=
        fields?_object rfl (by decide)
      have hexpected : nullable? string? (.ofOption .string expected) = some expected :=
        nullable?_ofOption fun s _ => ⟨rfl, by simp⟩
      simp only [toJson, ofJson?, ofFields?, hfields, required?, orElse?, nat?_ofNat (n := line) h,
        hexpected, string?, Option.bind_some, Option.bind_eq_bind]
  | unclosedEnvironment name line =>
      have hfields : fields? ["name", "line"]
          (.object [("name", .string name), ("line", .ofNat line)]) =
          some [some (.string name), some (.ofNat line)] := fields?_object rfl (by decide)
      simp only [toJson, ofJson?, ofFields?, hfields, required?, nat?_ofNat (n := line) h, string?,
        Option.bind_some, Option.bind_eq_bind]
  | residualEscapeMarker line snippet =>
      have hfields : fields? ["line", "snippet"]
          (.object [("line", .ofNat line), ("snippet", .string snippet)]) =
          some [some (.ofNat line), some (.string snippet)] := fields?_object rfl (by decide)
      simp only [toJson, ofJson?, ofFields?, hfields, required?, nat?_ofNat (n := line) h, string?,
        Option.bind_some, Option.bind_eq_bind]
  | mixedDelimiters line command =>
      have hfields : fields? ["line", "command"]
          (.object [("line", .ofNat line), ("command", .string command)]) =
          some [some (.ofNat line), some (.string command)] := fields?_object rfl (by decide)
      simp only [toJson, ofJson?, ofFields?, hfields, required?, nat?_ofNat (n := line) h, string?,
        Option.bind_some, Option.bind_eq_bind]

end Structure.Issue

/-! ### Build checks -/

theorem CheckKind.ofName?_name (kind : CheckKind) : ofName? kind.name = some kind := by
  cases kind with
  | basic => rfl
  | full => rfl

namespace CheckResult

/-- A size and a time of 64 bits, and an exit code of 32 bits with sign. -/
structure Fits (r : CheckResult) : Prop where
  artifactSize : ∀ n ∈ r.artifactSize, n < Text.countLimit
  exitCode : ∀ i ∈ r.exitCode, -2147483648 ≤ i ∧ i < 2147483648
  durationMs : r.durationMs < Text.countLimit

theorem exact_members {r : CheckResult} (h : r.Fits) :
    r.members.Forall fun m => Exact 3 m.2 := by
  have hsize : Exact 3 (.ofOption .ofNat r.artifactSize) :=
    exact_ofOption fun n hn => exact_ofNat 3 (h.artifactSize n hn)
  have hexit : Exact 3 (.ofOption .ofInt r.exitCode) := by
    refine exact_ofOption fun i hi => .whole 3 i ?_
    have hrange := h.exitCode i hi
    have hlimit : 2147483648 < Text.countLimit := by decide
    omega
  exact ⟨.string 3 _, .bool 3 _, .bool 3 _, exact_path 3 _, exact_path 3 _, hsize, hexit,
    exact_strings 2 _, exact_strings 2 _, exact_strings 2 _, exact_ofNat 3 h.durationMs⟩

theorem ofJson?_toJson {r : CheckResult} (h : r.Fits) : ofJson? r.toJson = some r := by
  have hfields : fields? fieldNames r.toJson =
      some [some (.string r.kind.name), some (.bool r.passed), some (.bool r.vacuous),
        some r.document.toJson, some r.artifact.toJson, some (.ofOption .ofNat r.artifactSize),
        some (.ofOption .ofInt r.exitCode), some (.strings r.errors), some (.strings r.warnings),
        some (.strings r.logTail), some (.ofNat r.durationMs)] :=
    fields?_object rfl (by decide)
  have hkind : (choiceName? true (.string r.kind.name)).bind CheckKind.ofName? = some r.kind :=
    r.kind.ofName?_name
  have hsize : nullable? nat? (.ofOption .ofNat r.artifactSize) = some r.artifactSize :=
    nullable?_ofOption fun n hn => ⟨nat?_ofNat (h.artifactSize n hn), by simp [ofNat]⟩
  have hexit : nullable? int? (.ofOption .ofInt r.exitCode) = some r.exitCode :=
    nullable?_ofOption fun i hi =>
      ⟨int?_ofInt (h.exitCode i hi).1 (h.exitCode i hi).2, by simp [ofInt]⟩
  simp only [ofJson?, hfields, required?, orElse?, hkind, bool?, ofJson?_path, hsize, hexit,
    list?_strings, nat?_ofNat h.durationMs, Option.bind_some, Option.bind_eq_bind]

end CheckResult

/-! ### Stages -/

namespace StageData

def Fits : StageData → Prop
  | .scan _ structural => ∀ i ∈ structural, i.Fits
  | .resolve _ => True
  | .stub _ _ => True
  | .build check => check.Fits
  | .nothing => True

theorem exact_toJson {data : StageData} (h : data.Fits) : Exact 4 data.toJson := by
  cases data with
  | scan result structural =>
      exact exact_record ⟨.string 3 _, result.exact_toJson.mono (by omega),
        exact_map fun i hi => Structure.Issue.exact_toJson (h i hi)⟩
  | resolve resolution => exact exact_record ⟨.string 3 _, resolution.exact_members⟩
  | stub created failed =>
      exact exact_record ⟨.string 3 _, exact_map fun p _ => exact_path 2 p, exact_strings 2 _⟩
  | build check => exact exact_record ⟨.string 3 _, CheckResult.exact_members h⟩
  | nothing => exact exact_record (.string 3 _)

theorem tagged?_object {kind : String} {members : List (String × Json)} (names : List String)
    (hnames : members.map Prod.fst = names) (h : "type" ∉ names) :
    tagged? (.object (("type", .string kind) :: members)) = some (kind, .object members) := by
  have hne : ∀ m ∈ members, m.1 ≠ "type" := by
    intro m hm htype
    rw [← hnames, ← htype] at h
    exact h (List.mem_map_of_mem hm)
  have htagged : members.filter (·.1 == "type") = [] :=
    List.filter_eq_nil_iff.mpr fun m hm => by simpa using hne m hm
  have hothers : members.filter (·.1 != "type") = members :=
    List.filter_eq_self.mpr fun m hm => by simpa using hne m hm
  simp only [tagged?, List.filter_cons, beq_self_eq_true, bne_self_eq_false, htagged, hothers,
    if_true, Bool.false_eq_true, if_false]

/-- What is exact and tagged is read by its kind. -/
theorem ofJson?_of_exact {data : StageData} {kind : String} {fields : Json} (h : data.Fits)
    (htagged : tagged? data.toJson = some (kind, fields)) :
    ofJson? data.toJson = ofTagged? kind fields := by
  have hexact := exact_toJson h
  have hdeep : data.toJson.depth ≤ deepest := by
    have hdepth := hexact.depth_le
    have hmost : 4 ≤ deepest := by decide
    omega
  have hheld : (data.toJson.isDefinite && decide (data.toJson.depth ≤ deepest)) = true := by
    rw [hexact.isDefinite, decide_eq_true hdeep]
    rfl
  rw [ofJson?, if_pos hheld, htagged, Option.bind_some]

theorem ofJson?_toJson {data : StageData} (h : data.Fits) : ofJson? data.toJson = some data := by
  cases data with
  | scan result structural =>
      have hfields : fields? ["result", "structure"]
          (.object [("result", result.toJson),
            ("structure", .array (structural.map Structure.Issue.toJson))]) =
          some [some result.toJson, some (.array (structural.map Structure.Issue.toJson))] :=
        fields?_object rfl (by decide)
      have hstructural : list? Structure.Issue.ofJson?
          (.array (structural.map Structure.Issue.toJson)) = some structural :=
        list?_map fun i hi => Structure.Issue.ofJson?_toJson (h i hi)
      rw [ofJson?_of_exact h (tagged?_object ["result", "structure"] rfl (by decide))]
      simp only [ofTagged?, hfields, required?, Scan.Result.ofJson?_toJson, hstructural,
        Option.bind_some, Option.bind_eq_bind]
  | resolve resolution =>
      have hfields : Resolution.ofJson? true (.object resolution.members) = some resolution :=
        resolution.ofJson?_toJson true
      rw [ofJson?_of_exact h (tagged?_object ["records", "missing", "provided"] rfl (by decide))]
      simp only [ofTagged?, hfields, Option.map_some]
  | stub created failed =>
      have hfields : fields? ["created", "failed"]
          (.object [("created", .array (created.map Path.toJson)), ("failed", .strings failed)]) =
          some [some (.array (created.map Path.toJson)), some (.strings failed)] :=
        fields?_object rfl (by decide)
      have hcreated : list? Path.ofJson? (.array (created.map Path.toJson)) = some created :=
        list?_map fun p _ => ofJson?_path p
      rw [ofJson?_of_exact h (tagged?_object ["created", "failed"] rfl (by decide))]
      simp only [ofTagged?, hfields, required?, hcreated, list?_strings, Option.bind_some,
        Option.bind_eq_bind]
  | build check =>
      have hfields : CheckResult.ofJson? (.object check.members) = some check :=
        CheckResult.ofJson?_toJson h
      rw [ofJson?_of_exact h (tagged?_object CheckResult.fieldNames rfl (by decide))]
      simp only [ofTagged?, hfields, Option.map_some]
  | nothing =>
      rw [ofJson?_of_exact h (tagged?_object [] rfl (by decide)), ofTagged?]
      simp

end StageData

theorem Stage.ofName?_name (s : Stage) : ofName? s.name = some s := by
  cases s with
  | scanning => decide
  | resolving => decide
  | stubbing => decide
  | basicBuildTest => decide
  | fullBuildTest => decide

namespace StageResult

structure Fits (r : StageResult) : Prop where
  data : r.data.Fits
  durationMs : r.durationMs < Text.countLimit

theorem exact_toJson {r : StageResult} (h : r.Fits) : Exact 5 r.toJson :=
  exact_record ⟨.string 4 _, .bool 4 _, exact_strings 3 _, exact_strings 3 _,
    StageData.exact_toJson h.data, exact_ofNat 4 h.durationMs⟩

theorem ofJson?_toJson {r : StageResult} (h : r.Fits) : ofJson? r.toJson = some r := by
  have hfields : fields? ["stage", "passed", "errors", "warnings", "data", "duration_ms"] r.toJson =
      some [some (.string r.stage.name), some (.bool r.passed), some (.strings r.errors),
        some (.strings r.warnings), some r.data.toJson, some (.ofNat r.durationMs)] :=
    fields?_object rfl (by decide)
  have hstage : (choiceName? false (.string r.stage.name)).bind Stage.ofName? = some r.stage :=
    r.stage.ofName?_name
  simp only [ofJson?, hfields, required?, hstage, bool?, list?_strings,
    StageData.ofJson?_toJson h.data, nat?_ofNat h.durationMs, Option.bind_some,
    Option.bind_eq_bind]

end StageResult

namespace Report

/-- The numbers of a report have the ranges of machine words. -/
def Fits (r : Report) : Prop :=
  ∀ s ∈ r.stages, s.Fits

theorem exact_toJson {r : Report} (h : r.Fits) : Exact 7 r.toJson :=
  exact_record (exact_map fun s hs => StageResult.exact_toJson (h s hs))

theorem ofJson?_toJson {r : Report} (h : r.Fits) : ofJson? r.toJson = some r := by
  have hfields : fields? ["stages"] r.toJson =
      some [some (.array (r.stages.map StageResult.toJson))] :=
    fields?_object rfl (by decide)
  have hstages : list? StageResult.ofJson? (.array (r.stages.map StageResult.toJson)) =
      some r.stages := list?_map fun s hs => StageResult.ofJson?_toJson (h s hs)
  simp only [ofJson?, hfields, required?, hstages, Option.bind_some, Option.bind_eq_bind]

/-- A printed report is read as it was, so all that is asked of it later is answered alike. -/
theorem ofText?_print {r : Report} (h : r.Fits) :
    ofText? r.print = some r ∧
      ∀ parsed, ofText? r.print = some parsed →
        (∀ verbose, parsed.summary verbose = r.summary verbose) ∧
        parsed.passed = r.passed ∧ parsed.exitCode = r.exitCode ∧
        ∀ (later : List StageResult) (next : StageResult),
          (later.foldl push parsed).accepts next = (later.foldl push r).accepts next ∧
          later.foldl push parsed = later.foldl push r := by
  have hread : ofText? r.print = some r := by
    rw [ofText?, print, ofText?_pretty (exact_toJson h), Option.bind_some, ofJson?_toJson h]
  refine ⟨hread, fun parsed hparsed => ?_⟩
  obtain rfl : r = parsed := Option.some.inj (hread.symm.trans hparsed)
  exact ⟨fun _ => rfl, rfl, rfl, fun _ _ => ⟨rfl, rfl⟩⟩

def mixed : Report :=
  ⟨[{ stage := .fullBuildTest
      passed := false
      errors := ["\"C:\\\", \x01\t\x7f\n"]
      warnings := ["\u2028 \ud7ff \ufffd"]
      data := .build
        { CheckResult.pending .full ⟨"a b.tex".toList⟩ ⟨[]⟩ with
          artifactSize := some 18446744073709551615
          exitCode := some (-2147483648) }
      durationMs := 18446744073709551615 },
    .of .scanning true
      (.scan ⟨["tikz"], [], [""]⟩
        [.unexpectedClosingBrace 0, .unclosedBraces 2, .mismatchedEnvironment 3 none "a",
          .mismatchedEnvironment 3 (some "null") "b", .unclosedEnvironment "c" 4,
          .residualEscapeMarker 5 "\\", .mixedDelimiters 18446744073709551615 "left"]),
    .of .resolving true
      (.resolve ⟨[⟨⟨"a.sty".toList⟩, true⟩], [⟨⟨"b", .contentModule⟩, ⟨"b.tex".toList⟩⟩], ["c"]⟩),
    .of .stubbing true (.stub [⟨"b.tex".toList⟩] ["d"]),
    .failure .scanning "again"]⟩

theorem ofText?_print_mixed : ofText? mixed.print = some mixed := by
  have hfits : mixed.Fits := by
    simp only [Fits, mixed, List.forall_mem_cons]
    refine ⟨⟨⟨by decide, by decide, by decide⟩, by decide⟩, ⟨?_, by decide⟩, ⟨trivial, by decide⟩,
      ⟨trivial, by decide⟩, ⟨trivial, by decide⟩, by simp⟩
    show ∀ i ∈ _, Structure.Issue.Fits i
    decide
  exact (ofText?_print hfits).1

end Report

end Manuscript
