import Manuscript.Json.Definite
import Manuscript.Json.Path
import Manuscript.Json.Printer
import Manuscript.Json.Reader
import Manuscript.Json.Record
import Manuscript.Report.Basic

/-!
Reports as JSON, and the records they are made of.
-/

namespace Manuscript

open Json (fields? required? orElse? nullable? nat? int? bool? list? choiceName?)

/-! ### References and resolutions -/

namespace ReferenceKind

def ofName? : String → Option ReferenceKind
  | "StylePackage" => some stylePackage
  | "ContentModule" => some contentModule
  | _ => none

def ofJson? (held : Bool) (j : Json) : Option ReferenceKind :=
  (choiceName? held j).bind ofName?

end ReferenceKind

namespace Reference

def toJson (r : Reference) : Json :=
  .object [("path", .string r.path), ("kind", .string r.kind.name)]

def ofJson? (held : Bool) (j : Json) : Option Reference :=
  match fields? ["path", "kind"] j with
  | some [path, kind] => do
    some ⟨← required? Json.string? path, ← required? (ReferenceKind.ofJson? held) kind⟩
  | _ => none

end Reference

namespace FileRecord

def toJson (r : FileRecord) : Json :=
  .object [("path", r.path.toJson), ("exists", .bool r.found)]

def ofJson? (j : Json) : Option FileRecord :=
  match fields? ["path", "exists"] j with
  | some [path, found] => do some ⟨← required? Path.ofJson? path, ← required? bool? found⟩
  | _ => none

end FileRecord

namespace MissingFile

def toJson (m : MissingFile) : Json :=
  .object [("reference", m.reference.toJson), ("expected_path", m.expectedPath.toJson)]

def ofJson? (held : Bool) (j : Json) : Option MissingFile :=
  match fields? ["reference", "expected_path"] j with
  | some [reference, path] => do
    some ⟨← required? (Reference.ofJson? held) reference, ← required? Path.ofJson? path⟩
  | _ => none

end MissingFile

namespace Resolution

def members (r : Resolution) : List (String × Json) :=
  [("records", .array (r.records.map FileRecord.toJson)),
   ("missing", .array (r.missing.map MissingFile.toJson)),
   ("provided", .strings r.provided)]

def toJson (r : Resolution) : Json :=
  .object r.members

def ofJson? (held : Bool) (j : Json) : Option Resolution :=
  match fields? ["records", "missing", "provided"] j with
  | some [records, missing, provided] => do
    some
      ⟨← required? (list? FileRecord.ofJson?) records,
       ← required? (list? (MissingFile.ofJson? held)) missing,
       ← orElse? [] (list? Json.string?) provided⟩
  | _ => none

end Resolution

namespace Scan.Result

def toJson (r : Result) : Json :=
  .object
    [("style_packages", .strings r.stylePackages),
     ("content_modules", .strings r.contentModules),
     ("external_packages", .strings r.externalPackages)]

def ofJson? (j : Json) : Option Result :=
  match fields? ["style_packages", "content_modules", "external_packages"] j with
  | some [style, content, external] => do
    some
      ⟨← required? (list? Json.string?) style, ← required? (list? Json.string?) content,
       ← required? (list? Json.string?) external⟩
  | _ => none

end Scan.Result

/-! ### Structural issues -/

namespace Structure.Issue

def toJson : Issue → Json
  | .unexpectedClosingBrace line =>
    .object [("UnexpectedClosingBrace", .object [("line", .ofNat line)])]
  | .unclosedBraces count => .object [("UnclosedBraces", .object [("count", .ofNat count)])]
  | .mismatchedEnvironment line expected found =>
    .object
      [("MismatchedEnvironment", .object
        [("line", .ofNat line), ("expected", .ofOption .string expected),
         ("found", .string found)])]
  | .unclosedEnvironment name line =>
    .object [("UnclosedEnvironment", .object [("name", .string name), ("line", .ofNat line)])]
  | .residualEscapeMarker line snippet =>
    .object
      [("ResidualEscapeMarker", .object [("line", .ofNat line), ("snippet", .string snippet)])]
  | .mixedDelimiters line command =>
    .object [("MixedDelimiters", .object [("line", .ofNat line), ("command", .string command)])]

def ofFields? (name : String) (j : Json) : Option Issue :=
  match name with
  | "UnexpectedClosingBrace" =>
    match fields? ["line"] j with
    | some [line] => do some (.unexpectedClosingBrace (← required? nat? line))
    | _ => none
  | "UnclosedBraces" =>
    match fields? ["count"] j with
    | some [count] => do some (.unclosedBraces (← required? nat? count))
    | _ => none
  | "MismatchedEnvironment" =>
    match fields? ["line", "expected", "found"] j with
    | some [line, expected, found] => do
      some
        (.mismatchedEnvironment (← required? nat? line)
          (← orElse? none (nullable? Json.string?) expected) (← required? Json.string? found))
    | _ => none
  | "UnclosedEnvironment" =>
    match fields? ["name", "line"] j with
    | some [name, line] => do
      some (.unclosedEnvironment (← required? Json.string? name) (← required? nat? line))
    | _ => none
  | "ResidualEscapeMarker" =>
    match fields? ["line", "snippet"] j with
    | some [line, snippet] => do
      some (.residualEscapeMarker (← required? nat? line) (← required? Json.string? snippet))
    | _ => none
  | "MixedDelimiters" =>
    match fields? ["line", "command"] j with
    | some [line, command] => do
      some (.mixedDelimiters (← required? nat? line) (← required? Json.string? command))
    | _ => none
  | _ => none

def ofJson? : Json → Option Issue
  | .object [(name, fields)] => ofFields? name fields
  | _ => none

end Structure.Issue

/-! ### Build checks -/

namespace CheckResult

def members (r : CheckResult) : List (String × Json) :=
  [("kind", .string r.kind.name),
   ("passed", .bool r.passed),
   ("vacuous", .bool r.vacuous),
   ("document", r.document.toJson),
   ("artifact", r.artifact.toJson),
   ("artifact_size", .ofOption .ofNat r.artifactSize),
   ("exit_code", .ofOption .ofInt r.exitCode),
   ("errors", .strings r.errors),
   ("warnings", .strings r.warnings),
   ("log_tail", .strings r.logTail),
   ("duration_ms", .ofNat r.durationMs)]

def toJson (r : CheckResult) : Json :=
  .object r.members

def fieldNames : List String :=
  ["kind", "passed", "vacuous", "document", "artifact", "artifact_size", "exit_code", "errors",
    "warnings", "log_tail", "duration_ms"]

def ofJson? (j : Json) : Option CheckResult :=
  match fields? fieldNames j with
  | some [kind, passed, vacuous, document, artifact, size, exit, errors, warnings, tail, ms] => do
    some
      { kind := ← required? (fun j => (choiceName? true j).bind CheckKind.ofName?) kind
        passed := ← required? bool? passed
        vacuous := ← required? bool? vacuous
        document := ← required? Path.ofJson? document
        artifact := ← required? Path.ofJson? artifact
        artifactSize := ← orElse? none (nullable? nat?) size
        exitCode := ← orElse? none (nullable? int?) exit
        errors := ← required? (list? Json.string?) errors
        warnings := ← required? (list? Json.string?) warnings
        logTail := ← required? (list? Json.string?) tail
        durationMs := ← required? nat? ms }
  | _ => none

end CheckResult

/-! ### Stages

The data of a stage is an object with the kind of data beside the fields, or an
array that begins with the kind. It is read as a whole before the kind is known,
so all of it has to be definite and not too deeply nested, even what is then
ignored. -/

namespace StageData

def toJson : StageData → Json
  | .scan result structural =>
    .object
      [("type", .string "scan"), ("result", result.toJson),
       ("structure", .array (structural.map Structure.Issue.toJson))]
  | .resolve resolution => .object (("type", .string "resolve") :: resolution.members)
  | .stub created failed =>
    .object
      [("type", .string "stub"), ("created", .array (created.map Path.toJson)),
       ("failed", .strings failed)]
  | .build check => .object (("type", .string "build") :: check.members)
  | .nothing => .object [("type", .string "none")]

def tagged? : Json → Option (String × Json)
  | .object members =>
    match members.filter (·.1 == "type") with
    | [(_, .string kind)] => some (kind, .object (members.filter (·.1 != "type")))
    | _ => none
  | .array (.string kind :: items) => some (kind, .array items)
  | _ => none

def ofTagged? (kind : String) (j : Json) : Option StageData :=
  match kind with
  | "scan" =>
    match fields? ["result", "structure"] j with
    | some [result, structural] => do
      some
        (.scan (← required? Scan.Result.ofJson? result)
          (← required? (list? Structure.Issue.ofJson?) structural))
    | _ => none
  | "resolve" => (Resolution.ofJson? true j).map .resolve
  | "stub" =>
    match fields? ["created", "failed"] j with
    | some [created, failed] => do
      some
        (.stub (← required? (list? Path.ofJson?) created)
          (← required? (list? Json.string?) failed))
    | _ => none
  | "build" => (CheckResult.ofJson? j).map .build
  | "none" =>
    match j with
    | .array (_ :: _) => none
    | _ => some .nothing
  | _ => none

/-- How deeply data may be nested, which stands three levels deep in a report. -/
def deepest : Nat :=
  124

def ofJson? (j : Json) : Option StageData :=
  if j.isDefinite && j.depth ≤ deepest then
    (tagged? j).bind fun (kind, fields) => ofTagged? kind fields
  else none

end StageData

namespace StageResult

def toJson (r : StageResult) : Json :=
  .object
    [("stage", .string r.stage.name),
     ("passed", .bool r.passed),
     ("errors", .strings r.errors),
     ("warnings", .strings r.warnings),
     ("data", r.data.toJson),
     ("duration_ms", .ofNat r.durationMs)]

def ofJson? (j : Json) : Option StageResult :=
  match fields? ["stage", "passed", "errors", "warnings", "data", "duration_ms"] j with
  | some [stage, passed, errors, warnings, data, ms] => do
    some
      { stage := ← required? (fun j => (choiceName? false j).bind Stage.ofName?) stage
        passed := ← required? bool? passed
        errors := ← required? (list? Json.string?) errors
        warnings := ← required? (list? Json.string?) warnings
        data := ← required? StageData.ofJson? data
        durationMs := ← required? nat? ms }
  | _ => none

end StageResult

namespace Report

def toJson (r : Report) : Json :=
  .object [("stages", .array (r.stages.map StageResult.toJson))]

def ofJson? (j : Json) : Option Report :=
  match fields? ["stages"] j with
  | some [stages] => do some ⟨← required? (list? StageResult.ofJson?) stages⟩
  | _ => none

def ofText? (t : Text) : Option Report :=
  (Json.ofText? t).bind ofJson?

def print (r : Report) : Text :=
  r.toJson.pretty 0

end Report

end Manuscript
