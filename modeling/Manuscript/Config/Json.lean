import Manuscript.Config.Basic
import Manuscript.Json.Path
import Manuscript.Json.Printer
import Manuscript.Json.Reader
import Manuscript.Json.Record

/-!
Settings as JSON. Every field may be left out and then has its default; a field
that may be unset keeps an explicit null. What a field is when it alone is left
out is given here, field by field; a section that is left out has the defaults
of the settings.
-/

namespace Manuscript.Config

open Json (fields? orElse? nullable? nat? bool? list? choiceName?)

namespace Compiler

def toJson (c : Compiler) : Json :=
  .object
    [("program", .string c.program),
     ("extra_args", .strings c.extraArgs),
     ("timeout_secs", .ofNat c.timeoutSecs)]

def ofJson? (j : Json) : Option Compiler :=
  match fields? ["program", "extra_args", "timeout_secs"] j with
  | some [program, extraArgs, timeoutSecs] => do
    some
      { program := ← orElse? "pdflatex" Json.string? program
        extraArgs := ← orElse? [] (list? Json.string?) extraArgs
        timeoutSecs := ← orElse? 120 nat? timeoutSecs }
  | _ => none

end Compiler

namespace Build

def toJson (b : Build) : Json :=
  .object
    [("root_document", Path.toJson b.rootDocument),
     ("output_dir", .ofOption Path.toJson b.outputDir),
     ("generate_stubs", .bool b.generateStubs),
     ("min_artifact_bytes", .ofNat b.minArtifactBytes),
     ("external_packages", .strings b.externalPackages),
     ("local_package_prefixes", .strings b.localPackageBeginnings),
     ("package_lookup", .ofOption .string b.packageLookup),
     ("keep_basic_document", .bool b.keepBasicDocument),
     ("compiler", b.compiler.toJson)]

def fieldNames : List String :=
  ["root_document", "output_dir", "generate_stubs", "min_artifact_bytes", "external_packages",
    "local_package_prefixes", "package_lookup", "keep_basic_document", "compiler"]

def ofJson? (j : Json) : Option Build :=
  match fields? fieldNames j with
  | some [root, outputDir, stubs, minBytes, external, beginnings, lookup, keep, compiler] => do
    some
      { rootDocument := ← orElse? (.ofString "main.tex") Path.ofJson? root
        outputDir := ← orElse? none (nullable? Path.ofJson?) outputDir
        generateStubs := ← orElse? true bool? stubs
        minArtifactBytes := ← orElse? 1024 nat? minBytes
        externalPackages := ← orElse? standardPackages (list? Json.string?) external
        localPackageBeginnings := ← orElse? [] (list? Json.string?) beginnings
        packageLookup := ← orElse? (some "kpsewhich") (nullable? Json.string?) lookup
        keepBasicDocument := ← orElse? false bool? keep
        compiler := ← orElse? {} Compiler.ofJson? compiler }
  | _ => none

end Build

namespace Escaping

def toJson (e : Escaping) : Json :=
  .object
    [("max_passes", .ofNat e.maxPasses),
     ("backup", .bool e.backup),
     ("backup_suffix", .string e.backupSuffix),
     ("extensions", .strings e.extensions),
     ("validate_after_fix", .bool e.validateAfterFix)]

def ofJson? (j : Json) : Option Escaping :=
  match fields? ["max_passes", "backup", "backup_suffix", "extensions", "validate_after_fix"] j with
  | some [maxPasses, backup, suffix, extensions, validate] => do
    some
      { maxPasses := ← orElse? 6 nat? maxPasses
        backup := ← orElse? true bool? backup
        backupSuffix := ← orElse? ".bak" Json.string? suffix
        extensions := ← orElse? ["tex", "sty"] (list? Json.string?) extensions
        validateAfterFix := ← orElse? true bool? validate }
  | _ => none

end Escaping

def LogLevel.ofJson? (j : Json) : Option LogLevel :=
  (choiceName? false j).bind LogLevel.ofName?

def toJson (c : Config) : Json :=
  .object
    [("build", c.build.toJson),
     ("escaping", c.escaping.toJson),
     ("log_level", .string c.logLevel.name)]

def ofJson? (j : Json) : Option Config :=
  match fields? ["build", "escaping", "log_level"] j with
  | some [build, escaping, logLevel] => do
    some
      { build := ← orElse? {} Build.ofJson? build
        escaping := ← orElse? {} Escaping.ofJson? escaping
        logLevel := ← orElse? .info LogLevel.ofJson? logLevel }
  | _ => none

def ofText? (t : Text) : Option Config :=
  (Json.ofText? t).bind ofJson?

/-- The settings in a file; bytes that are not UTF-8 are let pass in strings that are ignored. -/
def ofBytes? (b : ByteArray) : Option Config :=
  (Json.ofBytes? b).bind ofJson?

def print (c : Config) : Text :=
  c.toJson.pretty 0

end Manuscript.Config
