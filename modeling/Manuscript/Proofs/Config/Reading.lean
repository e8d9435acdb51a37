import Manuscript.Config.Json
import Manuscript.Proofs.Json.Thinning

/-!
Settings are read from their JSON, whatever is left out of it.

A member that is gone gives its field the default of the settings, and one that
is there gives it what was written, null included. So the values that are given
to fields one by one where they are read are those of the settings as a whole,
and a section left out is as good as an empty one.
-/

namespace Manuscript.Config

open Json

theorem LogLevel.ofName?_name (l : LogLevel) : ofName? l.name = some l := by
  cases l with
  | error => decide
  | warn => decide
  | info => decide
  | debug => decide
  | trace => decide

/-! ### The compiler -/

namespace Compiler

def filled (c : Compiler) (j : Json) : Compiler :=
  let default : Compiler := {}
  { program := if j.has "program" then c.program else default.program
    extraArgs := if j.has "extra_args" then c.extraArgs else default.extraArgs
    timeoutSecs := if j.has "timeout_secs" then c.timeoutSecs else default.timeoutSecs }

theorem ofJson?_thinned {c : Compiler} (hc : c.timeoutSecs < Text.countLimit) {j : Json}
    (hj : Thinned c.toJson j) : ofJson? j = some (c.filled j) := by
  have hfields : fields? ["program", "extra_args", "timeout_secs"] j =
      some [j.member? "program", j.member? "extra_args", j.member? "timeout_secs"] :=
    hj.fields?_eq rfl (by decide)
  obtain ⟨hprogram, hargs, htimeout⟩ :=
    hj.of_member? ["program", "extra_args", "timeout_secs"] rfl (by decide)
  have hprogram : orElse? "pdflatex" string? (j.member? "program") = some (c.filled j).program :=
    orElse?_thinned hprogram rfl (by simp)
  have hargs : orElse? [] (list? string?) (j.member? "extra_args") =
      some (c.filled j).extraArgs :=
    orElse?_thinned hargs (list?_strings _) (by simp [strings])
  have htimeout : orElse? 120 nat? (j.member? "timeout_secs") = some (c.filled j).timeoutSecs :=
    orElse?_thinned htimeout (nat?_ofNat hc) (by simp [ofNat])
  simp only [ofJson?, hfields, hprogram, hargs, htimeout, Option.bind_some, Option.bind_eq_bind]

end Compiler

/-! ### The build -/

namespace Build

structure Fits (b : Build) : Prop where
  minArtifactBytes : b.minArtifactBytes < Text.countLimit
  timeoutSecs : b.compiler.timeoutSecs < Text.countLimit

def filled (b : Build) (j : Json) : Build :=
  let default : Build := {}
  { rootDocument := if j.has "root_document" then b.rootDocument else default.rootDocument
    outputDir := if j.has "output_dir" then b.outputDir else default.outputDir
    generateStubs := if j.has "generate_stubs" then b.generateStubs else default.generateStubs
    minArtifactBytes :=
      if j.has "min_artifact_bytes" then b.minArtifactBytes else default.minArtifactBytes
    externalPackages :=
      if j.has "external_packages" then b.externalPackages else default.externalPackages
    localPackageBeginnings :=
      if j.has "local_package_prefixes" then b.localPackageBeginnings
      else default.localPackageBeginnings
    packageLookup := if j.has "package_lookup" then b.packageLookup else default.packageLookup
    keepBasicDocument :=
      if j.has "keep_basic_document" then b.keepBasicDocument else default.keepBasicDocument
    compiler := (j.member? "compiler").elim default.compiler b.compiler.filled }

theorem ofJson?_thinned {b : Build} (hb : b.Fits) {j : Json} (hj : Thinned b.toJson j) :
    ofJson? j = some (b.filled j) := by
  have hfields : fields? fieldNames j = some (fieldNames.map j.member?) :=
    hj.fields?_eq rfl (by decide)
  obtain ⟨hroot, hdir, hstubs, hbytes, hexternal, hlocal, hlookup, hkeep, hcompiler⟩ :=
    hj.of_member? fieldNames rfl (by decide)
  have hroot : orElse? (.ofString "main.tex") Path.ofJson? (j.member? "root_document") =
      some (b.filled j).rootDocument :=
    orElse?_thinned hroot (ofJson?_path _) (by simp [Path.toJson])
  have hdir : orElse? none (nullable? Path.ofJson?) (j.member? "output_dir") =
      some (b.filled j).outputDir := by
    refine orElse?_thinned hdir (nullable?_ofOption fun p _ => ⟨ofJson?_path p, ?_⟩) ?_
    · simp [Path.toJson]
    · cases b.outputDir with
      | none => simp [ofOption]
      | some p => simp [ofOption, Path.toJson]
  have hstubs : orElse? true bool? (j.member? "generate_stubs") =
      some (b.filled j).generateStubs :=
    orElse?_thinned hstubs rfl (by simp)
  have hbytes : orElse? 1024 nat? (j.member? "min_artifact_bytes") =
      some (b.filled j).minArtifactBytes :=
    orElse?_thinned hbytes (nat?_ofNat hb.minArtifactBytes) (by simp [ofNat])
  have hexternal : orElse? standardPackages (list? string?) (j.member? "external_packages") =
      some (b.filled j).externalPackages :=
    orElse?_thinned hexternal (list?_strings _) (by simp [strings])
  have hlocal : orElse? [] (list? string?) (j.member? "local_package_prefixes") =
      some (b.filled j).localPackageBeginnings :=
    orElse?_thinned hlocal (list?_strings _) (by simp [strings])
  have hlookup : orElse? (some "kpsewhich") (nullable? string?) (j.member? "package_lookup") =
      some (b.filled j).packageLookup := by
    refine orElse?_thinned hlookup (nullable?_ofOption fun s _ => ⟨rfl, by simp⟩) ?_
    cases b.packageLookup with
    | none => simp [ofOption]
    | some s => simp [ofOption]
  have hkeep : orElse? false bool? (j.member? "keep_basic_document") =
      some (b.filled j).keepBasicDocument :=
    orElse?_thinned hkeep rfl (by simp)
  have hcompiler : orElse? {} Compiler.ofJson? (j.member? "compiler") =
      some (b.filled j).compiler :=
    orElse?_section hcompiler fun _ => Compiler.ofJson?_thinned hb.timeoutSecs
  rw [ofJson?, hfields]
  simp only [fieldNames, List.map_cons, List.map_nil, hroot, hdir, hstubs, hbytes, hexternal,
    hlocal, hlookup, hkeep, hcompiler, Option.bind_some, Option.bind_eq_bind]

end Build

/-! ### The repair of escaping -/

namespace Escaping

def filled (e : Escaping) (j : Json) : Escaping :=
  let default : Escaping := {}
  { maxPasses := if j.has "max_passes" then e.maxPasses else default.maxPasses
    backup := if j.has "backup" then e.backup else default.backup
    backupSuffix := if j.has "backup_suffix" then e.backupSuffix else default.backupSuffix
    extensions := if j.has "extensions" then e.extensions else default.extensions
    validateAfterFix :=
      if j.has "validate_after_fix" then e.validateAfterFix else default.validateAfterFix }

theorem ofJson?_thinned {e : Escaping} (he : e.maxPasses < Text.countLimit) {j : Json}
    (hj : Thinned e.toJson j) : ofJson? j = some (e.filled j) := by
  have hfields :
      fields? ["max_passes", "backup", "backup_suffix", "extensions", "validate_after_fix"] j =
        some [j.member? "max_passes", j.member? "backup", j.member? "backup_suffix",
          j.member? "extensions", j.member? "validate_after_fix"] :=
    hj.fields?_eq rfl (by decide)
  obtain ⟨hpasses, hbackup, hsuffix, hextensions, hvalidate⟩ := hj.of_member?
    ["max_passes", "backup", "backup_suffix", "extensions", "validate_after_fix"] rfl (by decide)
  have hpasses : orElse? 6 nat? (j.member? "max_passes") = some (e.filled j).maxPasses :=
    orElse?_thinned hpasses (nat?_ofNat he) (by simp [ofNat])
  have hbackup : orElse? true bool? (j.member? "backup") = some (e.filled j).backup :=
    orElse?_thinned hbackup rfl (by simp)
  have hsuffix : orElse? ".bak" string? (j.member? "backup_suffix") =
      some (e.filled j).backupSuffix :=
    orElse?_thinned hsuffix rfl (by simp)
  have hextensions : orElse? ["tex", "sty"] (list? string?) (j.member? "extensions") =
      some (e.filled j).extensions :=
    orElse?_thinned hextensions (list?_strings _) (by simp [strings])
  have hvalidate : orElse? true bool? (j.member? "validate_after_fix") =
      some (e.filled j).validateAfterFix :=
    orElse?_thinned hvalidate rfl (by simp)
  simp only [ofJson?, hfields, hpasses, hbackup, hsuffix, hextensions, hvalidate,
    Option.bind_some, Option.bind_eq_bind]

end Escaping

/-! ### The settings -/

/-- The numbers have the ranges of machine words. -/
structure Fits (c : Config) : Prop where
  build : c.build.Fits
  maxPasses : c.escaping.maxPasses < Text.countLimit

def filled (c : Config) (j : Json) : Config :=
  let default : Config := {}
  { build := (j.member? "build").elim default.build c.build.filled
    escaping := (j.member? "escaping").elim default.escaping c.escaping.filled
    logLevel := if j.has "log_level" then c.logLevel else default.logLevel }

theorem ofJson?_thinned {c : Config} (hc : c.Fits) {j : Json} (hj : Thinned c.toJson j) :
    ofJson? j = some (c.filled j) := by
  have hfields : fields? ["build", "escaping", "log_level"] j =
      some [j.member? "build", j.member? "escaping", j.member? "log_level"] :=
    hj.fields?_eq rfl (by decide)
  obtain ⟨hbuild, hescaping, hlevel⟩ :=
    hj.of_member? ["build", "escaping", "log_level"] rfl (by decide)
  have hbuild : orElse? {} Build.ofJson? (j.member? "build") = some (c.filled j).build :=
    orElse?_section hbuild fun _ => Build.ofJson?_thinned hc.build
  have hescaping : orElse? {} Escaping.ofJson? (j.member? "escaping") =
      some (c.filled j).escaping :=
    orElse?_section hescaping fun _ => Escaping.ofJson?_thinned hc.maxPasses
  have hlevel : orElse? .info LogLevel.ofJson? (j.member? "log_level") =
      some (c.filled j).logLevel :=
    orElse?_thinned hlevel (LogLevel.ofName?_name _) (by simp)
  simp only [ofJson?, hfields, hbuild, hescaping, hlevel, Option.bind_some, Option.bind_eq_bind]

theorem filled_toJson (c : Config) : c.filled c.toJson = c := by
  have hcompiler : c.build.compiler.filled c.build.compiler.toJson = c.build.compiler := rfl
  have hbuild : c.build.filled c.build.toJson = c.build := rfl
  have hescaping : c.escaping.filled c.escaping.toJson = c.escaping := rfl
  rfl

theorem exact_toJson {c : Config} (hc : c.Fits) : Exact 5 c.toJson := by
  have hcompiler : Exact 3 c.build.compiler.toJson :=
    exact_record ⟨.string 2 _, exact_strings 1 _, exact_ofNat 2 hc.build.timeoutSecs⟩
  have hbuild : Exact 4 c.build.toJson :=
    exact_record ⟨exact_path 3 _, exact_ofOption fun p _ => exact_path 3 p, .bool 3 _,
      exact_ofNat 3 hc.build.minArtifactBytes, exact_strings 2 _, exact_strings 2 _,
      exact_ofOption fun s _ => .string 3 s, .bool 3 _, hcompiler⟩
  have hescaping : Exact 4 c.escaping.toJson :=
    exact_record ⟨exact_ofNat 3 hc.maxPasses, .bool 3 _, .string 3 _, exact_strings 2 _, .bool 3 _⟩
  exact exact_record ⟨hbuild, hescaping, .string 4 _⟩

theorem ofText?_of_print {c : Config} (hc : c.Fits) : ofText? c.print = some c := by
  rw [ofText?, print, ofText?_pretty (exact_toJson hc), Option.bind_some,
    ofJson?_thinned hc (.same _), filled_toJson]

/-! ### Sections left out

An empty section is read as the defaults of the section, as one that is left out is. -/

section

variable {before after : List (String × Json)} {o u : Option Json}

theorem Compiler.ofJson?_empty : Compiler.ofJson? (.object []) = some {} := rfl

theorem Build.ofJson?_empty : Build.ofJson? (.object []) = some {} := rfl

theorem Escaping.ofJson?_empty : Escaping.ofJson? (.object []) = some {} := rfl

theorem Build.ofJson?_around (hname : "compiler" ∉ (before ++ after).map Prod.fst)
    (h : orElse? {} Compiler.ofJson? o = orElse? {} Compiler.ofJson? u) :
    Build.ofJson? (around before after "compiler" o) =
      Build.ofJson? (around before after "compiler" u) := by
  rcases fields?_around hname fieldNames with hnone | hfields
  · rw [Build.ofJson?, Build.ofJson?, hnone, hnone]
  · rw [Build.ofJson?, Build.ofJson?, hfields, hfields]
    simp only [fieldNames, List.map_cons, List.map_nil, if_true, if_false, String.reduceEq, h]

/-- The settings depend on the build only by what is read of it. -/
theorem ofJson?_around_build (hname : "build" ∉ (before ++ after).map Prod.fst)
    (h : orElse? {} Build.ofJson? o = orElse? {} Build.ofJson? u) :
    ofJson? (around before after "build" o) = ofJson? (around before after "build" u) := by
  rcases fields?_around hname ["build", "escaping", "log_level"] with hnone | hfields
  · rw [ofJson?, ofJson?, hnone, hnone]
  · rw [ofJson?, ofJson?, hfields, hfields]
    simp only [List.map_cons, List.map_nil, if_true, if_false, String.reduceEq, h]

theorem ofJson?_around_escaping (hname : "escaping" ∉ (before ++ after).map Prod.fst)
    (h : orElse? {} Escaping.ofJson? o = orElse? {} Escaping.ofJson? u) :
    ofJson? (around before after "escaping" o) = ofJson? (around before after "escaping" u) := by
  rcases fields?_around hname ["build", "escaping", "log_level"] with hnone | hfields
  · rw [ofJson?, ofJson?, hnone, hnone]
  · rw [ofJson?, ofJson?, hfields, hfields]
    simp only [List.map_cons, List.map_nil, if_true, if_false, String.reduceEq, h]

end

end Manuscript.Config
