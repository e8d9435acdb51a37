import Manuscript.Build.Compiler

/-!
The outcome of one build check.
-/

namespace Manuscript

inductive CheckKind
  | basic
  | full
  deriving DecidableEq, Repr

namespace CheckKind

def label : CheckKind → String
  | basic => "basic"
  | full => "full"

def name : CheckKind → String
  | basic => "Basic"
  | full => "Full"

def ofName? : String → Option CheckKind
  | "Basic" => some basic
  | "Full" => some full
  | _ => none

end CheckKind

structure CheckResult where
  kind : CheckKind
  passed : Bool
  /-- Passed only because there was no compiler to ask. -/
  vacuous : Bool
  document : Path
  artifact : Path
  artifactSize : Option Nat
  exitCode : Option Int
  errors : List String
  warnings : List String
  logTail : List String
  durationMs : Nat
  deriving DecidableEq, Repr

namespace CheckResult

def pending (kind : CheckKind) (document artifact : Path) : CheckResult :=
  { kind, passed := false, vacuous := false, document, artifact, artifactSize := none,
    exitCode := none, errors := [], warnings := [], logTail := [], durationMs := 0 }

def failed (kind : CheckKind) (document : Path) (error : String) : CheckResult :=
  { pending kind document ⟨[]⟩ with errors := [error] }

end CheckResult

end Manuscript
