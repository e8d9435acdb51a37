import Manuscript.Build.Check

/-!
Compilers that only pretend, for trying out what the checks make of them.
-/

namespace Manuscript.Simulated

inductive Behavior
  | working (bytes : Nat)
  | emptyArtifact
  | failing (code : Int)
  | failingWithArtifact (bytes : Nat)
  | missing
  | timingOut
  deriving DecidableEq, Repr

def name : String :=
  "mock-compiler"

def writeArtifact (request : CompileRequest) (bytes : Nat) (d : Disk) :
    Except CompileError Unit × Disk :=
  match Disk.makeDirs (request.outputDir.text.length + 1) request.outputDir d with
  | (.error f, d) => (.error (.io f.message), d)
  | (.ok (), d) =>
    match d.write request.expectedArtifact (List.replicate bytes 37) with
    | (.error f, d) => (.error (.io f.message), d)
    | (.ok (), d) => (.ok (), d)

def output (success : Bool) (code : Int) (stdout : String) : CompileOutput :=
  ⟨success, some code, stdout.toList, []⟩

def writing (request : CompileRequest) (bytes : Nat) (reported : CompileOutput) (d : Disk) :
    Except CompileError CompileOutput × Disk :=
  match writeArtifact request bytes d with
  | (.ok (), d) => (.ok reported, d)
  | (.error e, d) => (.error e, d)

def behave (request : CompileRequest) (d : Disk) :
    Behavior → Except CompileError CompileOutput × Disk
  | .working bytes => writing request bytes (output true 0 "Output written.") d
  | .emptyArtifact => writing request 0 (output true 0 "No pages of output.") d
  | .failing code =>
    (.ok (output false code
      "! Undefined control sequence.\nl.12 \\badmacro\n! Emergency stop."), d)
  | .failingWithArtifact bytes =>
    writing request bytes (output false 1 "LaTeX Warning: There were undefined references.") d
  | .missing => (.error (.notFound name), d)
  | .timingOut => (.error (.timedOut (request.timeoutMs / 1000)), d)

/-- A compiler with one behavior, and others for documents whose name contains a marker. -/
def compiler (usual : Behavior) (exceptions : List (String × Behavior)) : Compiler :=
  { name
    run := fun request d =>
      let document := request.document.fileName
      let behavior := match exceptions.find? fun e => Text.occursIn e.1.toList document with
        | some e => e.2
        | none => usual
      behave request d behavior }

end Manuscript.Simulated
