import Manuscript.CommandLine.Arguments
import Manuscript.Disk.Basic
import Manuscript.Text.Utf8

/-!
What a command leaves behind: its output, why it failed, and its exit status.
-/

namespace Manuscript.CommandLine

inductive Failure
  | usage (error : UsageError)
  /-- The messages of what went wrong, from the outermost cause in. -/
  | chain (outermost : String) (causes : List String)
  deriving DecidableEq, Repr

namespace Failure

def ofChain : List String → Failure
  | [] => chain "" []
  | outermost :: causes => chain outermost causes

/-- A message whose first line follows a heading and whose other lines are set in. -/
def setIn (heading : Text) (width : Nat) (message : String) : Text :=
  heading ++ Text.joinWith ('\n' :: List.replicate width ' ')
    (Text.splitBy (· == '\n') message.toList)

def numbered (n : Nat) : Text :=
  let digits := Text.ofNat n
  List.replicate (5 - digits.length) ' ' ++ digits ++ [':', ' ']

def listed : List String → List Text
  | [] => []
  | [cause] => [setIn (List.replicate 4 ' ') 4 cause]
  | causes => causes.mapIdx fun i cause => setIn (numbered i) 7 cause

/-- The text of a failure: the outermost message, and the causes below a heading. -/
def report (outermost : String) (causes : List String) : Text :=
  let lines := listed causes
  ("Error: " ++ outermost).toList ++
    if lines.isEmpty then []
    else "\n\nCaused by:\n".toList ++ Text.joinWith ['\n'] lines

def text : Failure → Text
  | usage e => ("error: " ++ e.message).toList
  | chain outermost causes => report outermost causes

/-- Commands that are not understood have an exit status of their own. -/
def status : Failure → Nat
  | usage _ => 2
  | chain _ _ => 1

end Failure

structure Outcome where
  stdout : Text
  failure : Option Failure
  status : Nat
  deriving DecidableEq, Repr

namespace Outcome

def stdoutOf (d : Disk) : Text :=
  Text.ofBytes ⟨(d.said 1).toArray⟩

def done (status : Nat) (d : Disk) : Outcome × Disk :=
  (⟨stdoutOf d, none, status⟩, d)

def failed (f : Failure) (d : Disk) : Outcome × Disk :=
  (⟨stdoutOf d, some f, f.status⟩, d)

end Outcome

end Manuscript.CommandLine
