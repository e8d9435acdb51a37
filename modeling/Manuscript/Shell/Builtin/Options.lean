import Manuscript.Shell.Builtin.Variables
import Manuscript.Shell.Tool.Options

/-!
Options of the commands of the extended dialect, and what is said about those
that are not known.
-/

namespace Manuscript.Shell.Builtin

/-- The options and the operands among arguments; a colon stands behind a letter that takes a
value. -/
def optionsOf (letters : String) (args : List Text) :
    Except Tool.OptionFault (List Tool.GivenOption × List Text) :=
  (Tool.OptionTable.mk letters [] true 2).readAll args

def misused (usage : String) (message : List Text) (s : State) : State :=
  let name := usage.toList.takeWhile (· != ' ')
  ((s.warn message).tell [name, ": usage: ".toList, usage.toList]).setStatus 2

def misuse (usage : String) (f : Tool.OptionFault) : State → State :=
  misused usage (match f with
    | .unknownLetter c => [['-', c], ": invalid option".toList]
    | .missingValue c => [['-', c], ": option requires an argument".toList]
    | _ => ["--: invalid option".toList])

end Manuscript.Shell.Builtin
