import Manuscript.Shell.Tool.Attributes
import Manuscript.Shell.Tool.Blocks
import Manuscript.Shell.Tool.Columns
import Manuscript.Shell.Tool.Compare
import Manuscript.Shell.Tool.Difference
import Manuscript.Shell.Tool.Find
import Manuscript.Shell.Tool.Grep
import Manuscript.Shell.Tool.Lines
import Manuscript.Shell.Tool.Portion
import Manuscript.Shell.Tool.Listing
import Manuscript.Shell.Tool.Numbering
import Manuscript.Shell.Tool.Numbers
import Manuscript.Shell.Tool.Sed
import Manuscript.Shell.Tool.Sort
import Manuscript.Shell.Tool.Transfer

/-!
The tools by their names. Some of them run other commands.
-/

namespace Manuscript.Shell.Tool

def table : List (String × (List Text → State → State)) :=
  [("[", test true), ("basename", basename), ("cat", cat), ("chmod", chmod), ("cmp", Bytewise.cmp),
    ("comm", comm), ("cp", cp), ("cut", cut), ("dd", Blocks.dd), ("diff", Linewise.diff),
    ("dirname", dirname),
    ("echo", echo), ("egrep", Grep.egrep), ("expr", expr), ("false", fail), ("fgrep", Grep.fgrep),
    ("fold", fold), ("grep", Grep.grep), ("head", Portion.head), ("id", id), ("ln", ln), ("ls", ls),
    ("mkdir", mkdir), ("mktemp", mktemp), ("mv", mv), ("nl", Numbering.nl), ("paste", paste),
    ("printenv", printenv), ("printf", printf), ("pwd", pwd), ("readlink", readlink),
    ("realpath", realpath), ("rev", rev), ("rm", rm), ("rmdir", rmdir), ("sed", Sed.sed),
    ("seq", seq), ("sleep", sleep), ("sort", Sort.sort), ("stat", stat), ("sync", sync),
    ("tac", tac),
    ("tail", Portion.tail), ("tee", tee), ("test", test false), ("touch", touch), ("tr", tr),
    ("true", succeed), ("truncate", truncate), ("tty", tty), ("uname", uname), ("uniq", uniq),
    ("unlink", unlink), ("wc", wc), ("which", which), ("whoami", whoami), ("yes", yes)]

def runners : List (String × (Runner → List Text → State → State)) :=
  [("env", env), ("find", Find.find), ("nice", nice), ("nohup", nohup), ("setsid", setsid),
    ("stdbuf", stdbuf), ("timeout", timeout), ("xargs", xargs)]

def find? (run : Runner) (name : String) : Option (List Text → State → State) :=
  match table.lookup name with
  | some tool => some tool
  | none => (runners.lookup name).map (· run)

end Manuscript.Shell.Tool
