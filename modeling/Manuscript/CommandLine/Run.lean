import Manuscript.Build.Program
import Manuscript.CommandLine.Commands

/-!
The command line in a tree whose programs are scripts.
-/

namespace Manuscript.CommandLine

def run : String → List Text → Disk → Outcome × Disk :=
  runWith Program.launcher

end Manuscript.CommandLine
