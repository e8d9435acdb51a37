import Manuscript.Build.Launcher
import Manuscript.Shell.Launch

/-!
The programs of a tree.

A program given by a path is a script in the tree, which must be executable and
say in its first line what reads it, or one that every system has. A program
given by a bare name is looked for among the latter.
-/

namespace Manuscript.Program

def launcher : Launcher :=
  ⟨fun program arguments deadline d =>
    Shell.launch (Shell.Octets.encode program.toList)
      (arguments.map fun a => Shell.Octets.encode a.toList) deadline d⟩

def compiler : String → List String → Compiler :=
  launcher.compiler

def compilerOf : Config.Compiler → Compiler :=
  launcher.compilerOf

def locator : String → Locator :=
  launcher.locator

def locatorOf : Config.Build → Option Locator :=
  launcher.locatorOf

end Manuscript.Program
