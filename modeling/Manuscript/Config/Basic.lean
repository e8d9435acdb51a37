import Manuscript.Path

/-!
The settings of a project: how its root document is checked, how escaping is
repaired, and how much is logged; their defaults, and what makes them unusable.
-/

namespace Manuscript

namespace Config

def standardPackages : List String :=
  ["alltt", "amsfonts", "amsmath", "amssymb", "amsthm", "array", "bm", "calc", "color",
   "dcolumn", "delarray", "fontenc", "graphics", "graphicx", "hhline", "ifthen", "inputenc",
   "latexsym", "longtable", "makeidx", "mathtools", "multicol", "showidx", "tabularx",
   "textcomp", "verbatim", "xspace", "babel", "fancyhdr", "fontspec", "geometry", "lmodern",
   "microtype", "parskip", "polyglossia", "ragged2e", "setspace", "titlesec", "titling",
   "tocloft", "ulem", "xltxtra", "unicode-math", "newtxtext", "newtxmath", "mathptmx", "helvet",
   "courier", "times", "palatino", "libertine", "booktabs", "caption", "float", "multirow",
   "subcaption", "subfig", "threeparttable", "wrapfig", "placeins", "makecell", "colortbl",
   "tabu", "pdflscape", "rotating", "adjustbox", "pdfpages", "mdframed", "tcolorbox", "framed",
   "tikz", "pgf", "pgfplots", "xcolor", "eso-pic", "fontawesome", "fontawesome5",
   "tikzpagenodes", "biblatex", "cite", "cleveref", "csquotes", "hyperref", "hyperxmp",
   "nameref", "natbib", "url", "varioref", "footmisc", "appendix", "glossaries", "imakeidx",
   "nomencl", "algorithm", "algorithm2e", "algorithmic", "algpseudocode", "fancyvrb", "listings",
   "minted", "siunitx", "enumitem", "eforms", "insdljs", "comment", "lipsum", "blindtext",
   "todonotes", "marginnote", "chngcntr", "etoolbox", "expl3", "xparse", "keyval", "kvoptions",
   "xkeyval", "pgfkeys", "ifpdf", "ifxetex", "ifluatex", "iftex", "xstring", "fp", "atbegshi",
   "everypage", "zref", "refcount", "lastpage", "datetime2"]

inductive LogLevel
  | error
  | warn
  | info
  | debug
  | trace
  deriving DecidableEq, Repr

namespace LogLevel

def all : List LogLevel :=
  [error, warn, info, debug, trace]

def name : LogLevel → String
  | error => "error"
  | warn => "warn"
  | info => "info"
  | debug => "debug"
  | trace => "trace"

def ofName? (name : String) : Option LogLevel :=
  all.find? (·.name == name)

end LogLevel

/-- The external compiler: its program, the arguments before the document, and its time limit. -/
structure Compiler where
  program : String := "pdflatex"
  extraArgs : List String := []
  timeoutSecs : Nat := 120
  deriving DecidableEq, Repr

/-- The time limit as a count of milliseconds of 64 bits, which drops what is beyond them. -/
def Compiler.timeoutMillis (c : Compiler) : Nat :=
  c.timeoutSecs * 1000 % Text.countLimit

structure Build where
  rootDocument : Path := ⟨"main.tex".toList⟩
  outputDir : Option Path := none
  generateStubs : Bool := true
  minArtifactBytes : Nat := 1024
  externalPackages : List String := standardPackages
  localPackageBeginnings : List String := []
  /-- The program asked whether the distribution has a package; none switches the lookup off. -/
  packageLookup : Option String := some "kpsewhich"
  keepBasicDocument : Bool := false
  compiler : Compiler := {}
  deriving DecidableEq, Repr

structure Escaping where
  maxPasses : Nat := 6
  backup : Bool := true
  backupSuffix : String := ".bak"
  extensions : List String := ["tex", "sty"]
  validateAfterFix : Bool := true
  deriving DecidableEq, Repr

end Config

structure Config where
  build : Config.Build := {}
  escaping : Config.Escaping := {}
  logLevel : Config.LogLevel := .info
  deriving DecidableEq, Repr

namespace Config

def artifactDirIn (directory : Path) : Option Path → Path
  | some dir => directory.join dir
  | none => directory

namespace Build

def rootDir (b : Build) : Path :=
  b.rootDocument.directory

def artifactDir (b : Build) : Path :=
  artifactDirIn b.rootDir b.outputDir

end Build

inductive Fault
  | emptyRootDocument
  | emptyCompiler
  | emptyPackageLookup
  | noTime
  | noPasses
  | emptyBackupSuffix
  | noExtensions
  deriving DecidableEq, Repr

def Fault.message : Fault → String
  | .emptyRootDocument => "Root document path must not be empty"
  | .emptyCompiler => "Compiler program must not be empty"
  | .emptyPackageLookup =>
    "Package lookup program must not be empty; use null to disable the lookup"
  | .noTime => "Compiler timeout must be at least one second"
  | .noPasses => "Escaping repair needs at least one pass"
  | .emptyBackupSuffix => "Backup suffix must not be empty"
  | .noExtensions => "At least one file extension must be configured for escaping repair"

def isBlankText (s : String) : Bool :=
  (Text.trim s.toList).isEmpty

def fault? (c : Config) : Option Fault :=
  if c.build.rootDocument.text = [] then some .emptyRootDocument
  else if isBlankText c.build.compiler.program then some .emptyCompiler
  else if c.build.packageLookup.any isBlankText then some .emptyPackageLookup
  else if c.build.compiler.timeoutSecs = 0 then some .noTime
  else if c.escaping.maxPasses = 0 then some .noPasses
  else if c.escaping.backupSuffix = "" then some .emptyBackupSuffix
  else if c.escaping.extensions = [] then some .noExtensions
  else none

end Config

end Manuscript
