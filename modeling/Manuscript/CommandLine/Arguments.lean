import Manuscript.Config.Basic
import Manuscript.Json.Record

/-!
What the words of a command line ask for.

Options are read from left to right. One with a value takes the rest of its own
word or the next word, which may not look like an option. No option may be
given twice at one place. The options of every command may stand before the
command or behind it, where they count more.
-/

namespace Manuscript.CommandLine

inductive Setting
  | configPath
  | logLevel
  | noStubs
  | verbose
  | reportFile
  | dryRun
  | noBackup
  | maxPasses
  | version
  deriving DecidableEq, Repr

structure Spelling where
  setting : Setting
  long : String
  short : Option Char
  takesValue : Bool

def shared : List Spelling :=
  [⟨.configPath, "config-path", some 'c', true⟩, ⟨.logLevel, "log-level", some 'l', true⟩]

def beforeCommand : List Spelling :=
  ⟨.version, "version", some 'V', false⟩ :: shared

def ofCheck : List Spelling :=
  [⟨.noStubs, "no-stubs", none, false⟩, ⟨.verbose, "verbose", some 'v', false⟩,
    ⟨.reportFile, "report-json", none, true⟩] ++ shared

def ofFix : List Spelling :=
  [⟨.dryRun, "dry-run", some 'n', false⟩, ⟨.noBackup, "no-backup", none, false⟩,
    ⟨.maxPasses, "max-passes", none, true⟩] ++ shared

inductive UsageError
  | unknownOption (word : Text)
  | repeated (setting : Setting)
  | noValue (option : String)
  | needlessValue (option : String)
  | badValue (value : Text)
  | unexpected (word : Text)
  | unknownCommand (word : Text)
  | noCommand
  deriving DecidableEq, Repr

def UsageError.message : UsageError → String
  | .unknownOption word => String.join ["unknown option ", String.ofList word]
  | .repeated _ => "an option is given twice"
  | .noValue option => String.join ["option --", option, " needs a value"]
  | .needlessValue option => String.join ["option --", option, " takes no value"]
  | .badValue value => String.join ["unusable value '", String.ofList value, "'"]
  | .unexpected word => String.join ["unexpected argument '", String.ofList word, "'"]
  | .unknownCommand word => String.join ["unknown command '", String.ofList word, "'"]
  | .noCommand => "a command is needed: check or fix"

/-! ### Words -/

abbrev Given := List (Setting × Text)

/-- What a word is: settings, with an option that still waits for its value, a word of its own,
or the mark behind which there are no options. -/
inductive Meaning
  | settings (given : Given) (waiting : Option Spelling)
  | operand
  | mark

/-- The settings in the letters behind a dash. Nothing counts behind the one for the version. -/
def letters (known : List Spelling) : Text → Except UsageError (Given × Option Spelling)
  | [] => .ok ([], none)
  | c :: rest =>
    match known.find? (·.short == some c) with
    | none => .error (.unknownOption ['-', c])
    | some o =>
      if o.takesValue then
        match rest with
        | [] => .ok ([], some o)
        | '=' :: value => .ok ([(o.setting, value)], none)
        | value => .ok ([(o.setting, value)], none)
      else if o.setting = .version then .ok ([(o.setting, [])], none)
      else (letters known rest).map fun (given, waiting) => ((o.setting, []) :: given, waiting)

def long (known : List Spelling) (word : Text) : Except UsageError (Given × Option Spelling) :=
  let name := word.takeWhile (· != '=')
  match known.find? (·.long.toList == name), word.drop name.length with
  | none, _ => .error (.unknownOption ('-' :: '-' :: word))
  | some o, '=' :: value =>
    if o.takesValue then .ok ([(o.setting, value)], none) else .error (.needlessValue o.long)
  | some o, _ => if o.takesValue then .ok ([], some o) else .ok ([(o.setting, [])], none)

def meaning (known : List Spelling) (word : Text) : Except UsageError Meaning :=
  match word with
  | ['-', '-'] => .ok .mark
  | '-' :: '-' :: rest => (long known rest).map fun (given, waiting) => .settings given waiting
  | '-' :: c :: rest =>
    (letters known (c :: rest)).map fun (given, waiting) => .settings given waiting
  | _ => .ok .operand

def looksLikeOption : Text → Bool
  | '-' :: _ :: _ => true
  | _ => false

structure Reading where
  settings : Given
  operands : List Text

def Reading.behind (given : Given) (r : Reading) : Reading :=
  { r with settings := given ++ r.settings }

/-- Reads words up to the end. Where `stops` is set the first word that is no option ends the
reading, together with all words behind it. -/
def read (known : List Spelling) (stops : Bool) : List Text → Except UsageError Reading
  | [] => .ok ⟨[], []⟩
  | word :: rest =>
    match meaning known word with
    | .error e => .error e
    | .ok .mark =>
      match stops, rest with
      | true, next :: _ => .error (.unexpected next)
      | _, _ => .ok ⟨[], rest⟩
    | .ok .operand =>
      if stops then .ok ⟨[], word :: rest⟩
      else (read known stops rest).map fun r => { r with operands := word :: r.operands }
    | .ok (.settings given none) =>
      if given.any (·.1 = .version) then .ok ⟨given, []⟩
      else (read known stops rest).map (.behind given)
    | .ok (.settings given (some o)) =>
      match rest with
      | value :: rest =>
        if looksLikeOption value then .error (.noValue o.long)
        else (read known stops rest).map (.behind (given ++ [(o.setting, value)]))
      | [] => .error (.noValue o.long)

/-! ### Values -/

namespace Given

def has (g : Given) (s : Setting) : Bool :=
  g.any (·.1 = s)

def once : Given → Except UsageError Unit
  | [] => .ok ()
  | (s, _) :: rest => if has rest s then .error (.repeated s) else once rest

def value? {α : Type} (g : Given) (s : Setting) (read? : Text → Option α) :
    Except UsageError (Option α) :=
  match g.lookup s with
  | none => .ok none
  | some value =>
    match read? value with
    | some a => .ok (some a)
    | none => .error (.badValue value)

end Given

def path? (t : Text) : Option Path :=
  if t.isEmpty then none else some ⟨t⟩

def levelOf? (t : Text) : Option Config.LogLevel :=
  Config.LogLevel.ofName? (String.ofList t)

/-- A count of 64 bits, perhaps behind a plus sign. -/
def countOf? (t : Text) : Option Nat :=
  let digits := match t with
    | '+' :: rest => rest
    | _ => t
  (Json.digitsValue? digits).bind fun n => if n < Text.countLimit then some n else none

/-! ### Requests -/

structure SharedOptions where
  configPath : Option Path := none
  logLevel : Option Config.LogLevel := none
  deriving DecidableEq, Repr

/-- The options behind a command with those before it where they are not given again. -/
def SharedOptions.over (inner outer : SharedOptions) : SharedOptions :=
  ⟨inner.configPath <|> outer.configPath, inner.logLevel <|> outer.logLevel⟩

structure CheckOptions where
  root : Option Path := none
  noStubs : Bool := false
  verbose : Bool := false
  reportFile : Option Path := none
  deriving DecidableEq, Repr

structure FixOptions where
  directory : Path := ⟨['.']⟩
  dryRun : Bool := false
  noBackup : Bool := false
  maxPasses : Option Nat := none
  deriving DecidableEq, Repr

inductive Command
  | check (options : CheckOptions)
  | fix (options : FixOptions)
  deriving DecidableEq, Repr

inductive Request
  | version
  | run (shared : SharedOptions) (command : Command)
  deriving DecidableEq, Repr

def sharedOptions (g : Given) : Except UsageError SharedOptions := do
  let _ ← Given.once g
  let configPath ← Given.value? g .configPath fun t => some ⟨t⟩
  let logLevel ← Given.value? g .logLevel levelOf?
  .ok { configPath, logLevel }

def operand? : List Text → Except UsageError (Option Path)
  | [] => .ok none
  | [word] =>
    match path? word with
    | some p => .ok (some p)
    | none => .error (.badValue word)
  | _ :: word :: _ => .error (.unexpected word)

def checkRequest (outer : SharedOptions) (words : List Text) : Except UsageError Request := do
  let r ← read ofCheck false words
  let inner ← sharedOptions r.settings
  let root ← operand? r.operands
  let reportFile ← Given.value? r.settings .reportFile path?
  .ok (.run (inner.over outer)
    (.check
      { root
        noStubs := Given.has r.settings .noStubs
        verbose := Given.has r.settings .verbose
        reportFile }))

def fixRequest (outer : SharedOptions) (words : List Text) : Except UsageError Request := do
  let r ← read ofFix false words
  let inner ← sharedOptions r.settings
  let directory ← operand? r.operands
  let maxPasses ← Given.value? r.settings .maxPasses countOf?
  .ok (.run (inner.over outer)
    (.fix
      { directory := directory.getD ⟨['.']⟩
        dryRun := Given.has r.settings .dryRun
        noBackup := Given.has r.settings .noBackup
        maxPasses }))

def request (words : List Text) : Except UsageError Request := do
  let r ← read beforeCommand true words
  let outer ← sharedOptions r.settings
  if Given.has r.settings .version then .ok .version
  else match r.operands with
    | [] => .error .noCommand
    | command :: rest =>
      match String.ofList command with
      | "check" => checkRequest outer rest
      | "fix" => fixRequest outer rest
      | _ => .error (.unknownCommand command)

end Manuscript.CommandLine
