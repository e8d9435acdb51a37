import Manuscript.Shell.Tool.Files
import Manuscript.Shell.Tool.Sed.Script

/-!
The tool that edits lines: how its scripts run.

Each line comes into the space, the instructions are carried out one after the
other, and what is then in the space is printed. What is to be written behind a
line waits until the line itself has been printed.
-/

namespace Manuscript.Shell.Tool.Sed

structure Line where
  text : Text
  ended : Bool
  source : Text
  isLast : Bool

/-- What waits to be written behind a line. -/
inductive Waiting
  | text (t : Text)
  | contents (name : Text)

/-- A range that has begun: whether its last line is known. -/
inductive Range
  | idle
  | until (line : Nat)
  | searching

structure Machine where
  script : Array Instruction
  labels : List (Text × Nat)
  silent : Bool
  lines : List Line
  space : Text := []
  held : Text := []
  ended : Bool := true
  isLast : Bool := false
  source : Text := []
  number : Nat := 0
  replaced : Bool := false
  waiting : List Waiting := []
  ranges : Array Range
  used : Option Regular := none
  out : Handle
  targets : List (Text × Handle)
  owed : Bool := false
  lineEnd : Char
  state : State

inductive Step
  | goOn (place : Nat)
  | done (prints : Bool)
  | again
  | quit (status : Nat) (prints : Bool)
  | stuck

namespace Machine

/-! ### Writing -/

def write (m : Machine) (t : Text) (ended : Bool) : Machine :=
  let t := (if m.owed then [m.lineEnd] else []) ++ t ++ if ended then [m.lineEnd] else []
  { m with state := m.state.emit m.out t, owed := !ended }

def writeRaw (m : Machine) (t : Text) : Machine :=
  if t.isEmpty then m
  else { m with
    state := m.state.emit m.out ((if m.owed then [m.lineEnd] else []) ++ t)
    owed := false }

def writeTo (m : Machine) (name t : Text) : Machine :=
  let text := t ++ if m.ended then [m.lineEnd] else []
  match m.targets.lookup name with
  | some h =>
    if name == "/dev/stdout".toList then m.write t m.ended
    else { m with state := m.state.emit h text }
  | none => m

def flush (m : Machine) : Machine :=
  m.waiting.reverse.foldl (fun m w =>
    match w with
    | .text t => m.writeRaw t
    | .contents name =>
      match contentsOf name m.state with
      | .ok (t, s) => { m with state := s }.writeRaw t
      | .error _ => m) { m with waiting := [] }

def printSpace (m : Machine) : Machine :=
  m.write m.space m.ended

/-- The next line, which takes the place of the present one or is put behind it. -/
def advance (m : Machine) (l : Line) (rest : List Line) (appended : Bool) : Machine :=
  let space := if appended then m.space ++ m.lineEnd :: l.text else l.text
  { m with
    lines := rest
    space
    ended := l.ended
    isLast := l.isLast
    source := l.source
    number := m.number + 1 }

/-! ### Choosing lines -/

def tests (m : Machine) (t : Test) : Option (Bool × Machine) :=
  (t.pattern.or m.used).map fun r =>
    let s : Regular.Subject := ⟨(Octets.characters m.space).toArray, t.folds⟩
    ((r.search s 0).isSome, { m with used := some r })

def isAt (m : Machine) (a : Address) : Option (Bool × Machine) :=
  match a with
  | .line n => some (m.number == n, m)
  | .last => some (m.isLast, m)
  | .every first step =>
    some (if step = 0 then m.number == first
      else first ≤ m.number && (m.number - first) % step = 0, m)
  | .lines t => m.tests t

def endOf (m : Machine) : Ending → Range
  | .at_ (.line n) => .until n
  | .later count => .until (m.number + count)
  | .multiple n =>
    .until (if n = 0 then m.number else (m.number + n - 1) / n * n)
  | .at_ _ => .searching

def setRange (m : Machine) (i : Nat) (r : Range) : Machine :=
  { m with ranges := m.ranges.setIfInBounds i r }

/-- Whether the addresses of an instruction choose the present line, and whether no later line
belongs to the same range. -/
def chosen (m : Machine) (i : Nat) (c : Instruction) : Option ((Bool × Bool) × Machine) :=
  match c.first, c.last with
  | none, _ => some ((true, true), m)
  | some a, none => (m.isAt a).map fun (b, m) => ((b, true), m)
  | some a, some e =>
    match m.ranges.getD i .idle with
    | .idle => (m.isAt a).map fun (b, m) =>
      if !b then ((false, true), m)
      else match m.endOf e with
        | .until n =>
          if n ≤ m.number then ((true, true), m) else ((true, false), m.setRange i (.until n))
        | r => ((true, false), m.setRange i r)
    | .until n =>
      some (if n ≤ m.number then ((m.number ≤ n, true), m.setRange i .idle)
        else ((true, false), m))
    | .searching =>
      match e with
      | .at_ a => (m.isAt a).map fun (b, m) =>
        if b then ((true, true), m.setRange i .idle) else ((true, m.isLast), m)
      | _ => some ((true, true), m)

/-! ### Replacing -/

structure Casing where
  read : Text := []
  all : Option Bool := none
  next : Option Bool := none

def Casing.add (k : Casing) (t : Text) : Casing :=
  let change (upper : Bool) (c : Char) : Char := if upper then c.toUpper else c.toLower
  match t with
  | [] => k
  | c :: rest =>
    let body (c : Char) : Char := match k.all with
      | some upper => change upper c
      | none => c
    let c := match k.next with
      | some upper => change upper c
      | none => body c
    { k with read := (rest.map body).reverse ++ c :: k.read, next := none }

/-- What takes the place of a match. -/
def replacementFor (s : Regular.Subject) (f : Regular.Found) (ps : List Piece) : Text :=
  (ps.foldl (fun (k : Casing) p =>
    match p with
    | .text t => k.add (Octets.characters t)
    | .group n => k.add (f.group s n)
    | .letters 'U' => { k with all := some true, next := none }
    | .letters 'L' => { k with all := some false, next := none }
    | .letters 'u' => { k with next := some true }
    | .letters 'l' => { k with next := some false }
    | .letters _ => { k with all := none, next := none }) {}).read.reverse

/-- A text with matches replaced from a place on. What has been made is in reverse; an empty match
right behind another one does not count. -/
def replaceFrom (r : Regular) (s : Regular.Subject) (u : Substitution) :
    Nat → Nat → Nat → Option Nat → Text → Bool → Text × Bool
  | 0, _, _, _, made, hit => (made.reverse, hit)
  | fuel + 1, place, count, before, made, hit =>
    let between (a b : Nat) : Text := (s.text.extract a b).toList
    match if place ≤ s.text.size then r.search s place else none with
    | none => ((between place s.text.size).reverse ++ made |>.reverse, hit)
    | some f =>
      let made := (between place f.first).reverse ++ made
      let isEmpty := f.first = f.last
      if isEmpty && before = some f.first then
        replaceFrom r s u fuel (f.first + 1) count none
          ((between f.first (f.first + 1)).reverse ++ made) hit
      else
        let count := count + 1
        let takes := u.first ≤ count
        let put := if takes then replacementFor s f u.replaced else between f.first f.last
        let made := put.reverse ++ made
        let hit := hit || takes
        let (next, made) := if isEmpty then
            (f.last + 1, (between f.last (f.last + 1)).reverse ++ made)
          else (f.last, made)
        if takes && !u.global then
          ((between next s.text.size).reverse ++ made |>.reverse, hit)
        else replaceFrom r s u fuel next count (some f.last) made hit

def substitute (m : Machine) (u : Substitution) : Option Machine :=
  (u.test.pattern.or m.used).map fun r =>
    let s : Regular.Subject := ⟨(Octets.characters m.space).toArray, u.test.folds⟩
    let (t, hit) := replaceFrom r s u (s.text.size + 2) 0 0 none [] false
    let m := { m with used := some r }
    if !hit then m
    else
      let m := { m with space := Octets.ofCharacters t, replaced := true }
      let m := if u.prints then m.printSpace else m
      match u.target with
      | some name => m.writeTo name m.space
      | none => m

/-! ### Showing -/

def shownByte (c : Char) : Text :=
  match c with
  | '\\' => "\\\\".toList
  | '\n' => "\\n".toList
  | '\t' => "\\t".toList
  | '\r' => "\\r".toList
  | '\x07' => "\\a".toList
  | '\x08' => "\\b".toList
  | '\x0b' => "\\v".toList
  | '\x0c' => "\\f".toList
  | c =>
    if 32 ≤ c.toNat && c.toNat < 127 then [c]
    else
      let n := c.toNat
      ['\\', Char.ofNat (48 + n / 64), Char.ofNat (48 + n / 8 % 8), Char.ofNat (48 + n % 8)]

def listing (width : Nat) (t : Text) : Text :=
  (t.foldl (fun (made, column) c =>
    let p := shownByte c
    if 1 < width && width - 1 < column + p.length then
      (p.reverse ++ '\n' :: '\\' :: made, p.length)
    else (p.reverse ++ made, column + p.length)) (([], 0) : Text × Nat)).1.reverse ++ ['$']

/-! ### Running -/

def behindBlock (script : Array Instruction) : Nat → Nat → Nat → Nat
  | 0, _, place => place
  | fuel + 1, depth, place =>
    match (script[place]?.map (·.action) : Option Action) with
    | none => place
    | some .blockStart => behindBlock script fuel (depth + 1) (place + 1)
    | some .blockEnd =>
      if depth ≤ 1 then place + 1 else behindBlock script fuel (depth - 1) (place + 1)
    | some _ => behindBlock script fuel depth (place + 1)

def placeOf (m : Machine) (label : Text) : Nat :=
  if label.isEmpty then m.script.size else (m.labels.lookup label).getD m.script.size

/-- Carries out what an instruction says, for a line that it chooses. -/
def perform (m : Machine) (place : Nat) (closes : Bool) (a : Action) : Step × Machine :=
  let go (m : Machine) : Step × Machine := (.goOn (place + 1), m)
  let firstLine : Text := m.space.takeWhile (· != '\n')
  match a with
  | .blockStart => go m
  | .blockEnd => go m
  | .label _ => go m
  | .nothing => go m
  | .jump label => (.goOn (m.placeOf label), m)
  | .jumpIf label =>
    if m.replaced then (.goOn (m.placeOf label), { m with replaced := false }) else go m
  | .jumpUnless label =>
    if m.replaced then go { m with replaced := false } else (.goOn (m.placeOf label), m)
  | .substitute u =>
    match m.substitute u with
    | some m => go m
    | none => (.stuck, m)
  | .exchange pairs =>
    go { m with space := Octets.ofCharacters ((Octets.characters m.space).map fun c =>
      (pairs.lookup c).getD c) }
  | .append t => go { m with waiting := .text t :: m.waiting }
  | .appendContents name => go { m with waiting := .contents name :: m.waiting }
  | .insert t => go (m.writeRaw t)
  | .change t => (.done false, if closes then m.writeRaw t else m)
  | .writeTo name => go (m.writeTo name m.space)
  | .writeFirstTo name => go (m.writeTo name firstLine)
  | .print => go m.printSpace
  | .printFirst => go (m.write firstLine true)
  | .delete => (.done false, m)
  | .deleteFirst =>
    if firstLine.length < m.space.length then
      (.again, { m with space := m.space.drop (firstLine.length + 1) })
    else (.done false, m)
  | .next =>
    match m.lines with
    | [] => (.quit 0 true, m)
    | l :: rest =>
      let m := if m.silent then m else m.printSpace
      go (m.flush.advance l rest false)
  | .appendNext =>
    match m.lines with
    | [] => (.quit 0 true, m)
    | l :: rest => go (m.flush.advance l rest true)
  | .hold => go { m with held := m.space }
  | .appendHold => go { m with held := m.held ++ '\n' :: m.space }
  | .recall => go { m with space := m.held }
  | .appendRecall => go { m with space := m.space ++ '\n' :: m.held }
  | .swap => go { m with space := m.held, held := m.space }
  | .quit status silently => (.quit status (!silently), m)
  | .number => go (m.writeRaw (Text.ofNat m.number ++ ['\n']))
  | .name => go (m.writeRaw (m.source ++ ['\n']))
  | .list width => go (m.writeRaw (listing (width.getD 70) m.space ++ ['\n']))
  | .clear => go { m with space := [] }

def work : Nat → Nat → Machine → Step × Machine
  | 0, _, m => (.done false, { m with state := m.state.outOfTime })
  | fuel + 1, place, m =>
    match m.script[place]? with
    | none => (.done true, m)
    | some c =>
      match m.chosen place c with
      | none => (.stuck, m)
      | some ((hit, closes), m) =>
        if hit == c.negated then
          match c.action with
          | .blockStart => work fuel (behindBlock m.script (m.script.size + 1) 0 place) m
          | _ => work fuel (place + 1) m
        else
          match m.perform place (closes || c.negated) c.action with
          | (.goOn place, m) => work fuel place m
          | other => other

def patience : Nat := 200000

/-- Works on all lines; the present one may be in the space already. The status tells how it came
to an end. -/
def run : Nat → Bool → Machine → Except Unit (Option Nat) × Machine
  | 0, _, m => (.ok none, { m with state := m.state.outOfTime })
  | fuel + 1, hasLine, m =>
    if m.state.halted then (.ok none, m)
    else
      let start : Option Machine :=
        if hasLine then some m
        else match m.lines with
          | [] => none
          | l :: rest => some { m.advance l rest false with replaced := false }
      match start with
      | none => (.ok none, m)
      | some m =>
        match work patience 0 m with
        | (.stuck, m) => (.error (), m)
        | (.again, m) => run fuel true m.flush
        | (.quit status prints, m) =>
          (.ok (some status), (if prints && !m.silent then m.printSpace else m).flush)
        | (.done prints, m) =>
          run fuel false (if prints && !m.silent then m.printSpace else m).flush
        | (.goOn _, m) => (.ok none, m)

end Machine

/-! ### The tool -/

def linesFrom (lineEnd : Char) (source t : Text) : List Line :=
  let parts := partsAt lineEnd t
  let complete := parts.getLast? == some []
  let parts := if complete then parts.dropLast else parts
  match parts.reverse with
  | [] => []
  | l :: ls => ((⟨l, complete, source, false⟩ : Line) ::
      ls.map fun l => ⟨l, true, source, false⟩).reverse

def withLast (ls : List Line) : List Line :=
  match ls.reverse with
  | [] => []
  | l :: rest => ({ l with isLast := true } :: rest).reverse

def usageLines : List String :=
  ["",
    "  -n, --quiet, --silent",
    "                 suppress automatic printing of pattern space",
    "      --debug",
    "                 annotate program execution",
    "  -e script, --expression=script",
    "                 add the script to the commands to be executed",
    "  -f script-file, --file=script-file",
    "                 add the contents of script-file to the commands to be executed",
    "  --follow-symlinks",
    "                 follow symlinks when processing in place",
    "  -i[SUFFIX], --in-place[=SUFFIX]",
    "                 edit files in place (makes backup if SUFFIX supplied)",
    "  -l N, --line-length=N",
    "                 specify the desired line-wrap length for the " ++
      String.ofList [Char.ofNat 96] ++ "l' command",
    "  --posix",
    "                 disable all GNU extensions.",
    "  -E, -r, --regexp-extended",
    "                 use extended regular expressions in the script",
    "                 (for portability use POSIX -E).",
    "  -s, --separate",
    "                 consider files as separate rather than as a single,",
    "                 continuous long stream.",
    "      --sandbox",
    "                 operate in sandbox mode (disable e/r/w commands).",
    "  -u, --unbuffered",
    "                 load minimal amounts of data from the input files and flush",
    "                 the output buffers more often",
    "  -z, --null-data",
    "                 separate lines by NUL characters",
    "      --help     display this help and exit",
    "      --version  output version information and exit",
    "",
    "If no -e, --expression, -f, or --file option is given, then the first",
    "non-option argument is taken as the sed script to interpret.  All",
    "remaining arguments are names of input files; if no input files are",
    "specified, then the standard input is read."]

def usage (s : State) : State :=
  let head := "Usage: ".toList ++ s.self ++
    " [OPTION]... \x7bscript-only-if-no-other-script\x7d [input-file]...".toList
  ((head :: usageLines.map String.toList).foldl (fun s l => s.tell [l]) s).fail

def table : OptionTable :=
  { letters := "nEre:f:i::l:suz"
    words := [("quiet", .nothing, 'n'), ("silent", .nothing, 'n'), ("expression", .value, 'e'),
      ("file", .value, 'f'), ("in-place", .maybe, 'i'), ("line-length", .value, 'l'),
      ("regexp-extended", .nothing, 'E'), ("separate", .nothing, 's'),
      ("unbuffered", .nothing, 'u'), ("null-data", .nothing, 'z'), ("posix", .nothing, 'P'),
      ("debug", .nothing, 'D'), ("sandbox", .nothing, 'S'), ("follow-symlinks", .nothing, 'F')] }

/-- A part of a script: where it comes from and its text. -/
structure Portion where
  file : Option Text
  number : Nat
  text : Text

def portionsOf (os : List GivenOption) (operands : List Text) (s : State) :
    Option (Except (List Text) (List Portion × List Text × State)) :=
  let given := os.filter fun o => o.1 == 'e' || o.1 == 'f'
  if given.isEmpty then
    match operands with
    | [] => none
    | p :: names => some (.ok ([⟨none, 1, p⟩], names, s))
  else
    some (given.foldl (fun r (c, v) => r.bind fun (ps, names, s) =>
      let v := v.getD []
      if c == 'e' then
        let n := (ps.filter (·.file.isNone)).length + 1
        .ok (ps ++ [⟨none, n, v⟩], names, s)
      else match contentsOf v s with
        | .ok (t, s) =>
          let t := if t.getLast? == some '\n' then t.dropLast else t
          .ok (ps ++ [⟨some v, 1, t⟩], names, s)
        | .error f => .error ["couldn't open file ".toList, v, ": ".toList, causeText f])
      (.ok ([], operands, s)))

/-- A complaint about a place in the script, which is in one of its parts. -/
def placed (message : Text) (ps : List Portion) (place : Nat) : List Text :=
  match ps with
  | [] => [message]
  | p :: rest =>
    if p.text.length < place && !rest.isEmpty then placed message rest (place - (p.text.length + 1))
    else match p.file with
      | some name =>
        let line := ((p.text.take (place - 1)).filter (· == '\n')).length + 1
        ["file ".toList, name, " line ".toList, Text.ofNat line, ": ".toList, message]
      | none =>
        ["-e expression #".toList, Text.ofNat p.number, ", char ".toList, Text.ofNat place,
          ": ".toList, message]

def targetNames (is : List Instruction) : List Text :=
  (is.filterMap fun i =>
    match i.action with
    | .writeTo name => some name
    | .writeFirstTo name => some name
    | .substitute u => u.target
    | _ => none).eraseDups

def openTargets (is : List Instruction) (s : State) :
    Except (List Text) (List (Text × Handle) × State) :=
  (targetNames is).foldl (fun r name => r.bind fun (ts, s) =>
    match s.openNamed .write name with
    | .ok (h, s) => .ok ((name, h) :: ts, s)
    | .error f => .error ["couldn't open file ".toList, name, ": ".toList, causeText f])
    (.ok ([], s))

def machineFor (is : List Instruction) (os : List GivenOption) (silent : Bool) (lines : List Line)
    (out : Handle) (targets : List (Text × Handle)) (s : State) : Machine :=
  { script := is.toArray
    labels := labelsOf is
    silent
    lines
    ranges := (is.map fun i =>
      match i.first with
      | some (.line 0) => Range.searching
      | _ => Range.idle).toArray
    out
    targets
    lineEnd := if isGiven os 'z' then '\x00' else '\n'
    state := s }

def concluded (r : Except Unit (Option Nat) × Machine) : State × Bool :=
  match r with
  | (.error (), m) =>
    (failWith ["-e expression #1, char 0: no previous regular expression".toList] m.state, true)
  | (.ok (some status), m) => (if status = 0 then m.state else m.state.setStatus status, true)
  | (.ok none, m) => (m.state, m.state.halted)

/-- The lines under names, and what went wrong with them; what cannot be read at all ends the
run behind the lines before it. -/
def gatherLines (lineEnd : Char) (separate : Bool) :
    List Text → State → List Line × Option (List Text) × State
  | [], s => ([], none, s)
  | name :: names, s =>
    match contentsOf name s with
    | .ok (t, s) =>
      let ls := linesFrom lineEnd name t
      let ls := if separate then withLast ls else ls
      let (rest, stop, s) := gatherLines lineEnd separate names s
      (ls ++ rest, stop, s)
    | .error f =>
      if f = .os .isDirectory then
        ([], some ["read error on ".toList, name, ": ".toList, causeText f], s)
      else
        gatherLines lineEnd separate names
          ((complain ["can't read ".toList, name, ": ".toList, causeText f] s).setStatus 2)

def editFile (is : List Instruction) (os : List GivenOption) (silent : Bool)
    (targets : List (Text × Handle)) (name : Text) (s : State) : State × Bool :=
  match System.kindOf? s true name, s.contents name with
  | some .directory, _ =>
    ((complain ["couldn't edit ".toList, name, ": not a regular file".toList] s).setStatus 4, false)
  | _, .error f =>
    ((complain ["can't read ".toList, name, ": ".toList, causeText f] s).setStatus 2, false)
  | _, .ok (t, s) =>
    let (n, s) := s.addSink none
    let lineEnd := if isGiven os 'z' then '\x00' else '\n'
    let m := machineFor is os silent (withLast (linesFrom lineEnd name t)) (.sink n) targets s
    let (r, m) := m.run 1000000 false
    let rest := m.lines.flatMap fun l => l.text ++ if l.ended then [lineEnd] else []
    let m := match r with
      | .ok (some _) => m.writeRaw rest
      | _ => m
    let (s, stops) := concluded (r, m)
    let made := (s.sink n).text
    let put (path bytes : Text) (s : State) : State :=
      match s.openNamed .write path with
      | .ok (h, s) => s.emit h bytes
      | .error f => failBy ["couldn't open file ".toList, path] f s
    let s := match (lastValue? os 'i') with
      | some suffix =>
        let backup := if suffix.contains '*' then suffix.flatMap fun c =>
            if c == '*' then lastName name else [c]
          else name ++ suffix
        put backup t s
      | none => s
    ((put name made s).dropSink n, stops)

def editFiles (is : List Instruction) (os : List GivenOption) (silent : Bool)
    (targets : List (Text × Handle)) : List Text → State → State
  | [], s => s
  | name :: names, s =>
    match editFile is os silent targets name s with
    | (s, true) => s
    | (s, false) => editFiles is os silent targets names s

/-- Edits a stream that comes from another command: more of it is taken only if the script does not
come to an end in what is there. -/
def editStream (is : List Instruction) (os : List GivenOption) (silent : Bool)
    (targets : List (Text × Handle)) (names : List Text) (s : State) : State :=
  let lineEnd := if isGiven os 'z' then '\x00' else '\n'
  let separate := isGiven os 's' || isGiven os 'i'
  let (ls, stop, after) := gatherLines lineEnd separate names s
  let m := machineFor is os silent (if stop.isNone then withLast ls else ls)
    ((s.stream? 1).getD .nothing) targets after
  let (r, m) := m.run 1000000 false
  let (t, ended) := concluded (r, m)
  let t := if ended && !m.lines.isEmpty then { t with starved := s.starved } else t
  match stop with
  | some message => if ended then t else (complain message t).setStatus 4
  | none => t

def sed (args : List Text) (s : State) : State :=
  match table.readAll args with
  | .error e => usage (complain e.message s)
  | .ok (os, operands) =>
    match portionsOf os operands s with
    | none => usage s
    | some (.error message) => failWith message s
    | some (.ok (ps, names, s)) =>
      let whole := Text.joinWith ['\n'] (ps.map (·.text))
      let silenced := whole == ['#', 'n'] || (['#', 'n', '\n'] : Text).isPrefixOf whole
      match ofText (isGiven os 'E' || isGiven os 'r') whole with
      | .error ⟨message, none⟩ => failWith [message] s
      | .error ⟨message, some 0⟩ => failWith (placed message (ps.drop (ps.length - 1)) 0) s
      | .error ⟨message, some place⟩ => failWith (placed message ps place) s
      | .ok is =>
        match openTargets is s.succeed with
        | .error message => (complain message s).setStatus 4
        | .ok (targets, s) =>
          let silent := isGiven os 'n' || silenced
          if isGiven os 'i' then editFiles is os silent targets names s
          else editStream is os silent targets (orInput names) s

end Manuscript.Shell.Tool.Sed
