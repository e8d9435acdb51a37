import Manuscript.Shell.Regular
import Manuscript.Shell.Tool.Files

/-!
The tool that looks for lines in which an expression matches.
-/

namespace Manuscript.Shell.Tool.Grep

/-- How much of a line a match has to be. -/
inductive Extent
  | part
  | word
  | line
  deriving DecidableEq, Repr

/-- What a line is tested for. -/
structure Search where
  expressions : List Regular
  folds : Bool
  extent : Extent
  inverted : Bool

namespace Search

/-- The first match from a place on, of any of the expressions, and the longest of those that begin
there. -/
def first? (p : Search) (s : Regular.Subject) (place : Nat) : Option (Nat × Nat) :=
  let starts (i : Nat) : Bool :=
    match p.extent with
    | .part => true
    | .word => !s.isWordBefore i
    | .line => i == 0
  let accepts (i : Nat) : Bool :=
    match p.extent with
    | .part => true
    | .word => !s.isWordAt i
    | .line => i == s.text.size
  p.expressions.foldl (fun best r =>
    match best, r.searchBetween s starts accepts place with
    | none, found => found.map fun f => (f.first, f.last)
    | some b, none => some b
    | some (a, b), some f =>
      if f.first < a || (f.first == a && b < f.last) then some (f.first, f.last) else some (a, b))
    none

def subject (p : Search) (line : Text) : Regular.Subject :=
  ⟨(Octets.characters line).toArray, p.folds⟩

def selects (p : Search) (line : Text) : Bool :=
  (p.first? (p.subject line) 0).isSome != p.inverted

def matchesIn (p : Search) (s : Regular.Subject) : Nat → Nat → List (Nat × Text)
  | 0, _ => []
  | fuel + 1, i =>
    match p.first? s i with
    | none => []
    | some (a, b) =>
      if a = b then if a < s.text.size then matchesIn p s fuel (a + 1) else []
      else (a, (s.text.extract a b).toList) :: matchesIn p s fuel b

end Search

structure Layout where
  names : Bool
  numbers : Bool
  offsets : Bool
  onlyMatches : Bool
  count : Bool
  list : Option Bool
  quiet : Bool
  before : Option Nat
  behind : Option Nat
  most : Option Nat
  asText : Bool
  skipsBinary : Bool
  lineEnd : Char
  zeroAfterName : Bool

structure Line where
  number : Nat
  offset : Nat
  text : Text
  selected : Bool

/-- The lines of a text up to the last one that is looked for; the lines behind that one count as
not selected. -/
def marked (p : Search) (most : Option Nat) : Nat → Nat → Nat → List Text → List Line
  | _, _, _, [] => []
  | number, offset, found, l :: ls =>
    let hit := !most.any (· ≤ found) && p.selects l
    ⟨number, offset, l, hit⟩ ::
      marked p most (number + 1) (offset + l.length + 1) (if hit then found + 1 else found) ls

def near (reach : Nat) (ls : List Line) : List Bool :=
  (ls.foldl (fun (left, shown) l =>
    if l.selected then (reach, true :: shown)
    else (left - 1, (0 < left) :: shown)) ((0, []) : Nat × List Bool)).2.reverse

/-- The lines that are shown with those around them. -/
def withContext (o : Layout) (ls : List Line) : List Line :=
  let behind := near (o.behind.getD 0) ls
  let before := (near (o.before.getD 0) ls.reverse).reverse
  ((ls.zip (behind.zip before)).filter fun e => e.2.1 || e.2.2).map (·.1)

def Layout.head (o : Layout) (name : Text) (l : Line) (offset : Nat) : Text :=
  let mark := if l.selected then ':' else '-'
  (if o.names then name ++ [if o.zeroAfterName then '\x00' else mark] else []) ++
    (if o.numbers then Text.ofNat l.number ++ [mark] else []) ++
    (if o.offsets then Text.ofNat offset ++ [mark] else [])

def isSpelled (t : Text) : Bool :=
  !(Octets.characters t).any Octets.isStray

/-- One shown line; what cannot be spelled is left out, and that is told. -/
def Layout.shown (o : Layout) (p : Search) (name : Text) (l : Line) : Text × Bool :=
  let piece (offset : Nat) (t : Text) : Text × Bool :=
    if o.asText || isSpelled t then (o.head name l offset ++ t ++ [o.lineEnd], false)
    else ([], true)
  if o.onlyMatches then
    if !l.selected || p.inverted then ([], false)
    else
      let s := p.subject l.text
      (p.matchesIn s (s.text.size + 1) 0).foldl (fun (t, left) (i, found) =>
        let before := (Octets.ofCharacters (s.text.extract 0 i).toList).length
        let (u, out) := piece (l.offset + before) (Octets.ofCharacters found)
        (t ++ u, left || out)) ([], false)
  else piece l.offset l.text

/-- Lines one behind the other, with a mark between those that are apart. -/
def Layout.all (o : Layout) (p : Search) (name : Text) : Option Nat → List Line → List Text × Bool
  | _, [] => ([], false)
  | last, l :: ls =>
    let gap := (o.before.isSome || o.behind.isSome) && last.any (· + 1 < l.number)
    let (t, left) := o.shown p name l
    let (ts, others) := Layout.all o p name (some l.number) ls
    ((if gap then "--\n".toList else []) :: t :: ts, left || others)

structure Outcome where
  found : Bool := false
  troubled : Bool := false
  shown : Bool := false

def lookThrough (p : Search) (o : Layout) (name : Text) (t : Text) (r : Outcome) (s : State) :
    Outcome × State :=
  let lines := (partsAt o.lineEnd t)
  let lines := if lines.getLast? == some [] then lines.dropLast else lines
  let isBinary := !o.asText && o.lineEnd == '\n' && t.contains '\x00'
  if isBinary && o.skipsBinary then (r, s)
  else
    let ls := marked p o.most 1 0 0 lines
    let count := (ls.filter (·.selected)).length
    let found := 0 < count
    let r := { r with found := r.found || found }
    let note (s : State) : State := complain [name, ": binary file matches".toList] s
    if o.quiet then (r, s)
    else match o.list with
      | some wanted =>
        let line := name ++ [if o.zeroAfterName then '\x00' else '\n']
        (r, if found == wanted then s.out line else s)
      | none =>
        if o.count then
          let head := if o.names then name ++ [if o.zeroAfterName then '\x00' else ':'] else []
          (r, s.out (head ++ Text.ofNat count ++ ['\n']))
        else if isBinary then (r, if found then note s else s)
        else
          let chosen := withContext o ls
          let (ts, left) := o.all p name none chosen
          let gap := r.shown && !chosen.isEmpty && (o.before.isSome || o.behind.isSome)
          let s := s.out ((if gap then "--\n".toList else []) ++ ts.flatten)
          ({ r with shown := r.shown || !chosen.isEmpty }, if left then note s else s)

/-- How much of a text is enough to know the answer. -/
def enough (p : Search) (o : Layout) (t : Text) : Option Nat :=
  let most := if o.quiet || o.list.isSome then some 1 else o.most
  most.bind fun most =>
    let lines := (partsAt o.lineEnd t).dropLast
    let go := lines.foldl (fun (n, found) l =>
      if most ≤ found then (n, found)
      else (n + l.length + 1, if p.selects l then found + 1 else found)) ((0, 0) : Nat × Nat)
    if most ≤ go.2 && o.behind.isNone then some go.1 else none

def Layout.showsLines (o : Layout) : Bool :=
  !o.quiet && !o.count && o.list.isNone && o.most.all fun n => 1 < n

/-- Looks through what a name stands for. The file that lines are shown in is left out. -/
def lookIn (p : Search) (o : Layout) (silent : Bool) (name : Text) (r : Outcome) (s : State) :
    Outcome × State :=
  let shown := if name == ['-'] then "(standard input)".toList else name
  if o.showsLines && (metOutput? name s).isSome then
    ({ r with troubled := true },
      if silent then s else complain [shown, ": input file is also the output".toList] s)
  else if name == ['-'] then
    let (t, s) := match s.input with
      | .source n => s.takePart (.source n) (enough p o)
      | h => s.takeAllOf h
    lookThrough p o shown t r s
  else match s.contents name with
    | .ok (t, s) => lookThrough p o shown t r s
    | .error f =>
      ({ r with troubled := true },
        if silent then s else complain [name, ": ".toList, causeText f] s)

def fitsAny (os : List GivenOption) (letter : Char) (path : Text) : Bool :=
  (os.filter (·.1 == letter)).any fun o =>
    let pattern := Manuscript.Shell.mark false (o.2.getD [])
    Wildcard.matchesText { caret := true } pattern (lastName path)

/-- The files below a name, each with the way to it. Some directories are left out. -/
def filesBelow (s : State) (os : List GivenOption) : Nat → Text → Location → List Text
  | 0, _, _ => []
  | fuel + 1, name, loc =>
    (namesIn s loc).flatMap fun child =>
      let path := if name.isEmpty then child else System.under name child
      match s.disk.spot (Octets.path path) (isGiven os 'R') with
      | .ok (.taken loc .directory) =>
        if fitsAny os '\x03' path then [] else filesBelow s os fuel path loc
      | .ok (.taken _ (.file ..)) => [path]
      | _ => []

def isWanted (os : List GivenOption) (path : Text) : Bool :=
  (!os.any (·.1 == '\x01') || fitsAny os '\x01' path) && !fitsAny os '\x02' path

/-- The names to look through: those of files, and in place of directories those below them. -/
def namesFor (os : List GivenOption) (names : List Text) (s : State) : List Text :=
  if isGiven os 'r' || isGiven os 'R' then
    let names := if names.isEmpty then [[]] else names
    names.flatMap fun name =>
      let place := if name.isEmpty then ['.'] else name
      match entryAt s true place with
      | .ok (loc, .directory) => (filesBelow s os 1000 name loc).filter (isWanted os)
      | _ => [name]
  else orInput names

def table : OptionTable :=
  { letters := "EFGPe:f:iyvwxcLlqsonHhbm:rRaIzZTUA:B:C:d:D:"
    words := [("extended-regexp", .nothing, 'E'), ("fixed-strings", .nothing, 'F'),
      ("basic-regexp", .nothing, 'G'), ("perl-regexp", .nothing, 'P'), ("regexp", .value, 'e'),
      ("file", .value, 'f'), ("ignore-case", .nothing, 'i'), ("invert-match", .nothing, 'v'),
      ("word-regexp", .nothing, 'w'), ("line-regexp", .nothing, 'x'), ("count", .nothing, 'c'),
      ("files-without-match", .nothing, 'L'), ("files-with-matches", .nothing, 'l'),
      ("quiet", .nothing, 'q'), ("silent", .nothing, 'q'), ("no-messages", .nothing, 's'),
      ("only-matching", .nothing, 'o'), ("line-number", .nothing, 'n'),
      ("with-filename", .nothing, 'H'), ("no-filename", .nothing, 'h'),
      ("byte-offset", .nothing, 'b'), ("max-count", .value, 'm'), ("recursive", .nothing, 'r'),
      ("dereference-recursive", .nothing, 'R'), ("text", .nothing, 'a'),
      ("null-data", .nothing, 'z'), ("null", .nothing, 'Z'), ("after-context", .value, 'A'),
      ("before-context", .value, 'B'), ("context", .value, 'C'), ("color", .maybe, 'T'),
      ("colour", .maybe, 'T'), ("line-buffered", .nothing, 'U'), ("include", .value, '\x01'),
      ("exclude", .value, '\x02'), ("exclude-dir", .value, '\x03')]
    status := 2 }

/-- Arguments in which a count that looks like an option asks for lines around each one. -/
def withCounts (args : List Text) : List Text :=
  args.flatMap fun a =>
    match a with
    | '-' :: d :: more =>
      if (d :: more).all Char.isDigit then [['-', 'C'], d :: more] else [a]
    | _ => [a]

def usage (s : State) : State :=
  ((s.tell ["Usage: ".toList, s.self, " [OPTION]... PATTERNS [FILE]...".toList]).tell
    ["Try '".toList, s.self, " --help' for more information.".toList]).setStatus 2

/-- The texts of the patterns that options give, each line of them one; without such an option the
first operand is one. -/
def patterns (os : List GivenOption) (operands : List Text) (s : State) :
    Option (Except (List Text) (List Text × List Text × State)) :=
  let given := os.filter fun o => o.1 == 'e' || o.1 == 'f'
  if given.isEmpty then
    match operands with
    | [] => none
    | p :: names => some (.ok (partsAt '\n' p, names, s))
  else
    some (given.foldl (fun r (c, v) => r.bind fun (ps, names, s) =>
      let v := v.getD []
      if c == 'e' then .ok (ps ++ partsAt '\n' v, names, s)
      else match contentsOf v s with
        | .ok (t, s) => .ok (ps ++ (linesOf t).1, names, s)
        | .error f => .error [v, ": ".toList, causeText f]) (.ok ([], operands, s)))

def expressionsOf (os : List GivenOption) (kind : Char) (ps : List Text) :
    Except (List Text) (List Regular) :=
  let way := (lastOf? os ['E', 'F', 'G', 'P']).getD kind
  ps.mapM fun p =>
    let p := Octets.characters p
    if way == 'F' then .ok (Regular.ofLiteral p)
    else match Regular.ofText (way != 'G') false p with
      | .ok (r, _) => .ok r
      | .error f => .error [f.message.toList]

def contextOf (os : List GivenOption) (c : Char) : Except (List Text) (Option Nat) :=
  match lastValue? os c with
  | none => .ok none
  | some t =>
    match digits? t with
    | some n => .ok (some n)
    | none => .error [t, ": invalid context length argument".toList]

def layoutOf (os : List GivenOption) (names : Bool) : Except (List Text) Layout := do
  let around ← contextOf os 'C'
  let behind ← contextOf os 'A'
  let before ← contextOf os 'B'
  let most ← match lastValue? os 'm' with
    | none => .ok none
    | some t =>
      match integer? t with
      | some n => .ok (if n < 0 then none else some n.toNat)
      | none => .error ["invalid max count".toList]
  let zeros := isGiven os 'z'
  return {
    names := match lastOf? os ['H', 'h'] with
      | some c => c == 'H'
      | none => names
    numbers := isGiven os 'n'
    offsets := isGiven os 'b'
    onlyMatches := isGiven os 'o'
    count := isGiven os 'c'
    list := (lastOf? os ['l', 'L']).map (· == 'l')
    quiet := isGiven os 'q'
    before := before.or around
    behind := behind.or around
    most
    asText := isGiven os 'a'
    skipsBinary := isGiven os 'I'
    lineEnd := if zeros then '\x00' else '\n'
    zeroAfterName := isGiven os 'Z' }

/-- Looks through files one after the other; one match is enough for a tool that says nothing. -/
def lookInAll (p : Search) (o : Layout) (silent : Bool) : List Text → Outcome → State →
    Outcome × State
  | [], r, s => (r, s)
  | name :: names, r, s =>
    if o.quiet && r.found then (r, s)
    else
      let (r, s) := lookIn p o silent name r s
      lookInAll p o silent names r s

def run (kind : Char) (args : List Text) (s : State) : State :=
  let s := { s with self := "grep".toList }
  match table.readAll (withCounts args) with
  | .error e => usage (complain e.message s)
  | .ok (os, operands) =>
    match patterns os operands s with
    | none => usage s
    | some (.error message) => (complain message s).setStatus 2
    | some (.ok (ps, names, s)) =>
      let isTree := isGiven os 'r' || isGiven os 'R'
      let several := 1 < names.length || (isTree && (names.isEmpty ||
        names.any fun n => System.kindOf? s true n == some .directory))
      match expressionsOf os kind ps, layoutOf os several with
      | .error message, _ => (complain message s).setStatus 2
      | .ok _, .error message => (complain message s).setStatus 2
      | .ok rs, .ok o =>
        let p : Search :=
          { expressions := rs
            folds := isGiven os 'i' || isGiven os 'y'
            extent := if isGiven os 'x' then .line else if isGiven os 'w' then .word else .part
            inverted := isGiven os 'v' }
        let (r, s) := lookInAll p o (isGiven os 's') (namesFor os names s) {} s
        let status := if r.found && (o.quiet || !r.troubled) then 0 else if r.troubled then 2 else 1
        s.setStatus status

def grep : List Text → State → State := run 'G'

def egrep : List Text → State → State := run 'E'

def fgrep : List Text → State → State := run 'F'

end Manuscript.Shell.Tool.Grep
