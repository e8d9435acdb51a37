import Manuscript.Shell.System
import Manuscript.Shell.Tool.Options

/-!
Tools that pass on the lines of files in some form, or how many there are.
-/

namespace Manuscript.Shell.Tool

def column (width : Nat) (t : Text) : Text :=
  List.replicate (width - t.length) ' ' ++ t

/-! ### All lines -/

def visible (ends tabs others : Bool) (c : Char) : Text :=
  let n := c.toNat
  if c == '\n' then if ends then ['$', '\n'] else ['\n']
  else if c == '\t' then if tabs then ['^', 'I'] else ['\t']
  else if !others then [c]
  else
    let low (n : Nat) : Text :=
      if n < 32 then ['^', Char.ofNat (n + 64)] else if n == 127 then ['^', '?'] else [Char.ofNat n]
    if n < 128 then low n else 'M' :: '-' :: low (n - 128)

def squeezed : Bool → List Text → List Text
  | _, [] => []
  | afterEmpty, l :: ls =>
    if l.isEmpty && afterEmpty then squeezed true ls else l :: squeezed l.isEmpty ls

def numbered (skipsEmpty : Bool) : Nat → List Text → List Text
  | _, [] => []
  | n, l :: ls =>
    if l.isEmpty && skipsEmpty then l :: numbered skipsEmpty n ls
    else (column 6 (Text.ofNat n) ++ '\t' :: l) :: numbered skipsEmpty (n + 1) ls

/-- Shows some files one behind the other in a style in which a longer text never changes what has
been shown of a shorter one. A file is not put behind itself. -/
def showEach (style : Text → Text) : List Text → Text → State → State
  | [], _, s => s
  | name :: names, seen, s =>
    match contentsOf name s with
    | .error e => showEach style names seen (failBy [named name] e s)
    | .ok (t, after) =>
      if (metOutput? name s).any fun (read, written) => read < written then
        showEach style names seen (failWith [named name, ": input file is output file".toList] s)
      else
        let all := seen ++ t
        showEach style names all (after.out ((style all).drop (style seen).length))

def cat : List Text → State → State :=
  withOptions ⟨"benstuvAET", [("number", .nothing, 'n'), ("number-nonblank", .nothing, 'b'),
      ("squeeze-blank", .nothing, 's'), ("show-all", .nothing, 'A'), ("show-ends", .nothing, 'E'),
      ("show-tabs", .nothing, 'T'), ("show-nonprinting", .nothing, 'v')], false, 1⟩
    fun os names s =>
      let has (cs : List Char) : Bool := cs.any (isGiven os)
      let style (t : Text) : Text :=
        let (lines, complete) := linesOf t
        let lines := if isGiven os 's' then squeezed false lines else lines
        let lines := if isGiven os 'b' then numbered true 1 lines
          else if isGiven os 'n' then numbered false 1 lines else lines
        let t := Text.joinWith ['\n'] lines ++ if complete && !lines.isEmpty then ['\n'] else []
        t.flatMap (visible (has ['A', 'e', 'E']) (has ['A', 't', 'T']) (has ['A', 'e', 't', 'v']))
      showEach (if os.isEmpty then id else style) (orInput names) [] s.succeed

def tac : List Text → State → State :=
  withOptions ⟨"brs:", [], false, 1⟩ fun _ names s =>
    let turned (t : Text) : Text :=
      let (lines, complete) := linesOf t
      match lines.reverse with
      | [] => []
      | last :: rest => if complete then unlines (last :: rest) else last ++ unlines rest
    throughEach (fun () t => (turned t, ())) (orInput names) () s.succeed

def rev : List Text → State → State :=
  withOptions ⟨"", [], false, 1⟩ fun _ names s =>
    let turned (t : Text) : Text :=
      let (lines, complete) := linesOf t
      let lines := lines.map fun l => Octets.ofCharacters (Octets.characters l).reverse
      Text.joinWith ['\n'] lines ++ if complete && !lines.isEmpty then ['\n'] else []
    throughEach (fun () t => (turned t, ())) (orInput names) () s.succeed

/-- A line cut into pieces of a width; perhaps only behind blanks. -/
def folded (width : Nat) (atBlanks : Bool) : Nat → Text → List Text
  | 0, l => [l]
  | fuel + 1, l =>
    if l.length ≤ width then [l]
    else
      let first := l.take width
      let kept := (first.reverse.dropWhile (· != ' ')).length
      let n := if atBlanks && 0 < kept then kept else width
      l.take n :: folded width atBlanks fuel (l.drop n)

def fold : List Text → State → State :=
  withOptions ⟨"bsw:", [("width", .value, 'w'), ("spaces", .nothing, 's'),
    ("bytes", .nothing, 'b')],
      false, 1⟩ fun os names s =>
    let width := max 1 (((lastValue? os 'w').bind digits?).getD 80)
    let narrowed (t : Text) : Text :=
      let (lines, complete) := linesOf t
      let lines := lines.flatMap fun l => folded width (isGiven os 's') (l.length + 1) l
      Text.joinWith ['\n'] lines ++ if complete && !lines.isEmpty then ['\n'] else []
    throughEach (fun () t => (narrowed t, ())) (orInput names) () s.succeed

/-! ### How many -/

structure Counts where
  lines : Nat := 0
  words : Nat := 0
  characters : Nat := 0
  bytes : Nat := 0
  longest : Nat := 0

def Counts.add (a b : Counts) : Counts :=
  ⟨a.lines + b.lines, a.words + b.words, a.characters + b.characters, a.bytes + b.bytes,
    max a.longest b.longest⟩

def isSpace (c : Char) : Bool :=
  c == ' ' || (9 ≤ c.toNat && c.toNat ≤ 13)

def countWords (t : Text) : Nat :=
  (t.foldl (fun (n, inside) c =>
    if isSpace c then (n, false) else (if inside then n else n + 1, true)) (0, false)).1

def Counts.of (t : Text) (all : Bool) : Counts :=
  let lines := t.foldl (fun n c => if c == '\n' then n + 1 else n) 0
  { lines
    words := countWords t
    characters := if all then (Octets.characters t).length else 0
    bytes := t.length
    longest := if all then
        ((linesOf t).1.map fun l => (Octets.characters l).length).foldl max 0 else 0 }

def Counts.chosen (os : List GivenOption) (c : Counts) : List Nat :=
  if os.isEmpty then [c.lines, c.words, c.bytes]
  else (if isGiven os 'l' then [c.lines] else []) ++ (if isGiven os 'w' then [c.words] else []) ++
    (if isGiven os 'm' then [c.characters] else []) ++ (if isGiven os 'c' then [c.bytes] else []) ++
    (if isGiven os 'L' then [c.longest] else [])

/-- How wide the columns are: wide enough for all sizes together, and for what has no size as wide
as usual. -/
def countWidth (s : State) (os : List GivenOption) (names : List Text) : Nat :=
  if names.length ≤ 1 && (Counts.chosen os {}).length = 1 then 1
  else
    let size (name : Text) : Option Nat :=
      if name == ['-'] then
        match s.input with
        | .file n =>
          (s.files.lookup n).bind fun f => (s.disk.file? f.loc).map List.length
        | _ => none
      else match System.kindOf? s true name with
        | some (.file size _) => some size
        | some _ => none
        | none => some 0
    let sizes := names.map size
    let total := sizes.foldl (fun n x => n + x.getD 0) 0
    max (Text.ofNat total).length (if sizes.any Option.isNone then 7 else 1)

def wc : List Text → State → State :=
  withOptions ⟨"clLmw", [("bytes", .nothing, 'c'), ("chars", .nothing, 'm'),
    ("lines", .nothing, 'l'),
      ("words", .nothing, 'w'), ("max-line-length", .nothing, 'L'), ("total", .value, 't')],
      false, 1⟩ fun os names s =>
    let inputs := orInput names
    let width := countWidth s os inputs
    let wide := isGiven os 'm' || isGiven os 'L'
    let line (c : Counts) (name : Text) : Text :=
      Text.joinWith [' '] ((c.chosen os).map fun n => column width (Text.ofNat n)) ++
        (if name.isEmpty then [] else ' ' :: name) ++ ['\n']
    let (total, s) := inputs.foldl (fun (total, s) name =>
      match contentsOf name s with
      | .ok (t, s) =>
        let c := Counts.of t wide
        (Counts.add total c, s.out (line c (if names.isEmpty then [] else name)))
      | .error f =>
        let s := failBy [named name] f s
        (total, if f = .os .isDirectory then s.out (line {} name) else s))
      (({}, s.succeed) : Counts × State)
    if 1 < names.length then s.out (line total "total".toList) else s

/-! ### Several outputs -/

def tee : List Text → State → State :=
  withOptions ⟨"aip", [("append", .nothing, 'a'), ("ignore-interrupts", .nothing, 'i')], false, 1⟩
    fun os names s =>
      let mode : State.OpenMode := if isGiven os 'a' then .append else .write
      let (handles, s) := names.foldl (fun (hs, s) name =>
        let isDirectory := System.kindOf? s true name == some .directory
        match if isDirectory then .error (.os .isDirectory) else s.openNamed mode name with
        | .ok (h, s) => ((name, h) :: hs, s)
        | .error f => (hs, failBy [named name] f s))
        (([], s.succeed) : List (Text × Handle) × State)
      let (t, s) := s.takeAllOf s.input
      let output := ("'standard output'".toList, (s.stream? 1).getD .nothing)
      let named := handles.reverse.map fun (name, h) => (named name, h)
      (output :: named).foldl (fun s (name, h) =>
        match s.tryEmit h t with
        | (none, s) => s
        | (some e, s) => failBy [name] (.os e) s) s

end Manuscript.Shell.Tool
