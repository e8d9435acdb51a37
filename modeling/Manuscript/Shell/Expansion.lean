import Manuscript.Shell.Braces
import Manuscript.Shell.Parameter
import Manuscript.Shell.Wildcard

/-!
Expanding words: the values of parameters, what commands write, the splitting
into fields, and the names of files.

How a command is run so that its output is taken is a parameter here. A word is
first made into pieces: characters that remember whether they were quoted and
whether they may separate fields, and boundaries between arguments.
-/

namespace Manuscript.Shell

inductive Piece
  /-- A character; one that separates fields may do so only if it comes from a value. -/
  | char (c : Char) (quoted splits : Bool)
  | present
  | boundary
  deriving DecidableEq, Repr

namespace Piece

def ofText (quoted splits : Bool) (t : Text) : List Piece :=
  match t, quoted with
  | [], true => [.present]
  | t, quoted => t.map fun c => .char c quoted splits

def text (ps : List Piece) : Text :=
  ps.filterMap fun
    | .char c _ _ => some c
    | _ => none

def marked (ps : List Piece) : Marked :=
  ps.filterMap fun
    | .char c quoted _ => some (c, quoted)
    | _ => none

end Piece

/-! ### Home directories -/

/-- The directory at a place among the working directory and those to go back to; behind a minus
sign, places are counted from the last. -/
def directoryAt? (s : State) (place : Text) : Option Text :=
  let fromLast := place.head? == some '-'
  let digits := if fromLast || place.head? == some '+' then place.drop 1 else place
  if digits.isEmpty || !digits.all Char.isDigit then none
  else (if fromLast then s.stack.reverse else s.stack)[Digits.valueIn 10 digits]?

def homeOf? (s : State) (name : Text) : Option Text :=
  if name.isEmpty then s.value? "HOME".toList
  else if name = "root".toList then some "/root".toList
  else if s.isExtended && name = ['+'] then s.value? "PWD".toList
  else if s.isExtended && name = ['-'] then s.value? "OLDPWD".toList
  else if s.isExtended then directoryAt? s name
  else none

/-- A text with a tilde at its beginning put in. It counts if the name behind it is complete. -/
def withHome (s : State) (isLast : Bool) (stops : List Char) (t : Text) : List Part :=
  match t with
  | '~' :: rest =>
    let name := rest.takeWhile fun c => c != '/' && !stops.contains c
    let behind := rest.drop name.length
    match if behind.isEmpty && !isLast then none else homeOf? s name with
    | some home => [.text home true, .text behind false]
    | none => [.text t false]
  | t => [.text t false]

/-- The parts of a text that assigns, in which a tilde may also stand behind a colon. -/
def withHomes (s : State) (isLast : Bool) : List Text → List Part
  | [] => []
  | [t] => withHome s isLast [] t
  | t :: ts => withHome s true [] t ++ .text [':'] false :: withHomes s isLast ts

/-- The name and the equals sign that a text begins with, if it is like an assignment. -/
def assigning (t : Text) : Text :=
  let name := t.takeWhile (· != '=')
  if name.length < t.length && Reading.isName name then name ++ ['='] else []

/-- A word with its tildes put in. In the extended dialect it is enough that it looks as if it
assigned. -/
def tilded (s : State) (assigns : Bool) : Word → Word
  | [] => []
  | .text t false :: rest =>
    if !t.contains '~' then .text t false :: rest
    else if assigns then withHomes s rest.isEmpty (Text.splitBy (· == ':') t) ++ rest
    else
      let name := if s.isExtended then assigning t else []
      if name.isEmpty then withHome s rest.isEmpty [] t ++ rest
      else .text name false ::
        withHomes s rest.isEmpty (Text.splitBy (· == ':') (t.drop name.length)) ++ rest
  | w => w

/-! ### Values -/

/-- What a parameter has. A star puts all of it together. -/
inductive Held
  | nothing
  | one (t : Text)
  | many (starred : Bool) (ts : List Text)
  deriving DecidableEq, Repr

namespace Held

def joined (s : State) : Held → Text
  | nothing => []
  | one t => t
  | many starred ts => Text.joinWith (if starred || !s.isExtended then s.joint else [' ']) ts

/-- What is made of each text; the plain dialect puts them together before. -/
def map (s : State) (f : Text → Text) : Held → Held
  | nothing => nothing
  | one t => one (f t)
  | many starred ts =>
    if s.isExtended then many starred (ts.map f) else one (f ((many starred ts).joined s))

def isGiven (s : State) (orEmpty : Bool) (h : Held) : Bool :=
  match h with
  | nothing => false
  | one t => !(orEmpty && t.isEmpty)
  | many _ ts => !ts.isEmpty && !(orEmpty && (h.joined s).isEmpty)

def pieces (s : State) (joins quoted : Bool) (h : Held) : List Piece :=
  match h with
  | many starred ts =>
    if joins || (quoted && starred) then Piece.ofText quoted true (h.joined s)
    else match ts.map (Piece.ofText quoted true) with
      | [] => []
      | first :: rest => first ++ rest.flatMap (.boundary :: ·)
  | h => Piece.ofText quoted true (h.joined s)

end Held

/-- A parameter that has been looked up. -/
structure Target where
  shown : Text
  held : Held
  place : Option (Text × Option Text) := none
  isArguments : Bool := false
  places : List Nat := []
  last : Nat := 0

namespace Target

def ofName (s : State) (name : Text) : Target :=
  if State.isList name then
    { shown := name, held := .many (name = ['*']) s.session.arguments, isArguments := true }
  else
    { shown := name
      held := match s.parameter? name with
        | some t => .one t
        | none => .nothing
      place := if Reading.isName name then some (name, none) else none }

def ofPlaces (s : State) (starred : Bool) (name : Text) : Target :=
  let v := s.whole? name
  { shown := name ++ if starred then "[*]".toList else "[@]".toList
    held := .many starred ((v.map (·.texts)).getD [])
    places := ((v.map (·.keys)).getD []).map State.countOf
    last := s.endOf name }

def ofPlace (s : State) (name written : Text) (place : Option Text) : Target :=
  { shown := name ++ '[' :: written ++ [']']
    held := match place.bind (s.textAt? name) with
      | some t => .one t
      | none => .nothing
    place := place.map fun p => (name, some p) }

def slice (s : State) (t : Target) (start : Int) (count : Option Nat) : Held :=
  match t.held with
  | .many starred ts =>
    let (all, places, last) := if t.isArguments then
        (s.session.name :: ts, List.range (ts.length + 1), ts.length + 1)
      else (ts, t.places, t.last)
    let first := if start < 0 then start + last else start
    let behind := (all.zip places).filter fun (_, n) => first ≤ n
    let taken := match count with
      | some n => behind.take n
      | none => behind
    .many starred (if first < 0 then [] else taken.map (·.1))
  | h => h

end Target

def namedParameter? (t : Text) : Option Parameter :=
  let name := t.takeWhile Reading.isNameChar
  match t.drop name.length with
  | [] =>
    if Reading.isName t || (!t.isEmpty && t.all Char.isDigit) then some (.named t) else none
  | [c] => if name.isEmpty && Reading.isSpecial c then some (.named [c]) else none
  | '[' :: rest =>
    if !Reading.isName name || rest.getLast? != some ']' then none
    else match rest.dropLast with
      | ['@'] => some (.element name (.all false))
      | ['*'] => some (.element name (.all true))
      | place => some (.element name (.single [.text place false]))
  | _ => none

/-! ### What is made of texts -/

def inLettersOf (upper all : Bool) (p : Char → Bool) (t : Text) : Text :=
  let f (c : Char) : Char := if p c then (if upper then c.toUpper else c.toLower) else c
  match t with
  | [] => []
  | c :: rest => f c :: if all then rest.map f else rest

/-- Some characters of a text from a place on, which may be counted from the end. There are none
where the end would come before the beginning. -/
def sliceOf? (t : Text) (start : Int) (count : Option Int) : Option Text :=
  let t := Octets.characters t
  let size : Int := t.length
  let first := if start < 0 then start + size else start
  if first < 0 || size < first then some []
  else
    let behind := t.drop first.toNat
    match count with
    | none => some (Octets.ofCharacters behind)
    | some n =>
      if n < 0 then
        if size + n < first then none
        else some (Octets.ofCharacters (behind.take (size + n - first).toNat))
      else some (Octets.ofCharacters (behind.take n.toNat))

def inQuotes (t : Text) : Text :=
  let control (c : Char) : Option Text := match c with
    | '\n' => some "\\n".toList
    | '\t' => some "\\t".toList
    | '\r' => some "\\r".toList
    | '\x07' => some "\\a".toList
    | '\x08' => some "\\b".toList
    | '\x0b' => some "\\v".toList
    | '\x0c' => some "\\f".toList
    | '\x1b' => some "\\E".toList
    | c =>
      if c.toNat < 32 || c.toNat = 127 then
        let digit (n : Nat) : Char := Char.ofNat (48 + n % 8)
        some ['\\', digit (c.toNat / 64), digit (c.toNat / 8), digit c.toNat]
      else none
  if t.any fun c => (control c).isSome then
    "$'".toList ++ (t.flatMap fun c => match control c with
      | some e => e
      | none => if c = '\'' || c = '\\' then ['\\', c] else [c]) ++ ['\'']
  else '\'' :: (t.flatMap fun c => if c = '\'' then "'\\''".toList else [c]) ++ ['\'']

def formOf? (letter : Char) : Option (Text → Text) :=
  match letter with
  | 'Q' => some inQuotes
  | 'U' => some (·.map Char.toUpper)
  | 'L' => some (·.map Char.toLower)
  | 'u' => some (inLettersOf true false fun _ => true)
  | 'E' => some fun t => Reading.withEscapes (t.length + 1) t
  | 'P' => some id
  | _ => none

/-- What is put in place of a text that a pattern covers: an ampersand without quotes is that
text. -/
def replacementFor (m : Marked) (covered : Text) : Text :=
  m.flatMap fun e => if e = ('&', false) then covered else [e.1]

/-- A text in which what a pattern covers is exchanged; behind a sign the pattern has to cover the
beginning or the end. -/
def exchangedIn (style : Wildcard.Style) (all : Bool) (pattern replaced : Marked) (t : Text) :
    Text :=
  match pattern with
  | [] => t
  | ('#', false) :: m =>
    if all then Wildcard.exchanged style pattern (replacementFor replaced) all (t.length + 1) t
    else
      let rest := Wildcard.dropBeginning style true m t
      if rest.length < t.length || m.isEmpty then
        replacementFor replaced (t.take (t.length - rest.length)) ++ rest
      else t
  | ('%', false) :: m =>
    if all then Wildcard.exchanged style pattern (replacementFor replaced) all (t.length + 1) t
    else
      let rest := Wildcard.dropEnding style true m t
      if rest.length < t.length || m.isEmpty then
        rest ++ replacementFor replaced (t.drop rest.length)
      else t
  | m => Wildcard.exchanged style m (replacementFor replaced) all (t.length + 1) t

def State.style (s : State) : Wildcard.Style :=
  { caret := s.isExtended
    groups := s.hasSwitch "extglob"
    dots := s.hasSwitch "dotglob" }

def withoutLineEnds (t : Text) : Text :=
  ((t.filter (· != '\x00')).reverse.dropWhile (· == '\n')).reverse

abbrev Capture := Option Command → State → Text × State

/-- Opens a stream for what a command writes or is to read, and tells its name. What it is given is
read by the command when that is asked for. -/
def channelTo (handle : Handle) (sink : Option Nat) (body : Option Command) (s : State) :
    Text × State :=
  let used := s.session.streams.map (·.1)
  let n := ((List.range 50).map (63 - ·)).find? (!used.contains ·) |>.getD 13
  ("/dev/fd/".toList ++ Text.ofNat n, { s.setStream n handle with
    session.channels := ⟨n, sink, body, s.session.streams⟩ :: s.session.channels })

mutual

/-- The pieces of a word. Arguments are put together if they must not become fields; in a word that
stands in for a value, all that is not quoted may separate fields. -/
def pieces (capture : Capture) : Nat → Bool → Bool → Word → State → List Piece × State
  | 0, _, _, _, s => ([], s)
  | _, _, _, [], s => ([], s)
  | fuel + 1, joins, inside, p :: ps, s =>
    if s.halted then ([], s)
    else
      let (first, s) := partPieces capture fuel joins inside p s
      let (rest, s) := pieces capture fuel joins inside ps s
      (first ++ rest, s)

def partPieces (capture : Capture) : Nat → Bool → Bool → Part → State → List Piece × State
  | 0, _, _, _, s => ([], s)
  | fuel + 1, joins, inside, p, s =>
    match p with
    | .text t quoted => (Piece.ofText quoted inside t, s)
    | .number expression quoted =>
      let (ps, s) := pieces capture fuel true false expression s
      if s.halted then ([], s)
      else
        let (n, s) := s.calculate (Piece.text ps)
        (Piece.ofText quoted true (Text.ofInt n), s)
    | .output body quoted =>
      let (t, s) := capture body s
      (Piece.ofText quoted true (withoutLineEnds t), s)
    | .value p use quoted =>
      let (t, s) := target capture fuel p s
      if s.halted then ([], s) else usePieces capture fuel joins quoted t use s
    | .channel true body =>
      let (t, s) := capture body s
      let (h, s) := s.addSupply ⟨t, false⟩
      let (name, s) := channelTo h none none s
      (Piece.ofText true true name, s)
    | .channel false body =>
      let (n, s) := s.addSink none
      let (name, s) := channelTo (.sink n) (some n) body s
      (Piece.ofText true true name, s)
    | .list _ => ([], s)

def target (capture : Capture) : Nat → Parameter → State → Target × State
  | 0, _, s => (⟨[], .nothing, none, false, [], 0⟩, s)
  | fuel + 1, p, s =>
    let none : Target := { shown := [], held := .nothing }
    match p with
    | .named name => (Target.ofName s name, s)
    | .element name (.all starred) => (Target.ofPlaces s starred name, s)
    | .element name (.single w) =>
      let (ps, s) := pieces capture fuel true false w s
      let written := Piece.text ps
      if s.halted then (none, s)
      else if written.isEmpty then (none, s.discard [name, ": bad array subscript".toList])
      else
        let (place, s) := s.place? name written
        if s.halted then (none, s)
        else
          let s := if place.isNone then s.warn [name, ": bad array subscript".toList] else s
          (Target.ofPlace s name written place, s)
    | .keys name starred =>
      (⟨name, .many starred (((s.whole? name).map (·.keys)).getD []), Option.none, false, [], 0⟩, s)
    | .names beginning starred =>
      let names := s.session.bindings.map (·.1) ++ State.ownNames.map String.toList
      let found := ((names.filter beginning.isPrefixOf).mergeSort Path.textLe).eraseDups
      (⟨beginning, .many starred found, Option.none, false, [], 0⟩, s)
    | .indirect q =>
      let (t, s) := target capture fuel q s
      if s.halted then (none, s)
      else match t.held with
        | .nothing => (none, s.discard [t.shown, ": invalid indirect expansion".toList])
        | h =>
          let named := h.joined s
          match namedParameter? named with
          | some p => target capture fuel p s
          | Option.none => (none, s.discard [named, ": invalid variable name".toList])

/-- What is made of a parameter. -/
def usePieces (capture : Capture) :
    Nat → Bool → Bool → Target → Use → State → List Piece × State
  | 0, _, _, _, _, s => ([], s)
  | fuel + 1, joins, quoted, t, use, s =>
    let found (h : Held) (s : State) : List Piece × State := (h.pieces s joins quoted, s)
    /- One without a value counts as empty, unless that is forbidden. -/
    let demanded (f : State → List Piece × State) (s : State) : List Piece × State :=
      if s.halted then ([], s)
      else if s.hasOption 'u' && t.held = .nothing then ([], s.refuseUnset t.shown)
      else f s
    let mapped (f : Text → Text) : State → List Piece × State :=
      demanded fun s => found (t.held.map s f) s
    let text (w : Word) (s : State) : Marked × State :=
      let (ps, s) := pieces capture fuel true false w s
      (Piece.marked ps, s)
    let number (w : Word) (s : State) : Int × Text × State :=
      let (m, s) := text w s
      if s.halted then (0, [], s)
      else
        let (n, s) := s.calculate (unmark m)
        (n, unmark m, s)
    match use with
    | .plain => demanded (found t.held) s
    | .length =>
      match t.held, s.isExtended with
      | .many _ ts, true => found (.one (Text.ofNat ts.length)) s
      | h, _ =>
        demanded (fun s => found (.one (Text.ofNat (s.lengthOf (h.joined s)))) s) s
    | .fallback orEmpty w =>
      if t.held.isGiven s orEmpty then found t.held s
      else wordPieces capture fuel joins quoted w s
    | .replacement orEmpty w =>
      if t.held.isGiven s orEmpty then wordPieces capture fuel joins quoted w s
      else (if quoted then [.present] else [], s)
    | .assign orEmpty w =>
      if t.held.isGiven s orEmpty then found t.held s
      else match t.place with
        | none =>
          ([], if s.isExtended then
              s.discard [['$'], t.shown, ": cannot assign in this way".toList]
            else s.abort [t.shown, ": bad variable name".toList])
        | some (name, place) =>
          let (ps, s) := wordPieces capture fuel true quoted w s
          if s.halted then ([], s)
          else if s.isFixed name then ([], s.refuseFixed name)
          else
            let s := s.put name place false (Piece.text ps)
            if s.halted then ([], s)
            else (Piece.ofText quoted true ((s.textOf? name place).getD []), s)
    | .demand orEmpty w =>
      if t.held.isGiven s orEmpty then found t.held s
      else
        let (ps, s) := wordPieces capture fuel true quoted w s
        if s.halted then ([], s)
        else
          let message := match w with
            | [] =>
              if !orEmpty then "parameter not set".toList
              else if s.isExtended then "parameter null or not set".toList
              else "parameter not set or null".toList
            | _ => Piece.text ps
          let s := s.abort [t.shown, ": ".toList, message]
          ([], if s.isExtended && s.session.isArgument then s.setStatus 127 else s)
    | .trim atEnd longest pattern =>
      let (m, s) := text (tilded s false pattern) s
      let cut := if atEnd then Wildcard.dropEnding else Wildcard.dropBeginning
      mapped (cut s.style longest m) s
    | .exchange all pattern replaced =>
      let (m, s) := text pattern s
      let (r, s) := text replaced s
      mapped (exchangedIn s.style all m r) s
    | .slice start none =>
      let (n, _, s) := number start s
      demanded (fun s => match t.held with
        | .many .. => found (t.slice s n none) s
        | h => found (.one ((sliceOf? (h.joined s) n none).getD [])) s) s
    | .slice start (some count) =>
      let (n, _, s) := number start s
      let (k, written, s) := if s.halted then (0, [], s) else number count s
      let refused (s : State) : List Piece × State :=
        ([], s.discard [written, ": substring expression < 0".toList])
      demanded (fun s => match t.held with
        | .many .. => if k < 0 then refused s else found (t.slice s n (some k.toNat)) s
        | h =>
          match sliceOf? (h.joined s) n (some k) with
          | some u => found (.one u) s
          | none => refused s) s
    | .letters upper all pattern =>
      let (m, s) := match pattern with
        | some w =>
          let (m, s) := text w s
          (some m, s)
        | none => (none, s)
      let style := s.style
      mapped (inLettersOf upper all fun c => match m with
        | some m => Wildcard.matchesText style m [c]
        | none => true) s
    | .form letter =>
      match letter, t.place with
      | 'a', some (name, _) =>
        let b := s.bindingOf name
        let letters := (match b.value with
          | some (.list _) => ['a']
          | some (.table _) => ['A']
          | _ => []) ++ b.marks ++ (if b.fixed then ['r'] else []) ++
            if b.exported then ['x'] else []
        found (.one letters) s
      | 'A', some (name, none) => mapped (fun t => name ++ '=' :: inQuotes t) s
      | letter, _ =>
        match formOf? letter with
        | some f => mapped f s
        | none =>
          ([], s.abort ["$\x7b".toList, t.shown, ['@', letter], "\x7d: bad substitution".toList])
    | .unknown written =>
      ([], if s.isExtended then s.discard [written, ": bad substitution".toList]
        else s.abort ["Bad substitution".toList])

def wordPieces (capture : Capture) : Nat → Bool → Bool → Word → State → List Piece × State
  | 0, _, _, _, s => ([], s)
  | fuel + 1, joins, quoted, w, s =>
    let (ps, s) := pieces capture fuel joins true (if quoted then w else tilded s false w) s
    (if ps.isEmpty && quoted && !w.any isSpread then [.present] else ps, s)

/-- Whether a part may stand for no field at all although it is in quotes. -/
def isSpread : Part → Bool
  | .value (.named name) .plain _ => name == ['@']
  | .value (.element _ (.all false)) .plain _ => true
  | _ => false

end

/-! ### Fields -/

/-- Fields under construction: those that are complete and the one that is not, in reverse. -/
structure Fields where
  complete : List Marked := []
  current : Option Marked := none
  afterBlanks : Bool := false

namespace Fields

def add (f : Fields) (e : Char × Bool) : Fields :=
  { f with current := some (e :: f.current.getD []), afterBlanks := false }

def close (f : Fields) : Fields :=
  match f.current with
  | some m => { f with complete := m.reverse :: f.complete, current := none }
  | none => f

def isFieldBlank (c : Char) : Bool :=
  c == ' ' || c == '\t' || c == '\n'

def addPiece (separators : Text) (f : Fields) : Piece → Fields
  | .present => { f with current := some (f.current.getD []), afterBlanks := false }
  | .boundary => { f.close with afterBlanks := false }
  | .char c quoted splits =>
    if quoted || !splits || !separators.contains c then f.add (c, quoted)
    else if isFieldBlank c then
      match f.current with
      | some _ => { f.close with afterBlanks := true }
      | none => f
    else match f.current with
      | some _ => { f.close with afterBlanks := false }
      | none =>
        if f.afterBlanks then { f with afterBlanks := false }
        else { f with complete := [] :: f.complete }

end Fields

def fieldsOf (separators : Text) (ps : List Piece) : List Marked :=
  ((ps.foldl (Fields.addPiece separators) {}).close).complete.reverse

/-! ### Words -/

/-- More steps than a word has parts on any level. -/
def expansionDepth : Nat := 10000

def expandOne (capture : Capture) (w : Word) (s : State) : List Text × State :=
  let (ps, s) := pieces capture expansionDepth false false (tilded s false w) s
  let style := s.style
  let texts := (fieldsOf s.separators ps).flatMap fun m =>
    if Wildcard.hasMeaning style m && !s.hasOption 'f' then
      match Wildcard.fileNames style s.disk m with
      | [] => if s.hasSwitch "nullglob" then [] else [unmark m]
      | names => names
    else [unmark m]
  (texts, s)

def expandAll (capture : Capture) : List Word → State → List Text × State
  | [], s => ([], s)
  | w :: ws, s =>
    if s.halted then ([], s)
    else
      let (first, s) := expandOne capture w s
      let (rest, s) := expandAll capture ws s
      (first ++ rest, s)

def expand (capture : Capture) (w : Word) (s : State) : List Text × State :=
  if s.isExtended then expandAll capture (Braces.expand w) s else expandOne capture w s

def expandEach (capture : Capture) : List Word → State → List Text × State
  | [], s => ([], s)
  | w :: ws, s =>
    if s.halted then ([], s)
    else
      let (first, s) := expand capture w s
      let (rest, s) := expandEach capture ws s
      (first ++ rest, s)

def expandWhole (capture : Capture) (assigns : Bool) (w : Word) (s : State) : Text × State :=
  let (ps, s) := pieces capture expansionDepth true false (tilded s assigns w) s
  (Piece.text ps, s)

def expandPattern (capture : Capture) (w : Word) (s : State) : Marked × State :=
  let (ps, s) := pieces capture expansionDepth true false (tilded s false w) s
  (Piece.marked ps, s)

/-! ### Lists -/

def expandItems (capture : Capture) :
    List (Option Word × Word) → State → List (Option Text × Text) × State
  | [], s => ([], s)
  | (place, w) :: rest, s =>
    if s.halted then ([], s)
    else
      let (first, s) := match place with
        | none =>
          let (ts, s) := expand capture w s
          (ts.map fun t => ((none : Option Text), t), s)
        | some p =>
          let (p, s) := expandWhole capture false p s
          let (t, s) := expandWhole capture true w s
          ([(some p, t)], s)
      let (more, s) := expandItems capture rest s
      (first ++ more, s)

def State.putItems (name : Text) : Nat → List (Option Text × Text) → State → State
  | _, [], s => s
  | next, (place, t) :: rest, s =>
    if s.halted then s
    else
      let (place, s) := match place with
        | some p => s.place? name p
        | none => (some (Text.ofNat next), s)
      match place with
      | some p =>
        let s := s.put name (some p) false t
        State.putItems name (if s.isTable name then next else State.countOf p + 1) rest s
      | none => s

def paired : List (Option Text × Text) → List (Option Text × Text)
  | (none, k) :: (none, t) :: rest => (some k, t) :: paired rest
  | (none, k) :: rest => (some k, []) :: paired rest
  | item :: rest => item :: paired rest
  | [] => []

def State.putList (s : State) (name : Text) (adds : Bool) (items : List (Option Text × Text)) :
    State :=
  let value := (s.bindingOf name).value
  let (empty, items) : Value × List (Option Text × Text) := match value with
    | some (.table _) => (.table [], if items.all (·.1.isNone) then paired items else items)
    | _ => (.list [], items)
  let start : Value := match adds, value with
    | true, some (.text t) => .list [(0, t)]
    | true, some v => v
    | _, _ => empty
  let s := s.setValue name start
  State.putItems name (s.endOf name) items s

end Manuscript.Shell
