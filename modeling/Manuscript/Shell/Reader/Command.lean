import Manuscript.Shell.Atom
import Manuscript.Shell.Reader.Word

/-!
Reading commands. A script is read command by command, so that a fault further
down does not keep the commands before it from being run.
-/

namespace Manuscript.Shell.Reading

/-- How far a sequence of commands extends: to the end of a line, or to a word that ends it, where
there may have to be a command before that. -/
inductive Extent
  | line
  | some
  | any
  deriving DecidableEq, Repr

def specialCommands : List String :=
  [".", ":", "break", "continue", "eval", "exec", "exit", "export", "readonly", "return", "set",
    "shift", "times", "trap", "unset"]

/-- What is given to a place of a name, whose bracket has been opened; the atoms of the place that
have been read are in reverse. -/
def placed? (name : Text) : Nat → List Atom → List Atom → Option Assignment
  | _, _, [] => none
  | depth, read, .char '[' :: rest => placed? name (depth + 1) (.char '[' :: read) rest
  | 0, read, .char ']' :: rest =>
    let place := Atom.toWord read.reverse
    match rest with
    | .char '=' :: value => some (.mk name (some place) false (Atom.toWord value))
    | .char '+' :: .char '=' :: value => some (.mk name (some place) true (Atom.toWord value))
    | _ => none
  | depth + 1, read, .char ']' :: rest => placed? name depth (.char ']' :: read) rest
  | depth, read, a :: rest => placed? name depth (a :: read) rest

def assignment? (extended : Bool) : Word → Option Assignment
  | .text t false :: rest =>
    let name := t.takeWhile isNameChar
    let value (v : Text) : Word := if v.isEmpty then rest else .text v false :: rest
    if !isName name then none
    else match t.drop name.length, extended with
      | '=' :: v, _ => some (.mk name none false (value v))
      | '+' :: '=' :: v, true => some (.mk name none true (value v))
      | '[' :: v, true => placed? name 0 [] (Atom.ofWord (value v))
      | _, _ => none
  | _ => none

/-- The pieces of a command without parts of its own, as they are read. -/
structure Pieces where
  assignments : List Assignment := []
  words : List Word := []
  redirects : List Redirect := []

def declaringCommands : List String :=
  ["declare", "export", "local", "readonly", "typeset"]

namespace Pieces

def command (p : Pieces) (line : Nat) : Command :=
  .simple line p.assignments.reverse p.words.reverse p.redirects.reverse

def isEmpty (p : Pieces) : Bool :=
  p.assignments.isEmpty && p.words.isEmpty && p.redirects.isEmpty

def definable? (p : Pieces) : Option Word :=
  match p.assignments, p.words, p.redirects with
  | [], [w], [] => some w
  | _, _, _ => none

/-- A word more. What assigns does so only in front of the first other word. -/
def addWord (extended : Bool) (p : Pieces) (w : Word) : Pieces :=
  match if p.words.isEmpty then assignment? extended w else none with
  | some a => { p with assignments := a :: p.assignments }
  | none => { p with words := w :: p.words }

/-- Whether a list may be given to the name that a word ends with, an equals sign behind it. -/
def takesList (p : Pieces) (w : Word) : Bool :=
  let declares := (p.words.getLast?.bind Part.literal?).any fun t =>
    declaringCommands.any (·.toList == t)
  (p.words.isEmpty || declares) &&
    match assignment? true w with
    | some a => a.value.isEmpty && a.place.isNone
    | none => false

def addList (p : Pieces) (w : Word) (items : List (Option Word × Word)) : Pieces :=
  match if p.words.isEmpty then assignment? true w else none with
  | some a =>
    { p with assignments := .mk a.name none a.adds [.list items] :: p.assignments }
  | none => { p with words := (w ++ [.list items]) :: p.words }

end Pieces

/-! ### Redirections -/

def markerText : Nat → Text → Bool → Reading (Text × Bool)
  | 0, read, quoted => return (read.reverse, quoted)
  | fuel + 1, read, quoted => do
    match ← peek with
    | none => return (read.reverse, quoted)
    | some c =>
      if endsWord c then return (read.reverse, quoted)
      else
        skip
        if c = '\'' then
          let t ← singleQuoted (← get).line (← size) []
          markerText fuel (t.reverse ++ read) true
        else if c = '"' then
          let (inner, _) ← parts (return none) (← size) (.quotes (← get).line) []
          let t := inner.flatMap fun
            | .text t _ => t
            | _ => []
          markerText fuel (t.reverse ++ read) true
        else if c = '\\' then
          match ← peekBare with
          | some e =>
            skip
            markerText fuel (e :: read) true
          | none => return (read.reverse, true)
        else markerText fuel (c :: read) quoted

def skipBlanks : Nat → Reading Unit
  | 0 => return
  | fuel + 1 => do
    match ← peek with
    | some ' ' =>
      skip
      skipBlanks fuel
    | some '\t' =>
      skip
      skipBlanks fuel
    | _ => return

def announce (script : Reading (Option Command)) (stream : Nat) (dropsTabs : Bool) :
    Reading Redirect := do
  skipBlanks (← size)
  match ← peek with
  | none => unexpected .finish none
  | some c =>
    if endsWord c then
      let t ← lexeme script (← size)
      unexpected t none
    else
      let (marker, quoted) ← markerText (← size) [] false
      let s ← get
      let number := s.documents.size
      set { s with
        documents := s.documents.push []
        announced := s.announced ++
          [{ number, line := s.line, marker, dropsTabs, verbatim := quoted : Announcement }] }
      return .document stream number

def redirect (script : Reading (Option Command)) (stream : Option Nat) (sign : String) :
    Reading (List Redirect) := do
  if sign == "<<" || sign == "<<-" then
    return [← announce script (stream.getD 0) (sign == "<<-")]
  else
    match ← token script false false (← size) with
    | .word w .. =>
      match sign with
      | "<" => return [.input (stream.getD 0) w]
      | "<>" => return [.both (stream.getD 0) w]
      | "<&" => return [.copy (stream.getD 0) w]
      | "<<<" => return [.word (stream.getD 0) w]
      | ">>" => return [.output (stream.getD 1) true w]
      | "&>" => return [.output 1 false w, .copy 2 [.text ['1'] false]]
      | "&>>" => return [.output 1 true w, .copy 2 [.text ['1'] false]]
      | ">&" =>
        let toFile := (← get).isExtended && stream.isNone &&
          match w with
          | [.text t false] => !t.all Char.isDigit && t != ['-']
          | _ => false
        if toFile then return [.output 1 false w, .copy 2 [.text ['1'] false]]
        else return [.copy (stream.getD 1) w]
      | _ => return [.output (stream.getD 1) false w]
    | t => unexpected t none

def redirects (script : Reading (Option Command)) :
    Nat → Bool → List Redirect → Reading (List Redirect)
  | 0, _, read => return read.reverse
  | fuel + 1, reserved, read => do
    match ← token script false reserved (← size) with
    | .redirect stream sign =>
      let rs ← redirect script stream sign
      redirects script fuel false (rs.reverse ++ read)
    | t =>
      giveBack t
      return read.reverse

/-! ### Lists of words -/

def words (script : Reading (Option Command)) : Nat → List Word → Reading (List Word × Token)
  | 0, read => return (read.reverse, .finish)
  | fuel + 1, read => do
    match ← token script false false (← size) with
    | .word w .. => words script fuel (w :: read)
    | t => return (read.reverse, t)

def wordOf? : Token → Option Word
  | .word w .. => some w
  | .reserved w => some [.text w.toList false]
  | _ => none

/-- The patterns of a case up to the closing parenthesis; the first one's token has been read. -/
def patterns (script : Reading (Option Command)) : Nat → Token → List Word → Reading (List Word)
  | 0, t, _ => unexpected t none
  | fuel + 1, t, read => do
    let w := (wordOf? t).getD []
    match ← token script false false (← size) with
    | .operator "|" =>
      let t ← token script false false (← size)
      patterns script fuel t (w :: read)
    | .operator ")" =>
      match wordOf? t with
      | some w => return (w :: read).reverse
      | none => unexpected (.operator ")") (some (.operator ")"))
    | t => unexpected t (some (.operator ")"))

def listItems (script : Reading (Option Command)) (line : Nat) :
    Nat → List (Option Word × Word) → Reading (List (Option Word × Word))
  | 0, _ => unclosed ')' line []
  | fuel + 1, read => do
    match ← token script true false (← size) with
    | .operator ")" => return read.reverse
    | .word w .. =>
      let item := match w with
        | .text ('[' :: t) false :: rest =>
          match placed? [] 0 [] (Atom.ofWord (.text t false :: rest)) with
          | some a => (a.place, a.value)
          | none => (none, w)
        | w => (none, w)
      listItems script line fuel (item :: read)
    | .finish => unclosed ')' line []
    | t => unexpected t none

/-! ### Conditions in double brackets -/

def isQuestion (w : Word) : Bool :=
  match Part.literal? w with
  | some ['-', c] => "abcdefghknoprstuvwxzGLNORS".toList.contains c
  | _ => false

def comparison? : Token → Option String
  | .word [.text t false] _ _ _ =>
    ["=", "==", "!=", "=~", "-eq", "-ne", "-lt", "-le", "-gt", "-ge", "-nt", "-ot", "-ef"].find?
      (·.toList == t)
  | .redirect none sign => if sign == "<" || sign == ">" then some sign else none
  | _ => none

def refuseCondition {α : Type} (complaint : Option (List Text)) (t : Token) : Reading α :=
  match t with
  | .finish => unexpected .finish none
  | t => refuseFor (.condition (complaint.map List.flatten) t.written) "word unexpected".toList

def closesCondition : Token → Bool
  | .word [.text [']', ']'] false] _ _ _ => true
  | _ => false

def literal (o : String) : Word :=
  [.text o.toList false]

mutual

/-- The words of a condition up to what closes it, behind those that have been read, which are in
reverse; with the token that follows. -/
def alternatives (script : Reading (Option Command)) :
    Nat → List Word → Reading (List Word × Token)
  | 0, read => return (read, .finish)
  | fuel + 1, read => do
    let t ← token script true false (← size)
    let (read, t) ← term script fuel t read
    match t with
    | .operator o =>
      if o == "&&" || o == "||" then alternatives script fuel (literal o :: read)
      else return (read, t)
    | t => return (read, t)

def term (script : Reading (Option Command)) :
    Nat → Token → List Word → Reading (List Word × Token)
  | 0, t, read => return (read, t)
  | fuel + 1, t, read => do
    match t with
    | .operator "(" =>
      let (read, t) ← alternatives script fuel (literal "(" :: read)
      match t with
      | .operator ")" => return (literal ")" :: read, ← token script true false (← size))
      | t =>
        refuseCondition (some ["unexpected token ".toList, backquote :: t.written,
          "', expected ".toList, backquote :: ")'".toList]) t
    | .word w _ _ _ =>
      if closesCondition t then refuseCondition none t
      else if Part.literal? w == some ['!'] then
        term script fuel (← token script true false (← size)) (w :: read)
      else if isQuestion w then
        match ← token script false false (← size) with
        | .word v q start stop =>
          if closesCondition (.word v q start stop) then
            refuseCondition (some ["unexpected argument ".toList, backquote :: "]]".toList,
              "' to conditional unary operator".toList]) (.word v q start stop)
          else return (v :: w :: read, ← token script true false (← size))
        | t =>
          refuseCondition (some ["unexpected argument ".toList, backquote :: t.written,
            "' to conditional unary operator".toList]) t
      else
        let t ← token script false false (← size)
        match comparison? t with
        | some "=~" =>
          skipBlanks (← size)
          let line := (← get).line
          let (v, _) ← parts script (8 * (← size)) (.expression 0 line) []
          return (v :: literal "=~" :: w :: read, ← token script true false (← size))
        | some o =>
          match ← token script false false (← size) with
          | .word v q start stop =>
            if closesCondition (.word v q start stop) then
              refuseCondition (some ["unexpected argument ".toList, backquote :: "]]".toList,
                "' to conditional binary operator".toList]) (.word v q start stop)
            else return (v :: literal o :: w :: read, ← token script true false (← size))
          | t =>
            refuseCondition (some ["unexpected argument ".toList, backquote :: t.written,
              "' to conditional binary operator".toList]) t
        | none =>
          match t with
          | .operator o =>
            if ["&&", "||", ")"].contains o then return (w :: read, t)
            else refuseCondition (some ["conditional binary operator expected".toList]) t
          | .newline => return (w :: read, ← token script true false (← size))
          | t =>
            if closesCondition t then return (w :: read, t)
            else refuseCondition (some ["conditional binary operator expected".toList]) t
    | t => refuseCondition none t

end

def conditionWords (script : Reading (Option Command)) : Reading (List Word) := do
  let before := (← get).groups
  modify fun s => { s with groups := true }
  let (read, t) ← alternatives script (← size) []
  modify fun s => { s with groups := before }
  if closesCondition t then return read.reverse
  else refuseCondition none t

/-! ### Loops that count -/

def sections : Word → List Word
  | [] => [[]]
  | .text t quoted :: rest =>
    let texts := Text.splitBy (· == ';') t
    match sections rest with
    | [] => texts.map fun t => [.text t quoted]
    | first :: more =>
      match texts.getLast? with
      | some last =>
        texts.dropLast.map (fun t => [.text t quoted]) ++ (.text last quoted :: first) :: more
      | none => first :: more
  | p :: rest =>
    match sections rest with
    | [] => [[p]]
    | first :: more => (p :: first) :: more

def expect (script : Reading (Option Command)) (newlines : Bool) (w : String) : Reading Unit := do
  match ← token script newlines true (← size) with
  | .reserved got =>
    if got == w then return
    else unexpected (.reserved got) (some (.reserved w))
  | t => unexpected t (some (.reserved w))

def opensArithmetic : Reading Bool := do
  let s ← get
  return s.isExtended && s.rest.head? == some '(' && closesTwice 0 (s.rest.drop 1)

def opensCount : Reading Bool := do
  skipBlanks (← size)
  let s ← get
  return s.isExtended && s.given.isNone && "((".toList.isPrefixOf s.rest

/-- A command whose complaints go where its output goes. -/
def withErrors (line : Nat) (c : Command) : Command :=
  let copy : Redirect := .copy 2 [.text ['1'] false]
  match c with
  | .simple line assignments words redirects =>
    .simple line assignments words (redirects ++ [copy])
  | c => .redirected line c [copy]

/-! ### Commands -/

mutual

def sequence : Nat → Extent → Option Command → Reading (Option Command)
  | 0, _, before => return before
  | fuel + 1, extent, before => do
    match ← token (sequence fuel .any none) (extent ≠ .line) true (← size) with
    | .newline =>
      documents (sequence fuel .any none)
      return before
    | .finish =>
      documents (sequence fuel .any none)
      giveBack .finish
      return before
    | t =>
      giveBack t
      if extent = .any && t.endsSequence then return before
      else
        let line := (← get).line
        let c ← chain fuel
        let t ← token (sequence fuel .any none) false false (← size)
        let c := match t with
          | .operator "&" => .background line c
          | _ => c
        let all := match before with
          | some b => Command.sequence b c
          | none => c
        let extent := if extent = .line then .line else Extent.any
        match t with
        | .finish =>
          documents (sequence fuel .any none)
          giveBack .finish
          return some all
        | .newline =>
          giveBack .newline
          sequence fuel extent (some all)
        | .operator "&" => sequence fuel extent (some all)
        | .operator ";" => sequence fuel extent (some all)
        | t =>
          if extent = .line then unexpected t none
          else
            giveBack t
            return some all

def chain : Nat → Reading Command
  | 0 => unexpected .finish none
  | fuel + 1 => do
    let first ← pipeline fuel false
    chainFrom fuel first

def chainFrom : Nat → Command → Reading Command
  | 0, before => return before
  | fuel + 1, before => do
    match ← token (sequence fuel .any none) false false (← size) with
    | .operator "&&" =>
      let c ← pipeline fuel true
      chainFrom fuel (.onSuccess before c)
    | .operator "||" =>
      let c ← pipeline fuel true
      chainFrom fuel (.onFailure before c)
    | t =>
      giveBack t
      return before

def pipeline : Nat → Bool → Reading Command
  | 0, _ => unexpected .finish none
  | fuel + 1, newlines => do
    match ← token (sequence fuel .any none) newlines true (← size) with
    | .reserved "!" =>
      let first ← command fuel false
      return .inverted (← pipeFrom fuel [first])
    | .reserved "time" => timed fuel
    | t =>
      giveBack t
      let first ← command fuel false
      pipeFrom fuel [first]

def timed : Nat → Reading Command
  | 0 => unexpected .finish none
  | fuel + 1 => do
    match ← token (sequence fuel .any none) false true (← size) with
    | .newline =>
      giveBack .newline
      return .timed none
    | .operator ";" =>
      giveBack (.operator ";")
      return .timed none
    | .finish =>
      giveBack .finish
      return .timed none
    | .word [.text ['-', 'p'] false] _ _ _ => return .timed (some (← pipeline fuel false))
    | t =>
      giveBack t
      return .timed (some (← pipeline fuel false))

def pipeFrom : Nat → List Command → Reading Command
  | 0, _ => unexpected .finish none
  | fuel + 1, stages => do
    match ← token (sequence fuel .any none) false false (← size) with
    | .operator "|" =>
      let c ← command fuel true
      pipeFrom fuel (c :: stages)
    | .operator "|&" =>
      let c ← command fuel true
      let line := (← get).line
      pipeFrom fuel (c :: (stages.take 1).map (withErrors line) ++ stages.drop 1)
    | t =>
      giveBack t
      match stages with
      | [c] => return c
      | stages => return .pipe stages.reverse

/-- A command with its redirections. -/
def command : Nat → Bool → Reading Command
  | 0, _ => unexpected .finish none
  | fuel + 1, newlines => do
    let script := sequence fuel .any none
    let before := (← get).line
    let t ← token script newlines true (← size)
    match t with
    | .redirect .. =>
      giveBack t
      simple fuel (← get).line {}
    | .word .. =>
      giveBack t
      simple fuel (← get).line {}
    | .reserved "[[" =>
      let line := (← get).line
      let c := Command.condition line (← conditionWords script)
      redirectedBy before c (← redirects script (← size) true [])
    | .reserved "function" => definition fuel
    | .operator "(" =>
      if ← opensArithmetic then
        skip
        let (e, _) ← parts script (8 * (← size)) (.sum 0 before) []
        redirectedBy before (.arithmetic before e) (← redirects script (← size) true [])
      else
        let body ← block fuel (.operator ")")
        return .apart before body (← redirects script (← size) true [])
    | .reserved "\x7b" =>
      let body ← block fuel (.reserved "\x7d")
      redirectedBy before body (← redirects script (← size) true [])
    | .reserved "if" =>
      let c ← branch fuel
      redirectedBy before c (← redirects script (← size) true [])
    | .reserved "while" =>
      let c ← loop fuel true
      redirectedBy before c (← redirects script (← size) true [])
    | .reserved "until" =>
      let c ← loop fuel false
      redirectedBy before c (← redirects script (← size) true [])
    | .reserved "for" =>
      let c ← if ← opensCount then counted fuel before else each fuel before false
      redirectedBy before c (← redirects script (← size) true [])
    | .reserved "select" =>
      let c ← each fuel before true
      redirectedBy before c (← redirects script (← size) true [])
    | .reserved "case" =>
      let c ← choose fuel before
      redirectedBy before c (← redirects script (← size) true [])
    | t => unexpected t none

def redirectedBy (line : Nat) (c : Command) (rs : List Redirect) : Reading Command :=
  return if rs.isEmpty then c else .redirected line c rs

def block : Nat → Token → Reading Command
  | 0, t => unexpected .finish (some t)
  | fuel + 1, due => do
    match ← sequence fuel .some none with
    | some c =>
      let t ← token (sequence fuel .any none) false false (← size)
      match due, t with
      | .operator a, .operator b => if a == b then return c else unexpected t (some due)
      | .reserved a, .reserved b => if a == b then return c else unexpected t (some due)
      | _, t => unexpected t (some due)
    | none =>
      let t ← token (sequence fuel .any none) false false (← size)
      unexpected t (some due)

def branch : Nat → Reading Command
  | 0 => unexpected .finish none
  | fuel + 1 => do
    let test ← block fuel (.reserved "then")
    match ← sequence fuel .some none with
    | none =>
      let t ← token (sequence fuel .any none) false false (← size)
      unexpected t (some (.reserved "fi"))
    | some yes =>
      match ← token (sequence fuel .any none) false false (← size) with
      | .reserved "elif" => return .branch test yes (some (← branch fuel))
      | .reserved "else" => return .branch test yes (some (← block fuel (.reserved "fi")))
      | .reserved "fi" => return .branch test yes none
      | t => unexpected t (some (.reserved "fi"))

def loop : Nat → Bool → Reading Command
  | 0, _ => unexpected .finish none
  | fuel + 1, success => do
    let test ← block fuel (.reserved "do")
    return .loop success test (← block fuel (.reserved "done"))

def each : Nat → Nat → Bool → Reading Command
  | 0, _, _ => unexpected .finish none
  | fuel + 1, line, asks => do
    let script := sequence fuel .any none
    let extended := (← get).isExtended
    let made (name : Text) (items : Option (List Word)) (body : Command) : Command :=
      if asks then .ask line name items body else .each line name items body
    let fault : Reading Command :=
      if extended then do
        unexpected (← token script false false (← size)) none
      else refuse "Bad for loop variable".toList
    match ← token script false false (← size) with
    | .word [.text name false] false _ _ =>
      if extended || isName name then
        match ← token script true true (← size) with
        | .reserved "in" =>
          let (items, t) ← words script (← size) []
          match t with
          | .newline => return made name (some items) (← eachBody fuel)
          | .operator ";" => return made name (some items) (← eachBody fuel)
          | t => unexpected t none
        | .operator ";" => return made name none (← eachBody fuel)
        | t =>
          giveBack t
          return made name none (← eachBody fuel)
      else fault
    | t =>
      if extended then unexpected t none else fault

def eachBody : Nat → Reading Command
  | 0 => unexpected .finish none
  | fuel + 1 => do
    let extended := (← get).isExtended
    match ← token (sequence fuel .any none) true true (← size) with
    | .reserved "do" => block fuel (.reserved "done")
    | .reserved "\x7b" =>
      if extended then block fuel (.reserved "\x7d")
      else unexpected (.reserved "\x7b") (some (.reserved "do"))
    | t => unexpected t (some (.reserved "do"))

def counted : Nat → Nat → Reading Command
  | 0, _ => unexpected .finish none
  | fuel + 1, line => do
    let script := sequence fuel .any none
    skipBlanks (← size)
    let start := (← get).rest
    skip
    skip
    let (e, _) ← parts script (8 * (← size)) (.sum 0 line) []
    let written := start.take (start.length - (← get).rest.length)
    match sections e with
    | [first, test, step] =>
      match ← token script false false (← size) with
      | .operator ";" => pure ()
      | t => giveBack t
      return .counted line first test step (← eachBody fuel)
    | _ => refuseFor (.expression written) []

def choose : Nat → Nat → Reading Command
  | 0, _ => unexpected .finish none
  | fuel + 1, line => do
    let script := sequence fuel .any none
    match ← token script false false (← size) with
    | .word subject _ _ _ =>
      expect script true "in"
      return .choose line subject (← arms fuel [])
    | t => unexpected t (some (.word [] false [] []))

def arms : Nat → List (List Word × Option Command × After) →
    Reading (List (List Word × Option Command × After))
  | 0, _ => unexpected .finish none
  | fuel + 1, read => do
    let script := sequence fuel .any none
    match ← token script true true (← size) with
    | .reserved "esac" => return read.reverse
    | t =>
      let t ← match t with
        | .operator "(" => token script false false (← size)
        | t => pure t
      let ps ← patterns script (← size) t []
      let body ← sequence fuel .any none
      match ← token script true true (← size) with
      | .reserved "esac" => return ((ps, body, .leave) :: read).reverse
      | .operator ";;" => arms fuel ((ps, body, .leave) :: read)
      | .operator ";&" => arms fuel ((ps, body, .next) :: read)
      | .operator ";;&" => arms fuel ((ps, body, .others) :: read)
      | t => unexpected t (some (.operator ";;"))

def simple : Nat → Nat → Pieces → Reading Command
  | 0, line, p => return p.command line
  | fuel + 1, line, p => do
    let script := sequence fuel .any none
    let extended := (← get).isExtended
    match ← tokenAt script false false p.words.isEmpty (← size) with
    | .word w _ _ _ =>
      if extended && (← peekBare) == some '(' && p.takesList w then
        let opened := (← get).line
        skip
        simple fuel line (p.addList w (← listItems script opened (← size) []))
      else simple fuel line (p.addWord extended w)
    | .redirect stream sign =>
      let rs ← redirect script stream sign
      simple fuel line { p with redirects := rs.reverse ++ p.redirects }
    | .operator "(" =>
      match p.definable? with
      | some w =>
        match ← token script false false (← size) with
        | .operator ")" =>
          match Part.literal? w with
          | some name =>
            if extended || (isName name && !(specialCommands.any (·.toList == name))) then
              defined fuel name
            else refuse "Bad function name".toList
          | none => refuse "Bad function name".toList
        | t => unexpected t (some (.operator ")"))
      | none =>
        giveBack (.operator "(")
        return p.command line
    | t =>
      giveBack t
      return p.command line

/-- The body of a definition; in the extended dialect it has a beginning and an end of its own. -/
def defined : Nat → Text → Reading Command
  | 0, _ => unexpected .finish none
  | fuel + 1, name => do
    let line := (← get).line
    let t ← token (sequence fuel .any none) true true (← size)
    let encloses := match t with
      | .operator o => o == "("
      | .reserved _ => true
      | _ => false
    if (← get).isExtended && !encloses then unexpected t none
    else
      giveBack t
      return .define line name (← command fuel true)

def definition : Nat → Reading Command
  | 0 => unexpected .finish none
  | fuel + 1 => do
    let script := sequence fuel .any none
    match ← token script false false (← size) with
    | .word [.text name false] _ _ _ =>
      match ← token script false false (← size) with
      | .operator "(" =>
        let _ ← token script false false (← size)
        defined fuel name
      | t =>
        giveBack t
        defined fuel name
    | t => unexpected t none

end

/-- The next command of a script; there is none on a line without one. The second answer tells
whether the script is at its end. -/
def next : Reading (Option Command × Bool) := do
  modify fun s => { s with given := none, announced := [] }
  let c ← sequence (20 * (← size) + 20) .line none
  match (← get).given, c with
  | some .finish, none => return (none, true)
  | _, c => return (c, false)

end Manuscript.Shell.Reading
