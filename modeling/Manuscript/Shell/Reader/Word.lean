import Manuscript.Shell.Digits
import Manuscript.Shell.Octets
import Manuscript.Shell.Reader.Source

/-!
Reading words: quotes, and what stands behind a dollar sign or between
backquotes.

A word may hold commands, whose reading is a parameter here. Parts are collected
in reverse, and so are the characters of their texts.
-/

namespace Manuscript.Shell.Reading

/-- Where a part of a word stands. -/
inductive Place
  | bare
  | quotes (line : Nat)
  /-- Between braces, up to one of some characters; perhaps in quotes or in a document. -/
  | braces (quoted inDocument : Bool) (stops : List Char)
  | sum (depth line : Nat)
  | document
  | group (depth line : Nat)
  | expression (depth line : Nat)
  deriving DecidableEq, Repr

namespace Place

def isQuoted : Place → Bool
  | bare => false
  | braces quoted _ _ => quoted
  | group .. => false
  | expression .. => false
  | _ => true

def isInDocument : Place → Bool
  | braces _ inDocument _ => inDocument
  | document => true
  | _ => false

def isBraces : Place → Bool
  | braces .. => true
  | _ => false

end Place

def backquote : Char := Char.ofNat 96

def escapes (place : Place) (c : Char) : Bool :=
  c == '\\' || c == '$' || c == backquote || (c == '"' && place != .document) ||
    (c == '\x7d' && place.isBraces)

def isNameStart (c : Char) : Bool :=
  c.isAlpha || c == '_'

def isNameChar (c : Char) : Bool :=
  c.isAlphanum || c == '_'

def isName (t : Text) : Bool :=
  (t.head?.any isNameStart) && t.all isNameChar

/-- The parameters with names of one character. -/
def isSpecial (c : Char) : Bool :=
  c.isDigit || "#?$!-*@".toList.contains c

def endsWord (c : Char) : Bool :=
  " \t\n;&|<>()".toList.contains c

/-! ### Collecting parts -/

def push (t : Text) (quoted : Bool) (read : List Part) : List Part :=
  match read with
  | .text before q :: rest =>
    if q = quoted then .text (t.reverse ++ before) q :: rest else .text t.reverse quoted :: read
  | _ => .text t.reverse quoted :: read

def turned : Part → Part
  | .text t quoted => .text t.reverse quoted
  | p => p

def pushPart (p : Part) (read : List Part) : List Part :=
  match p with
  | .text t quoted => push t quoted read
  | p => p :: read

def pushAll (ps read : List Part) : List Part :=
  ps.foldl (fun read p => pushPart p read) read

def finished (read : List Part) : Word :=
  (read.map turned).reverse

def atEnd (place : Place) (read : List Part) : Reading (Word × Option Char) :=
  match place with
  | .bare => return (finished read, none)
  | .document => return (finished read, none)
  | .expression 0 _ => return (finished read, none)
  | .expression _ line => unclosed ')' line "Missing ')'".toList
  | .quotes line => unclosed '"' line "Unterminated quoted string".toList
  | .braces true false _ => do
    unclosed '\x7d' (← get).wordLine "Unterminated quoted string".toList
  | .braces .. => do
    modify fun s => { s with line := s.wordLine }
    unclosed '\x7d' (← get).wordLine "Missing '\x7d'".toList
  | .sum _ line => unclosed ')' line "Missing '))'".toList
  | .group _ line => unclosed ')' line "Missing ')'".toList

/-! ### Single quotes -/

def singleQuoted (line : Nat) : Nat → Text → Reading Text
  | 0, _ => unclosed '\'' line "Unterminated quoted string".toList
  | fuel + 1, read => do
    match ← peekBare with
    | none => unclosed '\'' line "Unterminated quoted string".toList
    | some '\'' =>
      skip
      return read.reverse
    | some c =>
      skip
      singleQuoted line fuel (c :: read)

def controlOf? (c : Char) : Option Char :=
  match c with
  | 'a' => some '\x07'
  | 'b' => some '\x08'
  | 'e' => some '\x1b'
  | 'f' => some '\x0c'
  | 'n' => some '\n'
  | 'r' => some '\r'
  | 't' => some '\t'
  | 'v' => some '\x0b'
  | '\\' => some '\\'
  | '\'' => some '\''
  | '"' => some '"'
  | '?' => some '?'
  | _ => none

def escaped : Text → Text × Text
  | [] => (['\\'], [])
  | c :: rest =>
    match controlOf? c with
    | some e => ([e], rest)
    | none =>
      if Digits.isOctal c then
        let digits := (c :: rest.take 2).takeWhile Digits.isOctal
        ([Char.ofNat (Digits.valueIn 8 digits % 256)], (c :: rest).drop digits.length)
      else if c = 'x' && (rest.head?.any Digits.isHex) then
        let digits := (rest.take 2).takeWhile Digits.isHex
        ([Char.ofNat (Digits.valueIn 16 digits)], rest.drop digits.length)
      else if (c = 'u' || c = 'U') && (rest.head?.any Digits.isHex) then
        let digits := (rest.take (if c = 'u' then 4 else 8)).takeWhile Digits.isHex
        (Octets.encode [Char.ofNat (Digits.valueIn 16 digits)], rest.drop digits.length)
      else if c = 'c' then
        match rest with
        | d :: rest => ([Char.ofNat (d.toUpper.toNat % 32)], rest)
        | [] => (['\\', c], [])
      else (['\\', c], rest)

def withEscapes : Nat → Text → Text
  | 0, _ => []
  | _, [] => []
  | fuel + 1, '\\' :: rest =>
    let (first, rest) := escaped rest
    first ++ withEscapes fuel rest
  | fuel + 1, c :: rest => c :: withEscapes fuel rest

/-- Single quotes in which a backslash may stand before the quote. -/
def singleQuotedEscaped (line : Nat) : Nat → Text → Reading Text
  | 0, _ => unclosed '\'' line "Unterminated quoted string".toList
  | fuel + 1, read => do
    match ← peekBare with
    | none => unclosed '\'' line "Unterminated quoted string".toList
    | some '\'' =>
      skip
      return withEscapes (read.length + 1) read.reverse
    | some '\\' =>
      skip
      match ← peekBare with
      | some c =>
        skip
        singleQuotedEscaped line fuel (c :: '\\' :: read)
      | none => unclosed '\'' line "Unterminated quoted string".toList
    | some c =>
      skip
      singleQuotedEscaped line fuel (c :: read)

/-! ### Commands in words -/

/-- The commands up to a closing parenthesis. -/
def enclosed (script : Reading (Option Command)) : Reading (Option Command) := do
  let before ← get
  set { before with given := none, announced := [] }
  let body ← tryCatch script fun e =>
    throw (if e.cause = .ending then { e with cause := .unclosed ')' e.line } else e)
  match (← get).given.getD .finish with
  | .operator ")" => modify fun s => { s with given := none, announced := before.announced }
  | .finish => unclosed ')' (← get).line ("end of file unexpected (expecting \")\")").toList
  | t => unexpected t (some (.operator ")"))
  return body

/-- A command that only opens a file for its input stands for one that writes the file out. -/
def writtenOut : Option Command → Option Command
  | some (.simple line [] [] [.input 0 w]) =>
    some (.simple line [] [[.text "cat".toList true]] [.input 0 w])
  | c => c

/-- The text up to a backquote. Behind a backslash stands a character that would have a meaning. -/
def backquotedText (quoted : Bool) (line : Nat) : Nat → Text → Reading Text
  | 0, _ => unclosed backquote line "EOF in backquote substitution".toList
  | fuel + 1, read => do
    match ← peek with
    | none => unclosed backquote line "EOF in backquote substitution".toList
    | some c =>
      skip
      if c = backquote then return read.reverse
      else if c = '\\' then
        match ← peekBare with
        | some e =>
          skip
          let plain := e == '\\' || e == backquote || e == '$' || (quoted && e == '"')
          backquotedText quoted line fuel (if plain then e :: read else e :: '\\' :: read)
        | none => unclosed backquote line "EOF in backquote substitution".toList
      else backquotedText quoted line fuel (c :: read)

/-- The commands up to a backquote; their lines are counted from one. -/
def backquoted (script : Reading (Option Command)) (quoted : Bool) : Reading (Option Command) := do
  let inner ← backquotedText quoted (← get).line (← size) []
  within inner 1 script

/-! ### Words -/

def quotedIn (place : Place) : Place :=
  .braces place.isQuoted place.isInDocument ['\x7d']

def unquotedIn (place : Place) (stops : List Char) : Place :=
  .braces false place.isInDocument stops

def opensChannel (s : Source) : Bool :=
  s.isExtended && match s.rest with
    | '<' :: '(' :: _ => true
    | '>' :: '(' :: _ => true
    | _ => false

/-- Whether a group of an extended pattern opens here. -/
def opensGroup (s : Source) : Bool :=
  s.groups && match s.rest with
    | c :: '(' :: _ => "?*+@!".toList.contains c
    | _ => false

/-- Whether the parenthesis that closes a text, in which so many more are open, is followed by
another one; a text without it counts as one with both. -/
def closesTwice : Nat → Text → Bool
  | _, [] => true
  | open_, '(' :: rest => closesTwice (open_ + 1) rest
  | 0, ')' :: rest => rest.head? == some ')'
  | open_ + 1, ')' :: rest => closesTwice open_ rest
  | open_, '\\' :: _ :: rest => closesTwice open_ rest
  | open_, _ :: rest => closesTwice open_ rest

mutual

def parts (script : Reading (Option Command)) :
    Nat → Place → List Part → Reading (Word × Option Char)
  | 0, place, read => atEnd place read
  | fuel + 1, place, read => do
    match ← peek with
    | none => atEnd place read
    | some c =>
      if c = '$' then
        skip
        let p ← dollar script fuel place
        parts script fuel place (pushAll p read)
      else if c = backquote then
        skip
        let body ← backquoted script place.isQuoted
        parts script fuel place (.output body place.isQuoted :: read)
      else if c = '\\' then
        skip
        match ← peekBare with
        | none => parts script fuel place (push ['\\'] true read)
        | some e =>
          skip
          let plain := !place.isQuoted || escapes place e
          parts script fuel place (push (if plain then [e] else ['\\', e]) true read)
      else match place with
        | .bare =>
          if opensChannel (← get) then
            skip
            skip
            let body ← enclosed script
            parts script fuel place (.channel (c = '<') body :: read)
          else if endsWord c then return (finished read, none)
          else inBase script fuel place c read
        | .quotes _ =>
          skip
          if c = '"' then return (finished read, some c)
          else parts script fuel place (push [c] true read)
        | .document =>
          skip
          parts script fuel place (push [c] true read)
        | .braces quoted _ stops =>
          if stops.contains c then
            skip
            return (finished read, some c)
          else if quoted then
            let line := (← get).line
            skip
            if c = '"' then
              let (inner, _) ← parts script fuel (.quotes line) []
              parts script fuel place (pushAll inner read)
            else parts script fuel place (push [c] true read)
          else inBase script fuel place c read
        | .sum depth line =>
          skip
          if c = '(' then parts script fuel (.sum (depth + 1) line) (push [c] true read)
          else if c = ')' then
            if 0 < depth then parts script fuel (.sum (depth - 1) line) (push [c] true read)
            else if ← skipIf ')' then return (finished read, some c)
            else parts script fuel place (push [c] true read)
          else parts script fuel place (push [c] true read)
        | .group depth line =>
          if c = '(' then
            skip
            parts script fuel (.group (depth + 1) line) (push [c] false read)
          else if c = ')' then
            skip
            if depth = 0 then return (finished (push [c] false read), some c)
            else parts script fuel (.group (depth - 1) line) (push [c] false read)
          else inBase script fuel place c read
        | .expression depth line =>
          if c = '(' then
            skip
            parts script fuel (.expression (depth + 1) line) (push [c] false read)
          else if c = ')' && 0 < depth then
            skip
            parts script fuel (.expression (depth - 1) line) (push [c] false read)
          else if c = '\n' || (depth = 0 && (c = ' ' || c = '\t' || c = ')')) then
            return (finished read, none)
          else inBase script fuel place c read

def inBase (script : Reading (Option Command)) :
    Nat → Place → Char → List Part → Reading (Word × Option Char)
  | 0, place, _, read => atEnd place read
  | fuel + 1, place, c, read => do
    let line := (← get).line
    if opensGroup (← get) then
      skip
      skip
      let (inner, _) ← parts script fuel (.group 0 line) []
      parts script fuel place (pushAll inner (push [c, '('] false read))
    else
      skip
      if c = '\'' then
        let t ← singleQuoted line (← size) []
        parts script fuel place (push t true read)
      else if c = '"' then
        let (inner, _) ← parts script fuel (.quotes line) []
        parts script fuel place (pushAll (if inner.isEmpty then [.text [] true] else inner) read)
      else parts script fuel place (push [c] false read)

def dollar (script : Reading (Option Command)) : Nat → Place → Reading Word
  | 0, place => return [.text ['$'] place.isQuoted]
  | fuel + 1, place => do
    let quoted := place.isQuoted
    let line := (← get).line
    match ← peek with
    | some '(' =>
      skip
      let opensSum := (← peek) == some '('
      let s ← get
      if opensSum && (!s.isExtended || closesTwice 0 (s.rest.drop 1)) then
        skip
        let (expression, _) ← parts script fuel (.sum 0 line) []
        return [.number expression quoted]
      else
        let c ← enclosed script
        return [.output (if s.isExtended then writtenOut c else c) quoted]
    | some '\x7b' =>
      skip
      let start := (← get).rest
      match ← braced script fuel place with
      | .value p (.unknown _) q =>
        let length := start.length - (← get).rest.length
        return [.value p (.unknown ("$\x7b".toList ++ start.take length)) q]
      | p => return [p]
    | some '\'' =>
      if !quoted && (← get).isExtended then
        skip
        return [.text (← singleQuotedEscaped line (← size) []) true]
      else return [.text ['$'] quoted]
    | some '"' =>
      if !quoted && (← get).isExtended then return []
      else return [.text ['$'] quoted]
    | some c =>
      if isNameStart c then return [.value (.named (← span isNameChar (← size) [])) .plain quoted]
      else if isSpecial c then
        skip
        return [.value (.named [c]) .plain quoted]
      else return [.text ['$'] quoted]
    | none => return [.text ['$'] quoted]

def braced (script : Reading (Option Command)) : Nat → Place → Reading Part
  | 0, place => unknown place
  | fuel + 1, place => do
    let s ← get
    match ← peek with
    | none => unknownUse script fuel place
    | some c =>
      if isNameStart c then
        subscripted script fuel place (← span isNameChar (← size) [])
      else if c.isDigit then
        use script fuel place (.named (← span Char.isDigit (← size) []))
      else if c = '\x7d' then unknownUse script fuel place
      else if c = '!' && s.isExtended && (s.rest[1]?.any fun d => isNameChar d || d = '#' ||
          d = '@' || d = '*' || d = '?') then
        skip
        indirect script fuel place
      else
        skip
        if c = '#' then hashed script fuel place
        else if isSpecial c then use script fuel place (.named [c])
        else unknownUse script fuel place

/-- What stands behind an exclamation mark: the name of a name, the beginning of names, or the list
whose places are meant. -/
def indirect (script : Reading (Option Command)) : Nat → Place → Reading Part
  | 0, place => unknown place
  | fuel + 1, place => do
    match ← peek with
    | some c =>
      let name ←
        if isNameStart c then span isNameChar (← size) []
        else if c.isDigit then span Char.isDigit (← size) []
        else do
          skip
          pure [c]
      let s ← get
      match s.rest with
      | '[' :: i :: ']' :: '\x7d' :: _ =>
        if i = '@' || i = '*' then
          set { s with rest := s.rest.drop 4 }
          return .value (.keys name (i = '*')) .plain place.isQuoted
        else indirectElement script fuel place name
      | i :: '\x7d' :: _ =>
        if (i = '@' || i = '*') && isName name then
          set { s with rest := s.rest.drop 2 }
          return .value (.names name (i = '*')) .plain place.isQuoted
        else indirectElement script fuel place name
      | _ => indirectElement script fuel place name
    | none => unknownUse script fuel place

def indirectElement (script : Reading (Option Command)) : Nat → Place → Text → Reading Part
  | 0, place, _ => unknown place
  | fuel + 1, place, name => do
    match ← subscripted script fuel place name with
    | .value p use quoted => return .value (.indirect p) use quoted
    | p => return p

def subscripted (script : Reading (Option Command)) : Nat → Place → Text → Reading Part
  | 0, place, _ => unknown place
  | fuel + 1, place, name => do
    let s ← get
    if s.isExtended && s.rest.head? == some '[' then
      skip
      let i ← index script fuel place
      use script fuel place (.element name i)
    else use script fuel place (.named name)

def index (script : Reading (Option Command)) : Nat → Place → Reading Index
  | 0, _ => return .all false
  | fuel + 1, place => do
    let (w, _) ← parts script fuel (unquotedIn place [']']) []
    match Part.literal? w with
    | some ['@'] => return .all false
    | some ['*'] => return .all true
    | _ => return .single w

/-- What stands behind a hash sign: a name if the length is meant, or else an operator. -/
def hashed (script : Reading (Option Command)) : Nat → Place → Reading Part
  | 0, place => unknown place
  | fuel + 1, place => do
    match ← peek with
    | none => unknownUse script fuel place
    | some d =>
      if isNameChar d then
        let name ← span (if d.isDigit then Char.isDigit else isNameChar) (← size) []
        if (← get).isExtended && (← peek) == some '[' then
          skip
          let i ← index script fuel place
          if ← skipIf '\x7d' then return .value (.element name i) .length place.isQuoted
          else unknownUse script fuel place
        else if ← skipIf '\x7d' then return .value (.named name) .length place.isQuoted
        else unknownUse script fuel place
      else
        skip
        if d ≠ '\x7d' && (← peek) == some '\x7d' then
          if isSpecial d then
            skip
            return .value (.named [d]) .length place.isQuoted
          else unknownUse script fuel place
        else useOf script fuel place (.named ['#']) d

def use (script : Reading (Option Command)) : Nat → Place → Parameter → Reading Part
  | 0, place, _ => unknown place
  | fuel + 1, place, p => do
    match ← peek with
    | none => unknownUse script fuel place
    | some c =>
      skip
      useOf script fuel place p c

/-- The value of a parameter whose name and operator have been read. -/
def useOf (script : Reading (Option Command)) : Nat → Place → Parameter → Char → Reading Part
  | 0, place, _, _ => unknown place
  | fuel + 1, place, p, c => do
    let quoted := place.isQuoted
    let word := parts script fuel (quotedIn place) []
    let pattern := parts script fuel (unquotedIn place ['\x7d']) []
    let extended := (← get).isExtended
    match c with
    | '\x7d' => return .value p .plain quoted
    | '-' => return .value p (.fallback false (← word).1) quoted
    | '+' => return .value p (.replacement false (← word).1) quoted
    | '=' => return .value p (.assign false (← word).1) quoted
    | '?' => return .value p (.demand false (← word).1) quoted
    | '%' =>
      let longest ← skipIf '%'
      return .value p (.trim true longest (← pattern).1) quoted
    | '#' =>
      let longest ← skipIf '#'
      return .value p (.trim false longest (← pattern).1) quoted
    | ':' =>
      match ← peek with
      | some '-' =>
        skip
        return .value p (.fallback true (← word).1) quoted
      | some '+' =>
        skip
        return .value p (.replacement true (← word).1) quoted
      | some '=' =>
        skip
        return .value p (.assign true (← word).1) quoted
      | some '?' =>
        skip
        return .value p (.demand true (← word).1) quoted
      | some '\x7d' =>
        if extended then unknownUse script fuel place
        else
          skip
          unknownUse script fuel place
      | _ =>
        if extended then
          let (start, stop) ← parts script fuel (unquotedIn place [':', '\x7d']) []
          if stop = some ':' then
            return .value p (.slice start (some (← pattern).1)) quoted
          else return .value p (.slice start none) quoted
        else
          skip
          unknownUse script fuel place
    | '/' =>
      if extended then
        let all ← skipIf '/'
        let (old, stop) ← parts script fuel (unquotedIn place ['/', '\x7d']) []
        if stop = some '/' then
          return .value p (.exchange all old (← pattern).1) quoted
        else return .value p (.exchange all old []) quoted
      else unknownUse script fuel place
    | '^' => letterUse script fuel place p '^' true
    | ',' => letterUse script fuel place p ',' false
    | '@' =>
      if extended then
        let s ← get
        match s.rest with
        | letter :: '\x7d' :: rest =>
          set { s with rest }
          return .value p (.form letter) quoted
        | _ => unknownUse script fuel place
      else unknownUse script fuel place
    | _ => unknownUse script fuel place

/-- The letters of a value in upper or lower case; the sign that asks for it has been read once. -/
def letterUse (script : Reading (Option Command)) :
    Nat → Place → Parameter → Char → Bool → Reading Part
  | 0, place, _, _, _ => unknown place
  | fuel + 1, place, p, sign, upper => do
    if (← get).isExtended then
      let all ← skipIf sign
      let (w, _) ← parts script fuel (unquotedIn place ['\x7d']) []
      return .value p (.letters upper all (if w.isEmpty then none else some w)) place.isQuoted
    else unknownUse script fuel place

/-- Something in braces that has no meaning, which is a fault only when it comes to it. -/
def unknownUse (script : Reading (Option Command)) : Nat → Place → Reading Part
  | 0, place => unknown place
  | fuel + 1, place => do
    let _ ← parts script fuel (quotedIn place) []
    unknown place

def unknown (place : Place) : Reading Part :=
  return .value (.named []) (.unknown []) place.isQuoted

end

def Part.isQuoted : Part → Bool
  | .text _ quoted => quoted
  | .value _ _ quoted => quoted
  | .number _ quoted => quoted
  | .output _ quoted => quoted
  | _ => false

/-! ### Documents -/

def goesOn (line : Text) : Bool :=
  (line.reverse.takeWhile (· == '\\')).length % 2 == 1

def documentText (a : Announcement) : Nat → Bool → List Text → Reading (Text × Bool)
  | 0, _, read => return (read.reverse.flatten, false)
  | fuel + 1, continued, read => do
    let s ← get
    if s.rest.isEmpty then return (read.reverse.flatten, false)
    else
      let raw := s.rest.takeWhile (· != '\n')
      let behind := s.rest.drop raw.length
      let line := if a.dropsTabs && !continued then raw.dropWhile (· == '\t') else raw
      set { s with
        rest := behind.drop 1, present := behind.drop 1, previous := s.present
        line := if behind.isEmpty then s.line else s.line + 1 }
      if !continued && line == a.marker then return (read.reverse.flatten, true)
      else documentText a fuel (!a.verbatim && goesOn line) ((line ++ behind.take 1) :: read)

def endlessDocument (a : Announcement) : Text :=
  "warning: here-document at line ".toList ++ Text.ofNat a.line ++
    " delimited by end-of-file (wanted ".toList ++ backquote :: a.marker ++ "')".toList

def document (script : Reading (Option Command)) (a : Announcement) : Reading Unit := do
  let line := (← get).line
  let (text, closed) ← documentText a (← size) false []
  if !closed then
    modify fun s => { s with
      warnings := s.warnings ++ [(if s.previous.isEmpty then s.line else s.line - 1,
        endlessDocument a)] }
  let body ← if a.verbatim then pure [.text text true]
    else within text line do
      return (← parts script (8 * text.length + 8) .document []).1
  modify fun s => { s with documents := s.documents.setIfInBounds a.number body }

def documents (script : Reading (Option Command)) : Reading Unit := do
  let announced := (← get).announced
  modify fun s => { s with announced := [] }
  announced.forM (document script)

/-! ### Tokens -/

def redirection (c : Char) : Reading String := do
  if c = '>' then
    if ← skipIf '>' then return ">>"
    else if ← skipIf '|' then return ">|"
    else if ← skipIf '&' then return ">&"
    else return ">"
  else if ← skipIf '<' then
    if ← skipIf '-' then return "<<-"
    else if (← get).isExtended then
      return if ← skipIf '<' then "<<<" else "<<"
    else return "<<"
  else if ← skipIf '&' then return "<&"
  else if ← skipIf '>' then return "<>"
  else return "<"

def wordToken (script : Reading (Option Command)) : Reading Token := do
  let before ← get
  set { before with wordLine := before.line }
  let (w, _) ← parts script (8 * (← size)) .bare []
  modify fun s => { s with wordLine := before.wordLine }
  let isRedirection := (← peekBare).any fun c => c == '<' || c == '>'
  let stop := (← get).rest
  match w, isRedirection, ← peekBare with
  | [], true, some c =>
    skip
    return .redirect none (← redirection c)
  | [.text d false], true, some c =>
    if d.all Char.isDigit && (d.length = 1 || (before.isExtended && d.length < 5)) then
      skip
      return .redirect (some (Digits.valueIn 10 d)) (← redirection c)
    else return .word w false before.rest stop
  | _, _, _ => return .word w (w.any Part.isQuoted) before.rest stop

def skipComment : Reading Unit :=
  modify fun s => { s with rest := s.rest.dropWhile (· != '\n') }

def joiner (c : Char) : Reading Token := do
  let extended := (← get).isExtended
  if ← skipIf c then return .operator (String.ofList [c, c])
  else if c = '&' && extended && (← peek) == some '>' then
    skip
    return .redirect none (if ← skipIf '>' then "&>>" else "&>")
  else if c = '|' && extended && (← peek) == some '&' then
    skip
    return .operator "|&"
  else return .operator (String.singleton c)

def separator : Reading Token := do
  let extended := (← get).isExtended
  if ← skipIf ';' then
    if extended && (← peek) == some '&' then
      skip
      return .operator ";;&"
    else return .operator ";;"
  else if extended && (← peek) == some '&' then
    skip
    return .operator ";&"
  else return .operator ";"

def lexeme (script : Reading (Option Command)) : Nat → Reading Token
  | 0 => return .finish
  | fuel + 1 => do
    match ← peek with
    | none => return .finish
    | some c =>
      match c with
      | ' ' =>
        skip
        lexeme script fuel
      | '\t' =>
        skip
        lexeme script fuel
      | '#' =>
        skipComment
        lexeme script fuel
      | '\n' =>
        skip
        return .newline
      | '&' =>
        skip
        joiner c
      | '|' =>
        skip
        joiner c
      | ';' =>
        skip
        separator
      | '(' =>
        skip
        return .operator "("
      | ')' =>
        skip
        return .operator ")"
      | _ => wordToken script

/-- A token in the light of the reserved words. -/
def classified (d : Dialect) : Token → Token
  | .word [.text t false] false start stop =>
    match (reservedWords d).find? (·.toList == t) with
    | some w => .reserved w
    | none => .word [.text t false] false start stop
  | t => t

/-- Leaves the aliases whose texts have been read, and tells whether the word behind one of them may
be an alias too. -/
def leaveAliases : Reading Bool := do
  let s ← get
  let (left, others) := s.unfolding.partition fun a => s.rest.length < a.behind
  set { s with unfolding := others }
  return left.any (·.goesOn)

/-- Reads the text of an alias in place of a name that has been read, if it is the name of one. No
alias is put into its own text. -/
def unfold (name : Text) : Reading Bool := do
  let s ← get
  match s.aliases.lookup name with
  | some text =>
    if s.unfolding.any (·.name = name) then return false
    else
      let goesOn := text.getLast?.any fun c => c = ' ' || c = '\t'
      set { s with
        rest := text ++ s.rest
        unfolding := ⟨name, s.rest.length, goesOn⟩ :: s.unfolding }
      return true
  | none => return false

/-- The next token; perhaps one behind line ends, perhaps a reserved word, and perhaps one of the
text that an alias stands for. -/
def tokenAt (script : Reading (Option Command)) (newlines reserved unfolds : Bool) :
    Nat → Reading Token
  | 0 => return .finish
  | fuel + 1 => do
    let s ← get
    let t ← match s.given with
      | some t => do
        set { s with given := none }
        pure t
      | none => lexeme script s.rest.length.succ
    match t with
    | .newline =>
      if newlines then
        documents script
        tokenAt script newlines reserved unfolds fuel
      else return t
    | t =>
      let goesOn ← leaveAliases
      match if reserved then classified s.dialect t else t with
      | .word [.text name false] false start stop =>
        let unfolded ← if unfolds || goesOn then unfold name else pure false
        if unfolded then tokenAt script newlines reserved true fuel
        else return .word [.text name false] false start stop
      | t => return t

def token (script : Reading (Option Command)) (newlines reserved : Bool) : Nat → Reading Token :=
  tokenAt script newlines reserved reserved

end Manuscript.Shell.Reading
