import Manuscript.Json.Basic
import Manuscript.Text.Utf8

/-!
Reading JSON. A text is read only if it is one value with nothing but blanks
around it: no comments, no trailing commas, no byte order mark, and no control
characters inside strings.
-/

namespace Manuscript.Json

namespace Reader

def isSpace (c : Char) : Bool :=
  c == ' ' || c == '\n' || c == '\r' || c == '\t'

def skip (t : Text) : Text :=
  t.dropWhile isSpace

/-! ### Strings -/

def hexValue? (c : Char) : Option Nat :=
  if '0' ≤ c ∧ c ≤ '9' then some (c.toNat - '0'.toNat)
  else if 'a' ≤ c ∧ c ≤ 'f' then some (c.toNat - 'a'.toNat + 10)
  else if 'A' ≤ c ∧ c ≤ 'F' then some (c.toNat - 'A'.toNat + 10)
  else none

def unit? : Text → Option (Nat × Text)
  | a :: b :: c :: d :: rest => do
    let a ← hexValue? a
    let b ← hexValue? b
    let c ← hexValue? c
    let d ← hexValue? d
    some (a * 4096 + b * 256 + c * 16 + d, rest)
  | _ => none

def isHigh (u : Nat) : Bool :=
  0xd800 ≤ u && u < 0xdc00

def isLow (u : Nat) : Bool :=
  0xdc00 ≤ u && u < 0xe000

/-- What a code unit spells, together with a second one if it is half of a pair: a character,
or nothing where the other half is missing. -/
def spelled (u : Nat) (rest : Text) : Option Char × Text :=
  if isHigh u then
    match rest with
    | '\\' :: 'u' :: more =>
      match unit? more with
      | some (v, after) =>
        if isLow v then (some (Char.ofNat (0x10000 + (u - 0xd800) * 1024 + (v - 0xdc00))), after)
        else (none, rest)
      | none => (none, rest)
    | _ => (none, rest)
  else if isLow u then (none, rest)
  else (some (Char.ofNat u), rest)

def shortEscape? (c : Char) : Option Char :=
  match c with
  | '"' => some '"'
  | '\\' => some '\\'
  | '/' => some '/'
  | 'b' => some '\x08'
  | 'f' => some '\x0c'
  | 'n' => some '\n'
  | 'r' => some '\r'
  | 't' => some '\t'
  | _ => none

/-- The characters up to the closing quote, added to those before, the latest first; `none` in
their place once an escape has spelled no character. -/
def chars? : Nat → Text → Option Text → Option (Option Text × Text)
  | 0, _, _ => none
  | fuel + 1, t, read =>
    match t with
    | '"' :: rest => some (read.map List.reverse, rest)
    | '\\' :: 'u' :: rest =>
      match unit? rest with
      | some (u, rest) =>
        match spelled u rest with
        | (some c, rest) => chars? fuel rest (read.map (c :: ·))
        | (none, rest) => chars? fuel rest none
      | none => none
    | '\\' :: c :: rest =>
      match shortEscape? c with
      | some c => chars? fuel rest (read.map (c :: ·))
      | none => none
    | c :: rest => if c.toNat < 32 then none else chars? fuel rest (read.map (c :: ·))
    | [] => none

def string? (t : Text) : Option (Option String × Text) :=
  (chars? (t.length + 1) t (some [])).map fun (s, rest) => (s.map String.ofList, rest)

/-! ### Numbers -/

def digits (t : Text) : Text × Text :=
  t.span Char.isDigit

def fraction? : Text → Option (Text × Text)
  | '.' :: rest =>
    let (ds, rest) := digits rest
    if ds.isEmpty then none else some ('.' :: ds, rest)
  | t => some ([], t)

def isExponentMark (c : Char) : Bool :=
  c == 'e' || c == 'E'

def isSign (c : Char) : Bool :=
  c == '+' || c == '-'

def exponent? : Text → Option (Text × Text)
  | c :: rest =>
    if isExponentMark c then
      let sign := (rest.take 1).filter isSign
      let (ds, after) := digits (rest.drop sign.length)
      if ds.isEmpty then none else some (c :: sign ++ ds, after)
    else some ([], c :: rest)
  | [] => some ([], [])

/-- A number without its sign: no zero stands before another digit. -/
def unsigned? (t : Text) : Option (Text × Text) := do
  let (whole, rest) := digits t
  if whole.isEmpty ∨ (whole.head? = some '0' ∧ whole ≠ ['0']) then none
  else
    let (fraction, rest) ← fraction? rest
    let (exponent, rest) ← exponent? rest
    some (whole ++ fraction ++ exponent, rest)

def number? : Text → Option (Text × Text)
  | '-' :: rest => (unsigned? rest).map fun (literal, rest) => ('-' :: literal, rest)
  | t => unsigned? t

/-! ### Values -/

mutual

def value? : Nat → Text → Option (Json × Text)
  | 0, _ => none
  | fuel + 1, t =>
    match t with
    | '"' :: rest =>
      match string? rest with
      | some (some s, rest) => some (.string s, rest)
      | some (none, rest) => some (.garbled, rest)
      | none => none
    | '[' :: rest =>
      match skip rest with
      | ']' :: rest => some (.array [], rest)
      | rest => (items? fuel rest).map fun (js, rest) => (.array js, rest)
    | '\x7b' :: rest =>
      match skip rest with
      | '\x7d' :: rest => some (.object [], rest)
      | rest => (members? fuel rest).map fun
        | (some ms, rest) => (.object ms, rest)
        | (none, rest) => (.garbled, rest)
    | 'n' :: 'u' :: 'l' :: 'l' :: rest => some (.null, rest)
    | 't' :: 'r' :: 'u' :: 'e' :: rest => some (.bool true, rest)
    | 'f' :: 'a' :: 'l' :: 's' :: 'e' :: rest => some (.bool false, rest)
    | t => (number? t).map fun (literal, rest) => (.number literal, rest)

def items? : Nat → Text → Option (List Json × Text)
  | 0, _ => none
  | fuel + 1, t =>
    match value? fuel t with
    | some (j, rest) =>
      match skip rest with
      | ',' :: rest => (items? fuel (skip rest)).map fun (js, rest) => (j :: js, rest)
      | ']' :: rest => some ([j], rest)
      | _ => none
    | none => none

/-- Members up to the closing brace; `none` in their place if a name spells no text. -/
def members? : Nat → Text → Option (Option (List (String × Json)) × Text)
  | 0, _ => none
  | fuel + 1, t =>
    match t with
    | '"' :: rest =>
      match string? rest with
      | some (name, rest) =>
        match skip rest with
        | ':' :: rest =>
          match value? fuel (skip rest) with
          | some (j, rest) =>
            let member := name.map (·, j)
            match skip rest with
            | ',' :: rest =>
              (members? fuel (skip rest)).map fun (ms, rest) =>
                (member.bind fun m => ms.map (m :: ·), rest)
            | '\x7d' :: rest => some (member.map ([·]), rest)
            | _ => none
          | none => none
        | _ => none
      | none => none
    | _ => none

end

end Reader

def ofText? (t : Text) : Option Json :=
  match Reader.value? (t.length + 1) (Reader.skip t) with
  | some (j, rest) => if (Reader.skip rest).isEmpty then some j else none
  | none => none

/-- What is read in place of bytes that are not UTF-8: no JSON outside of strings or behind a
backslash, and in a string an escape that spells no character. -/
def illFormed : Text :=
  " \\ud800 ".toList

/-- The value that bytes write. Those in a string need not be UTF-8, which garbles it. -/
def ofBytes? (b : ByteArray) : Option Json :=
  ofText? (Text.ofBytesWith illFormed b)

end Manuscript.Json
