import Manuscript.Shell.Regular
import Manuscript.Shell.Tool.Format
import Manuscript.Shell.Tool.Options

/-!
Tools that calculate: expressions whose signs are arguments of their own, and
sequences of numbers.
-/

namespace Manuscript.Shell.Tool

/-! ### Expressions -/

namespace Expression

inductive Fault
  | missingArgument (behind : Text)
  | expectingClosing (behind : Text)
  | closingInstead (of : Text)
  | unexpectedClosing
  | unexpected (t : Text)
  | notInteger
  | divisionByZero
  | regular (f : Regular.Fault)

def Fault.message : Fault → List Text
  | missingArgument t => ["syntax error: missing argument after ".toList, curly t]
  | expectingClosing t => ["syntax error: expecting ')' after ".toList, curly t]
  | closingInstead t => ["syntax error: expecting ')' instead of ".toList, curly t]
  | unexpectedClosing => ["syntax error: unexpected ')'".toList]
  | unexpected t => ["syntax error: unexpected argument ".toList, curly t]
  | notInteger => ["non-integer argument".toList]
  | divisionByZero => ["division by zero".toList]
  | regular f => [f.message.toList]

structure Progress where
  left : List Text
  before : Text := []

abbrev Reading := StateT Progress (Except Fault)

def next? : Reading (Option Text) := do
  return (← get).left.head?

def skip : Reading Unit :=
  modify fun p => ⟨p.left.drop 1, p.left.headD p.before⟩

def skipOne (signs : List String) : Reading (Option String) := do
  match ← next? with
  | none => return none
  | some t =>
    let sign := signs.find? (·.toList == t)
    if sign.isSome then skip
    return sign

def integer? (t : Text) : Option Int :=
  match t with
  | '+' :: _ => none
  | t => Tool.integer? t

def isNull (t : Text) : Bool :=
  t.isEmpty ||
    match t with
    | '-' :: ds => !ds.isEmpty && ds.all (· == '0')
    | ds => ds.all (· == '0')

def zero : Text := ['0']

def ofBool (b : Bool) : Text := if b then ['1'] else zero

def matched (t pattern : Text) : Except Fault Text :=
  match Regular.ofText false false (Octets.characters pattern) with
  | .error f => .error (.regular f)
  | .ok (r, groups) =>
    let s : Regular.Subject := ⟨(Octets.characters t).toArray, false⟩
    match r.searchBetween s (· == 0) (fun _ => true) 0 with
    | none => .ok (if groups = 0 then zero else [])
    | some f =>
      .ok (if groups = 0 then Text.ofNat (f.last - f.first) else Octets.ofCharacters (f.group s 1))

def calculated (sign : String) (a b : Text) : Except Fault Text :=
  match integer? a, integer? b with
  | some a, some b =>
    match sign with
    | "+" => .ok (Text.ofInt (a + b))
    | "-" => .ok (Text.ofInt (a - b))
    | "*" => .ok (Text.ofInt (a * b))
    | "/" => if b = 0 then .error .divisionByZero else .ok (Text.ofInt (Int.tdiv a b))
    | _ => if b = 0 then .error .divisionByZero else .ok (Text.ofInt (Int.tmod a b))
  | _, _ => .error .notInteger

def compared (sign : String) (a b : Text) : Text :=
  let order := match integer? a, integer? b with
    | some a, some b => compare a b
    | _, _ => if a == b then .eq else if Path.textLe a b then .lt else .gt
  ofBool (match sign with
    | "<" => order == .lt
    | "<=" => order != .gt
    | "=" => order == .eq
    | "==" => order == .eq
    | "!=" => order != .eq
    | ">=" => order != .lt
    | _ => order == .gt)

def part (t first count : Text) : Text :=
  match integer? first, integer? count with
  | some first, some count =>
    if first ≤ 0 || count ≤ 0 then []
    else Octets.ofCharacters
      (((Octets.characters t).drop (first.toNat - 1)).take count.toNat)
  | _, _ => []

def place (t chars : Text) : Nat :=
  let t := Octets.characters t
  let chars := Octets.characters chars
  let before := t.takeWhile (!chars.contains ·)
  if before.length = t.length then 0 else before.length + 1

/-- The levels of signs that are read from the left, the loosest first. -/
def levels : List (List String) :=
  [["|"], ["&"], ["<", "<=", "=", "==", "!=", ">=", ">"], ["+", "-"], ["*", "/", "%"], [":"]]

/-- What a sign makes of two values. In a branch that does not count nothing can go wrong. -/
def combined (counts : Bool) (sign : String) (a b : Text) : Except Fault Text :=
  if sign == "|" then
    .ok (if !isNull a then a else if isNull b then zero else b)
  else if sign == "&" then .ok (if isNull a || isNull b then zero else a)
  else if !counts then .ok a
  else if sign == ":" then matched a b
  else if ["+", "-", "*", "/", "%"].contains sign then calculated sign a b
  else .ok (compared sign a b)

mutual

def value : Nat → List (List String) → Bool → Reading Text
  | 0, _, _ => return []
  | fuel + 1, [], counts => primary fuel counts
  | fuel + 1, level :: tighter, counts => do
    let a ← value fuel tighter counts
    chain fuel level tighter counts a

def chain : Nat → List String → List (List String) → Bool → Text → Reading Text
  | 0, _, _, _, a => return a
  | fuel + 1, level, tighter, counts, a => do
    match ← skipOne level with
    | none => return a
    | some sign =>
      let matters :=
        if sign == "|" then isNull a else if sign == "&" then !isNull a else true
      let b ← value fuel tighter (counts && matters)
      let c ← match combined counts sign a b with
        | .ok c => pure c
        | .error f => throw f
      chain fuel level tighter counts c

def primary : Nat → Bool → Reading Text
  | 0, _ => return []
  | fuel + 1, counts => do
    let required : Reading Text := do
      match ← next? with
      | some t =>
        skip
        return t
      | none => throw (.missingArgument (← get).before)
    match ← skipOne ["+", "length", "match", "index", "substr", "("] with
    | none =>
      let t ← required
      if t == [')'] then throw .unexpectedClosing
      return t
    | some "+" => required
    | some "length" =>
      let t ← primary fuel counts
      return Text.ofNat (Octets.characters t).length
    | some "match" =>
      let t ← primary fuel counts
      let p ← primary fuel counts
      if counts then
        match matched t p with
        | .ok r => return r
        | .error f => throw f
      else return t
    | some "index" =>
      let t ← primary fuel counts
      let chars ← primary fuel counts
      return Text.ofNat (place t chars)
    | some "substr" =>
      let t ← primary fuel counts
      let first ← primary fuel counts
      let count ← primary fuel counts
      return part t first count
    | some _ =>
      let v ← value fuel levels counts
      match ← next? with
      | none => throw (.expectingClosing (← get).before)
      | some [')'] =>
        skip
        return v
      | some t => throw (.closingInstead t)

end

def evaluate (args : List Text) : Except Fault Text := do
  let (v, p) ← (value (16 * args.length + 16) levels true).run ⟨args, []⟩
  match p.left with
  | [] => return v
  | t :: _ => .error (.unexpected t)

end Expression

def expr (args : List Text) (s : State) : State :=
  match if args.head? == some ['-', '-'] then args.drop 1 else args with
  | [] => missingOperand 2 s
  | args =>
    match Expression.evaluate args with
    | .error f => (complain f.message s).setStatus 2
    | .ok t =>
      (s.say [t]).setStatus (if Expression.isNull t then 1 else 0)

/-! ### Sequences -/

structure Decimal where
  units : Int
  places : Nat
  width : Nat

def Decimal.scaled (d : Decimal) (places : Nat) : Int :=
  d.units * (Nat.pow 10 (places - d.places) : Nat)

def decimalOf? (t : Text) : Option Decimal :=
  let t := t.dropWhile fun c => c == ' ' || c == '\t'
  let (negative, body) := match t with
    | '-' :: rest => (true, rest)
    | '+' :: rest => (false, rest)
    | rest => (false, rest)
  let signed (n : Nat) : Int := if negative then -(n : Int) else n
  let whole := body.takeWhile Char.isDigit
  match body.drop whole.length with
  | [] =>
    if whole.isEmpty then none
    else some ⟨signed (Digits.valueIn 10 whole), 0, t.length⟩
  | '.' :: rest =>
    let part := rest.takeWhile Char.isDigit
    if part.length < rest.length || (whole.isEmpty && part.isEmpty) then none
    else some ⟨signed (Digits.valueIn 10 (whole ++ part)), part.length,
      t.length + (if whole.isEmpty then 1 else 0)⟩
  | 'e' :: rest =>
    match Tool.integer? rest with
    | some (.ofNat n) =>
      if whole.isEmpty || 30 < n then none
      else some ⟨signed (Digits.valueIn 10 whole * Nat.pow 10 n), 0, whole.length + n⟩
    | _ => none
  | 'x' :: ds =>
    if whole == ['0'] && !ds.isEmpty && ds.all Digits.isHex then
      some ⟨signed (Digits.valueIn 16 ds), 0, t.length⟩
    else none
  | _ => none

/-- A number of units with decimal places, at least so wide. -/
def decimalText (width places : Nat) (n : Int) : Text :=
  let ds := Text.ofNat n.natAbs
  let ds := List.replicate (places + 1 - ds.length) '0' ++ ds
  let whole := ds.take (ds.length - places)
  let body := if places = 0 then whole else whole ++ '.' :: ds.drop (ds.length - places)
  let sign : Text := if n < 0 then ['-'] else []
  sign ++ List.replicate (width - sign.length - body.length) '0' ++ body

def numbersUpTo (last step : Int) : Nat → Int → List Int → List Int
  | 0, _, found => found.reverse
  | fuel + 1, n, found =>
    if (if 0 < step then last < n else n < last) then found.reverse
    else numbersUpTo last step fuel (n + step) (n :: found)

/-- Arguments in front of the first one that is a negative number or no option; `isValue` tells
that the first of them is the value of an option. -/
def optionsBeforeNumbers : Bool → List Text → List Text × List Text
  | _, [] => ([], [])
  | true, v :: rest =>
    let (os, ps) := optionsBeforeNumbers false rest
    (v :: os, ps)
  | false, a :: rest =>
    match a with
    | '-' :: c :: more =>
      if c.isDigit || c == '.' then ([], a :: rest)
      else if c == '-' && more.isEmpty then ([], rest)
      else
        let takesNext := more.isEmpty && (c == 's' || c == 'f')
        let (os, ps) := optionsBeforeNumbers takesNext rest
        (a :: os, ps)
    | _ => ([], a :: rest)

def directives (format : Text) : Nat :=
  match format with
  | '%' :: '%' :: rest => directives rest
  | '%' :: rest => directives rest + 1
  | _ :: rest => directives rest
  | [] => 0

def seq (args : List Text) (s : State) : State :=
  let (options, operands) := optionsBeforeNumbers false args
  let table : OptionTable := ⟨"f:s:w", [("format", .value, 'f'), ("separator", .value, 's'),
    ("equal-width", .nothing, 'w')], true, 1⟩
  withOptions table (fun os _ s =>
    let invalid (t : Text) : State :=
      hint 1 (complain ["invalid floating point argument: ".toList, curly t] s)
    match operands with
    | [] => missingOperand 1 s
    | _ :: _ :: _ :: extra :: _ => extraOperand extra 1 s
    | texts =>
      match texts.find? fun t => (decimalOf? t).isNone with
      | some t => invalid t
      | none =>
        let one : Decimal := ⟨1, 0, 1⟩
        let (first, step, last) := match texts.filterMap decimalOf? with
          | [last] => (one, one, last)
          | [first, last] => (first, one, last)
          | [first, step, last] => (first, step, last)
          | _ => (one, one, one)
        if step.units = 0 then
          hint 1 (complain ["invalid Zero increment value: ".toList, curly (texts.getD 1 [])] s)
        else
          let shown := max first.places step.places
          let places := max shown last.places
          let widthOf (d : Decimal) : Nat :=
            d.width + (shown - d.places) + (if d.places = 0 && 0 < shown then 1 else 0) -
              (if 0 < d.places && shown = 0 then d.places + 1 else 0)
          let width := if isGiven os 'w' then max (widthOf first) (widthOf last) else 0
          let numbers := numbersUpTo (last.scaled places) (step.scaled places) 2000000
            (first.scaled places) []
          let down : Int := (Nat.pow 10 (places - shown) : Nat)
          let text (n : Int) : Text := decimalText width shown (Int.tdiv n down)
          let separator := (lastValue? os 's').getD ['\n']
          match lastValue? os 'f' with
          | none =>
            let lines := Text.joinWith separator (numbers.map text)
            (if numbers.isEmpty then s else s.say [lines]).succeed
          | some format =>
            match directives format with
            | 0 => failWith ["format ".toList, curly format, " has no % directive".toList] s
            | 1 =>
              let letter := ((format.dropWhile (· != '%')).drop 1).dropWhile
                fun c => c.isDigit || "#-+ 0.'".toList.contains c
              if letter.head?.any "aefgAEFG".toList.contains then
                let lines := Text.joinWith separator
                  (numbers.map fun n => (Format.run .tool format [text n]).text)
                (if numbers.isEmpty then s else s.say [lines]).succeed
              else
                failWith ["format ".toList, curly format, " has unknown %".toList, letter.take 1,
                  " directive".toList] s
            | _ =>
              failWith ["format ".toList, curly format, " has too many % directives".toList] s)
    options s

end Manuscript.Shell.Tool
