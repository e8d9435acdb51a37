import Manuscript.Shell.Digits
import Manuscript.Shell.Tool.Options

/-!
Escapes and formats in what scripts and tools print.
-/

namespace Manuscript.Shell.Format

/-- Who prints: the plain shell, the extended one, or a tool. They differ in the escapes they know
and in their complaints. -/
inductive Printer
  | shell
  | extended
  | tool
  deriving DecidableEq, Repr

/-! ### Escapes -/

/-- What a backslash and the text behind it stand for. -/
inductive Escape
  | text (t : Text) (rest : Text)
  | stop
  | missingNumber

def octal (limit : Nat) (t : Text) : Text × Text :=
  let ds := (t.take limit).takeWhile Digits.isOctal
  ([Char.ofNat (Digits.valueIn 8 ds % 256)], t.drop ds.length)

def hexDigits (limit : Nat) (t : Text) : Text :=
  (t.take limit).takeWhile Digits.isHex

def control? (c : Char) : Option Char :=
  match c with
  | 'a' => some '\x07'
  | 'b' => some '\x08'
  | 'e' => some '\x1b'
  | 'f' => some '\x0c'
  | 'n' => some '\n'
  | 'r' => some '\r'
  | 't' => some '\t'
  | 'v' => some '\x0b'
  | '\\' => some '\\'
  | _ => none

def escape (who : Printer) (inArgument : Bool) (t : Text) : Escape :=
  match t with
  | [] => .text ['\\'] []
  | c :: rest =>
    match control? c with
    | some d => .text [d] rest
    | none =>
      if c == '"' && who != .shell && !inArgument then .text ['"'] rest
      else if c == 'c' && (inArgument || who == .tool) then .stop
      else if c == '0' && inArgument then
        let (d, rest) := octal 3 rest
        .text d rest
      else if Digits.isOctal c then
        let (d, rest) := octal 3 t
        .text d rest
      else if c == 'x' && who != .shell then
        match hexDigits 2 rest with
        | [] => if who == .tool then .missingNumber else .text ['\\', 'x'] rest
        | ds => .text [Char.ofNat (Digits.valueIn 16 ds)] (rest.drop ds.length)
      else if (c == 'u' || c == 'U') && who != .shell then
        let size := if c == 'u' then 4 else 8
        let ds := hexDigits size rest
        if ds.length = size || (who == .extended && !ds.isEmpty) then
          .text (Octets.encode [Char.ofNat (Digits.valueIn 16 ds)]) (rest.drop ds.length)
        else if who == .tool then .missingNumber
        else .text ['\\', c] rest
      else .text ['\\', c] rest

/-- A text with its escapes read, whether they ask to stop there, and whether one is at fault. What
has been read before is in reverse. -/
def unescape (who : Printer) : Nat → Text → Text → Text × Bool × Bool
  | 0, read, _ => (read.reverse, false, false)
  | _, read, [] => (read.reverse, false, false)
  | fuel + 1, read, '\\' :: rest =>
    match escape who true rest with
    | .text t rest => unescape who fuel (t.reverse ++ read) rest
    | .stop => (read.reverse, true, false)
    | .missingNumber => (read.reverse, true, true)
  | fuel + 1, read, c :: rest => unescape who fuel (c :: read) rest

def unescaped (who : Printer) (t : Text) : Text × Bool × Bool :=
  unescape who (t.length + 1) [] t

/-! ### Fractions -/

structure Fraction where
  numerator : Nat
  denominator : Nat

/-- A quotient rounded to the nearest whole number, and to the even one of two. -/
def roundDiv (a b : Nat) : Nat :=
  let q := a / b
  let r := a % b
  if b < 2 * r || (2 * r = b && q % 2 = 1) then q + 1 else q

def Fraction.scaled (f : Fraction) (power : Int) : Fraction :=
  if 0 ≤ power then ⟨f.numerator * Nat.pow 2 power.toNat, f.denominator⟩
  else ⟨f.numerator, f.denominator * Nat.pow 2 (-power).toNat⟩

/-- The fraction nearest to another one whose numerator has so many binary digits. -/
def Fraction.nearest (f : Fraction) (digits : Nat) : Fraction :=
  if f.numerator = 0 then f
  else
    let guess : Int := (digits : Int) - 1 - (Nat.log2 f.numerator : Int) + Nat.log2 f.denominator
    let g := f.scaled guess
    let power := if g.numerator / g.denominator < Nat.pow 2 (digits - 1) then guess + 1 else guess
    let g := f.scaled power
    Fraction.scaled ⟨roundDiv g.numerator g.denominator, 1⟩ (-power)

def decimal? (t : Text) : Option (Fraction × Text) :=
  let whole := t.takeWhile Char.isDigit
  let t := t.drop whole.length
  let places := match t with
    | '.' :: rest => rest.takeWhile Char.isDigit
    | _ => []
  let rest := match t with
    | '.' :: rest => rest.drop places.length
    | t => t
  if whole.isEmpty && places.isEmpty then none
  else
    let n := Digits.valueIn 10 (whole ++ places)
    let scale := Nat.pow 10 places.length
    match rest with
    | e :: more =>
      if e == 'e' || e == 'E' then
        let (negative, ds) := match more with
          | '-' :: ds => (true, ds.takeWhile Char.isDigit)
          | '+' :: ds => (false, ds.takeWhile Char.isDigit)
          | ds => (false, ds.takeWhile Char.isDigit)
        let signed := more.head?.any fun c => c == '-' || c == '+'
        if ds.isEmpty then some (⟨n, scale⟩, rest)
        else
          let power := Nat.pow 10 (min (Digits.valueIn 10 ds) 400)
          let after := more.drop (ds.length + if signed then 1 else 0)
          some (if negative then ⟨n, scale * power⟩ else ⟨n * power, scale⟩, after)
      else some (⟨n, scale⟩, rest)
    | [] => some (⟨n, scale⟩, [])

def padded (width : Nat) (t : Text) : Text :=
  List.replicate (width - t.length) '0' ++ t

def Fraction.fixed (f : Fraction) (places : Nat) (point : Bool) : Text :=
  let n := roundDiv (f.numerator * Nat.pow 10 places) f.denominator
  let ds := padded (places + 1) (Text.ofNat n)
  let whole := ds.take (ds.length - places)
  if places = 0 then if point then whole ++ ['.'] else whole
  else whole ++ '.' :: ds.drop (ds.length - places)

/-- The power of ten of the first digit of a fraction that is not zero, at most `fuel` away from
that of one. -/
def exponentFrom (f : Fraction) : Nat → Int → Int
  | 0, e => e
  | fuel + 1, e =>
    let (a, b) := if 0 ≤ e then (f.numerator, f.denominator * Nat.pow 10 e.toNat)
      else (f.numerator * Nat.pow 10 (-e).toNat, f.denominator)
    if a < b then exponentFrom f fuel (e - 1)
    else if 10 * b ≤ a then exponentFrom f fuel (e + 1)
    else e

def Fraction.scientific (f : Fraction) (digits : Nat) : Text × Int :=
  if f.numerator = 0 then (List.replicate digits '0', 0)
  else
    let e := exponentFrom f 900 0
    let shift : Int := (digits : Int) - 1 - e
    let n := if 0 ≤ shift then roundDiv (f.numerator * Nat.pow 10 shift.toNat) f.denominator
      else roundDiv f.numerator (f.denominator * Nat.pow 10 (-shift).toNat)
    let ds := Text.ofNat n
    if ds.length = digits + 1 then (ds.take digits, e + 1) else (ds, e)

def exponentText (letter : Char) (e : Int) : Text :=
  letter :: (if e < 0 then '-' else '+') :: padded 2 (Text.ofNat e.natAbs)

def pointed (ds : Text) (point : Bool) : Text :=
  match ds with
  | [] => []
  | [d] => if point then [d, '.'] else [d]
  | d :: rest => d :: '.' :: rest

/-- Digits without the zeros at the end behind a point, nor the point itself if it comes last. -/
def trimmed (t : Text) : Text :=
  if t.contains '.' then
    let t := (t.reverse.dropWhile (· == '0')).reverse
    if t.getLast? == some '.' then t.dropLast else t
  else t

def Fraction.shown (f : Fraction) (letter : Char) (places : Option Nat) (alternative : Bool) :
    Text :=
  let n := places.getD 6
  match letter.toLower with
  | 'f' => f.fixed n alternative
  | 'e' =>
    let (ds, e) := f.scientific (n + 1)
    pointed ds alternative ++ exponentText letter e
  | _ =>
    let n := max n 1
    let (ds, e) := f.scientific n
    let whole := if e < -4 || (n : Int) ≤ e then pointed ds alternative
      else f.fixed ((n : Int) - 1 - e).toNat alternative
    let whole := if alternative then whole else trimmed whole
    if e < -4 || (n : Int) ≤ e then
      whole ++ exponentText (if letter == 'g' then 'e' else 'E') e
    else whole

/-! ### Directives -/

structure Directive where
  flags : Text
  width : Option Nat
  places : Option Nat
  letter : Char

def Directive.has (d : Directive) (c : Char) : Bool :=
  d.flags.contains c

def Directive.fill (d : Directive) (zeros : Bool) (sign body : Text) : Text :=
  let missing := d.width.getD 0 - (sign.length + body.length)
  if d.has '-' then sign ++ body ++ List.replicate missing ' '
  else if zeros then sign ++ List.replicate missing '0' ++ body
  else List.replicate missing ' ' ++ sign ++ body

def Directive.signOf (d : Directive) (negative : Bool) : Text :=
  if negative then ['-'] else if d.has '+' then ['+'] else if d.has ' ' then [' '] else []

def Directive.whole (d : Directive) (n : Int) : Text :=
  let least := d.places.getD 1
  let zeros := d.has '0' && d.places.isNone
  let digits (base : Nat) (n : Nat) : Text :=
    padded least (if n = 0 then [] else Nat.toDigits base n)
  let unsigned := (n % (Text.countLimit : Int)).toNat
  match d.letter with
  | 'o' =>
    let ds := digits 8 unsigned
    d.fill zeros [] (if d.has '#' && ds.head? != some '0' then '0' :: ds else ds)
  | 'x' =>
    d.fill zeros (if d.has '#' && unsigned ≠ 0 then ['0', 'x'] else []) (digits 16 unsigned)
  | 'X' =>
    d.fill zeros (if d.has '#' && unsigned ≠ 0 then ['0', 'X'] else [])
      ((digits 16 unsigned).map Char.toUpper)
  | 'u' => d.fill zeros [] (digits 10 unsigned)
  | _ => d.fill zeros (d.signOf (n < 0)) (digits 10 n.natAbs)

/-! ### Values -/

inductive ValueFault
  | notANumber
  | notAll
  | outOfRange
  deriving DecidableEq, Repr

def codeOf (who : Printer) (t : Text) : Nat :=
  match who, t with
  | .shell, c :: _ => c.toNat
  | _, t => ((Octets.characters (t.take 4)).head?.map Char.toNat).getD 0

def skipBlanks (t : Text) : Text :=
  t.dropWhile fun c => c == ' ' || (9 ≤ c.toNat && c.toNat ≤ 13)

def wholeOf (who : Printer) (signed : Bool) (t : Text) : Int × Option ValueFault :=
  let coded (rest : Text) : Int × Option ValueFault :=
    (codeOf who rest, if rest.isEmpty && who == .tool then some .notANumber else none)
  match t with
  | [] => (0, none)
  | '\'' :: rest => coded rest
  | '"' :: rest => coded rest
  | t =>
    let u := skipBlanks t
    let (negative, ds) := match u with
      | '-' :: ds => (true, ds)
      | '+' :: ds => (false, ds)
      | ds => (false, ds)
    if !(ds.head?.any Char.isDigit) then (0, some .notANumber)
    else
      let (n, rest) := Digits.number ds
      let limit := if signed then if negative then Digits.largest + 1 else Digits.largest
        else Text.countLimit - 1
      let m : Int := min n limit
      let value := if negative then -m else m
      if limit < n then (value, some .outOfRange)
      else (value, if rest.isEmpty then none else some .notAll)

def fractionOf (who : Printer) (t : Text) : Fraction × Bool × Option ValueFault :=
  match t with
  | [] => (⟨0, 1⟩, false, none)
  | '\'' :: rest => (⟨codeOf who rest, 1⟩, false, none)
  | '"' :: rest => (⟨codeOf who rest, 1⟩, false, none)
  | t =>
    let u := skipBlanks t
    let (negative, ds) := match u with
      | '-' :: ds => (true, ds)
      | '+' :: ds => (false, ds)
      | ds => (false, ds)
    match decimal? ds with
    | none => (⟨0, 1⟩, false, some .notANumber)
    | some (f, rest) =>
      (f.nearest (if who == .shell then 53 else 64), negative,
        if rest.isEmpty then none else some .notAll)

def ValueFault.message (who : Printer) (value : Text) : ValueFault → List Text
  | .notANumber =>
    match who with
    | .shell => [value, ": expected numeric value".toList]
    | .extended => [value, ": invalid number".toList]
    | .tool => [Tool.curly value, ": expected a numeric value".toList]
  | .notAll =>
    match who with
    | .shell => [value, ": not completely converted".toList]
    | .extended => [value, ": invalid number".toList]
    | .tool => [Tool.curly value, ": value not completely converted".toList]
  | .outOfRange =>
    match who with
    | .shell => [value, ": Numerical result out of range".toList]
    | .extended => ["warning: ".toList, value, ": Numerical result out of range".toList]
    | .tool => [Tool.curly value, ": Numerical result out of range".toList]

/-! ### Formats -/

structure Printed where
  pieces : List Text := []
  left : List Text
  complaints : List (List Text) := []
  consumes : Bool := false
  failed : Bool := false
  stopped : Bool := false

namespace Printed

def add (p : Printed) (t : Text) : Printed :=
  { p with pieces := t :: p.pieces }

def complain (p : Printed) (message : List Text) : Printed :=
  { p with complaints := message :: p.complaints, failed := true }

def text (p : Printed) : Text :=
  p.pieces.reverse.flatten

def next (p : Printed) : Text × Printed :=
  (p.left.headD [], { p with left := p.left.drop 1, consumes := true })

def note (p : Printed) (who : Printer) (value : Text) (f : Option ValueFault) : Printed :=
  match f with
  | some f => p.complain (f.message who value)
  | none => p

def nextCount (p : Printed) (who : Printer) : Int × Printed :=
  let (t, p) := p.next
  let (n, f) := wholeOf who true t
  (n, p.note who t f)

end Printed

def requoted (t : Text) : Text :=
  if t.isEmpty then ['\'', '\'']
  else t.flatMap fun c =>
    if c.isAlphanum || "_-./:@%+,=".toList.contains c then [c] else ['\\', c]

def printDirective (who : Printer) (d : Directive) (p : Printed) : Printed :=
  let (value, p) := p.next
  let cut (t : Text) : Text := match d.places with
    | some n => t.take n
    | none => t
  match d.letter with
  | 's' => p.add (d.fill false [] (cut value))
  | 'b' =>
    let (t, stop, fault) := unescaped who value
    let p := p.add (d.fill false [] (cut t))
    let p := if fault then p.complain ["missing hexadecimal number in escape".toList] else p
    { p with stopped := stop }
  | 'c' =>
    let shown := if value.isEmpty && who != .tool then ['\x00'] else value.take 1
    p.add (d.fill false [] (if value.isEmpty && who == .tool then ['\x00'] else shown))
  | 'q' => p.add (d.fill false [] (if who == .tool then Tool.named value else requoted value))
  | letter =>
    if "diouxX".toList.contains letter then
      let (n, f) := wholeOf who (letter == 'd' || letter == 'i') value
      (p.note who value f).add (d.whole n)
    else
      let (f, negative, fault) := fractionOf who value
      (p.note who value fault).add
        (d.fill (d.has '0') (d.signOf negative) (f.shown letter d.places (d.has '#')))

def letters (who : Printer) : Text :=
  if who == .shell then "bcdiouxXeEfFgGs".toList else "bcdiouxXeEfFgGqs".toList

def count (who : Printer) (t : Text) (p : Printed) : Option Int × Text × Printed :=
  match t with
  | '*' :: rest =>
    let (n, p) := p.nextCount who
    (some n, rest, p)
  | t =>
    let ds := t.takeWhile Char.isDigit
    (if ds.isEmpty then none else some (Digits.valueIn 10 ds), t.drop ds.length, p)

def directive (who : Printer) (t : Text) (p : Printed) : Text × Printed :=
  let flags := t.takeWhile fun c => "#-+ 0".toList.contains c
  let (width, rest, p) := count who (t.drop flags.length) p
  let (places, rest, p) := match rest with
    | '.' :: rest =>
      let (n, rest, p) := count who rest p
      (some (n.getD 0), rest, p)
    | rest => (none, rest, p)
  let rest := if who == .shell then rest
    else rest.dropWhile fun c => "hlLjzt".toList.contains c
  match rest with
  | [] =>
    let message := match who with
      | .shell => ["missing format character".toList]
      | .extended => [['\x60'], t, "': missing format character".toList]
      | .tool => [['%'], t, ": invalid conversion specification".toList]
    ([], { p.complain message with stopped := true })
  | c :: rest =>
    if (letters who).contains c then
      let (flags, width) := match width with
        | some n => if n < 0 then ('-' :: flags, some n.natAbs) else (flags, some n.toNat)
        | none => (flags, none)
      let places := places.bind fun n => if n < 0 then none else some n.toNat
      (rest, printDirective who ⟨flags, width, places, c⟩ p)
    else
      let shown := '%' :: t.take (t.length - rest.length)
      let message := match who with
        | .shell => [shown, ": invalid directive".toList]
        | .extended => [['\x60'], [c], "': invalid format character".toList]
        | .tool => [shown, ": invalid conversion specification".toList]
      ([], { p.complain message with stopped := true })

def pass (who : Printer) : Nat → Text → Printed → Printed
  | 0, _, p => p
  | _, [], p => p
  | fuel + 1, '%' :: '%' :: rest, p => pass who fuel rest (p.add ['%'])
  | fuel + 1, '%' :: rest, p =>
    let (rest, p) := directive who rest p
    if p.stopped then p else pass who fuel rest p
  | fuel + 1, '\\' :: rest, p =>
    match escape who false rest with
    | .text t rest => pass who fuel rest (p.add t)
    | .stop => { p with stopped := true }
    | .missingNumber =>
      { p.complain ["missing hexadecimal number in escape".toList] with stopped := true }
  | fuel + 1, c :: rest, p => pass who fuel rest (p.add [c])

/-- A format, used again as long as it takes arguments and some are left. -/
def passes (who : Printer) (format : Text) : Nat → Printed → Printed
  | 0, p => p
  | fuel + 1, p =>
    let before := p.left.length
    let p := pass who (format.length + 1) format p
    if p.stopped || p.left.isEmpty || p.left.length = before then p
    else passes who format fuel p

def run (who : Printer) (format : Text) (args : List Text) : Printed :=
  passes who format (args.length + 1) { left := args }

/-! ### Echo -/

def echo (args : List Text) : Text :=
  let (ends, args) := match args with
    | ['-', 'n'] :: args => (false, args)
    | args => (true, args)
  let (t, stop, _) := unescaped .shell (Text.joinWith [' '] args)
  if stop || !ends then t else t ++ ['\n']

/-- The escapes of arguments that are printed by others: those with an octal number begin with a
zero. -/
def echoEscape (who : Printer) (t : Text) : Escape :=
  match t with
  | [] => .text ['\\'] []
  | c :: rest =>
    if c == '"' then .text ['\\', c] rest
    else if c == 'u' || c == 'U' then
      if who == .extended && !(hexDigits 1 rest).isEmpty then escape who true (c :: rest)
      else .text ['\\', c] rest
    else if c == 'x' && (hexDigits 2 rest).isEmpty then .text ['\\', 'x'] rest
    else escape .tool true (c :: rest)

def echoUnescape (who : Printer) : Nat → Text → Text → Text × Bool
  | 0, read, _ => (read.reverse, false)
  | _, read, [] => (read.reverse, false)
  | fuel + 1, read, '\\' :: rest =>
    match echoEscape who rest with
    | .text t rest => echoUnescape who fuel (t.reverse ++ read) rest
    | _ => (read.reverse, true)
  | fuel + 1, read, c :: rest => echoUnescape who fuel (c :: read) rest

def echoFlags : List Text → Bool → Bool → Bool × Bool × List Text
  | ('-' :: c :: more) :: rest, ends, reads =>
    if (c :: more).all fun c => c == 'n' || c == 'e' || c == 'E' then
      let (ends, reads) := (c :: more).foldl (fun (ends, reads) c =>
        if c == 'n' then (false, reads) else (ends, c == 'e')) (ends, reads)
      echoFlags rest ends reads
    else (ends, reads, ('-' :: c :: more) :: rest)
  | args, ends, reads => (ends, reads, args)

def echoWithFlags (who : Printer) (args : List Text) : Text :=
  let (ends, reads, args) := echoFlags args true false
  let t := Text.joinWith [' '] args
  let (t, stop) := if reads then echoUnescape who (t.length + 1) [] t else (t, false)
  if stop || !ends then t else t ++ ['\n']

end Manuscript.Shell.Format
