import Manuscript.Shell.Tool.Collation
import Manuscript.Shell.Tool.Lines

/-!
Putting lines in order, by the whole of them or by keys in them.
-/

namespace Manuscript.Shell.Tool.Sort

/-! ### Orders -/

/-- What a key is taken for. -/
inductive Sense
  | text
  | number
  | generalNumber
  | scaled
  | month
  | version
  | random
  deriving DecidableEq, Repr

structure KeyOrder where
  senses : List Sense := []
  reversed : Bool := false
  folds : Bool := false
  wordsOnly : Bool := false
  printableOnly : Bool := false
  /-- Blanks at the beginning of the key, and at that of the field where it ends, do not count. -/
  skipsBlanks : Bool := false
  skipsEndBlanks : Bool := false

def KeyOrder.add? (atStart atEnd : Bool) (o : KeyOrder) (c : Char) : Option KeyOrder :=
  match c with
  | 'b' => some { o with
      skipsBlanks := o.skipsBlanks || atStart, skipsEndBlanks := o.skipsEndBlanks || atEnd }
  | 'd' => some { o with wordsOnly := true }
  | 'f' => some { o with folds := true }
  | 'g' => some { o with senses := .generalNumber :: o.senses }
  | 'h' => some { o with senses := .scaled :: o.senses }
  | 'i' => some { o with printableOnly := true }
  | 'M' => some { o with senses := .month :: o.senses }
  | 'n' => some { o with senses := .number :: o.senses }
  | 'r' => some { o with reversed := true }
  | 'R' => some { o with senses := .random :: o.senses }
  | 'V' => some { o with senses := .version :: o.senses }
  | _ => none

def KeyOrder.read (atStart atEnd : Bool) (o : KeyOrder) : Text → KeyOrder × Text
  | [] => (o, [])
  | c :: rest =>
    match o.add? atStart atEnd c with
    | some o => o.read atStart atEnd rest
    | none => (o, c :: rest)

def KeyOrder.isPlain (o : KeyOrder) : Bool :=
  o.senses.isEmpty && !o.reversed && !o.folds && !o.wordsOnly && !o.printableOnly &&
    !o.skipsBlanks && !o.skipsEndBlanks

/-- The letters of an order, if no two of them go together. -/
def KeyOrder.clash? (o : KeyOrder) : Option Text :=
  let has (s : Sense) : Bool := o.senses.contains s
  let others := [has .number, has .generalNumber, has .scaled, has .month,
    has .version || has .random || o.wordsOnly || o.printableOnly].filter (· == true)
  if others.length ≤ 1 then none
  else
    let letters := [('d', o.wordsOnly), ('f', o.folds), ('g', has .generalNumber),
      ('h', has .scaled),
      ('i', o.printableOnly && !o.wordsOnly), ('M', has .month), ('n', has .number),
      ('R', has .random), ('V', has .version)]
    some ((letters.filter (·.2)).map (·.1))

def KeyOrder.sense (o : KeyOrder) : Sense :=
  let has (s : Sense) : Bool := o.senses.contains s
  if has .number then .number
  else if has .generalNumber then .generalNumber
  else if has .scaled then .scaled
  else if has .month then .month
  else if has .version then .version
  else .text

def KeyOrder.essence (o : KeyOrder) (t : Text) : Text :=
  let t := if o.wordsOnly then t.filter fun c => isBlank c || c.isAlphanum
    else if o.printableOnly then t.filter fun c => 32 ≤ c.toNat && c.toNat < 127
    else t
  if o.folds then t.map Char.toUpper else t

def KeyOrder.compare (o : KeyOrder) (a b : Text) : Ordering :=
  let result := match o.sense with
    | .number => compareNumbers (leadingNumber a) (leadingNumber b)
    | .generalNumber => compareGeneral a b
    | .scaled => compareScaled a b
    | .month => Ord.compare (monthOf a) (monthOf b)
    | .version => compareVersions (o.essence a) (o.essence b)
    | _ => compareTexts (o.essence a) (o.essence b)
  if o.reversed then result.swap else result

/-! ### Keys -/

/-- A key: behind so many fields and characters, up to behind others if it ends in the line. -/
structure Key where
  field : Nat
  character : Nat
  ending : Option (Nat × Nat)
  order : KeyOrder

def badKey (why : String) (spec : Text) : List Text :=
  [why.toList, ": invalid field specification ".toList, curly spec]

def countIn (place : String) (t : Text) : Except (List Text) (Nat × Text) :=
  let ds := t.takeWhile Char.isDigit
  match digits? ds with
  | some n => .ok (n, t.drop ds.length)
  | none =>
    .error ["invalid number ".toList, place.toList, ": invalid count at start of ".toList, curly t]

def keyOf (t : Text) : Except (List Text) Key := do
  let (field, rest) ← countIn "at field start" t
  if field = 0 then .error (badKey "field number is zero" t)
  let (character, rest) ← match rest with
    | '.' :: rest => (do
      let (n, rest) ← countIn "after '.'" rest
      if n = 0 then .error (badKey "character offset is zero" t)
      .ok (n - 1, rest))
    | rest => .ok (0, rest)
  let (order, rest) := KeyOrder.read true false {} rest
  match rest with
  | [] => .ok ⟨field - 1, character, none, order⟩
  | ',' :: rest =>
    let (field', rest) ← countIn "after ','" rest
    if field' = 0 then .error (badKey "field number is zero" t)
    let (character', rest) ← match rest with
      | '.' :: rest => countIn "after '.'" rest
      | rest => .ok (0, rest)
    let (order, rest) := order.read false true rest
    if rest.isEmpty then .ok ⟨field - 1, character, some (field' - 1, character'), order⟩
    else .error (badKey "stray character in field spec" t)
  | _ => .error (badKey "stray character in field spec" t)

def Key.inheriting (whole : KeyOrder) (k : Key) : Key :=
  if k.order.isPlain then { k with order := whole } else k

/-- How many characters the first fields of a text have, with the separators behind them. Without a
separator, each field begins with the blanks before it. -/
def fieldsLength (separator : Option Char) : Nat → Text → Nat
  | 0, _ => 0
  | n + 1, t =>
    match separator with
    | some c =>
      let word := t.takeWhile (· != c)
      let size := min t.length (word.length + 1)
      size + fieldsLength separator n (t.drop size)
    | none =>
      let blanks := t.takeWhile isBlank
      let word := (t.drop blanks.length).takeWhile (!isBlank ·)
      let size := blanks.length + word.length
      size + fieldsLength separator n (t.drop size)

def Key.start (k : Key) (separator : Option Char) (l : Text) : Nat :=
  let n := fieldsLength separator k.field l
  let blanks := if k.order.skipsBlanks then ((l.drop n).takeWhile isBlank).length else 0
  min l.length (n + blanks + k.character)

def Key.stop (k : Key) (separator : Option Char) (l : Text) : Nat :=
  match k.ending with
  | none => l.length
  | some (field, 0) =>
    let n := fieldsLength separator field l
    match separator with
    | some c => n + ((l.drop n).takeWhile (· != c)).length
    | none => fieldsLength none (field + 1) l
  | some (field, character) =>
    let n := fieldsLength separator field l
    let blanks := if k.order.skipsEndBlanks then ((l.drop n).takeWhile isBlank).length else 0
    min l.length (n + blanks + character)

def Key.part (k : Key) (separator : Option Char) (l : Text) : Text :=
  let start := k.start separator l
  (l.drop start).take (k.stop separator l - start)

/-! ### Lines -/

structure LineOrder where
  separator : Option Char
  keys : List Key
  whole : KeyOrder
  stops : Bool

def LineOrder.compareKeys (o : LineOrder) (a b : Text) : Ordering :=
  o.keys.foldl (fun r k =>
    match r with
    | .eq => k.order.compare (k.part o.separator a) (k.part o.separator b)
    | r => r) .eq

def LineOrder.compare (o : LineOrder) (a b : Text) : Ordering :=
  match o.compareKeys a b with
  | .eq =>
    if o.stops then .eq
    else
      let r := compareTexts a b
      if o.whole.reversed then r.swap else r
  | r => r

/-- Neighbours that are alike become one. -/
def withoutRepeats (alike : Text → Text → Bool) : List Text → List Text
  | [] => []
  | l :: ls =>
    l :: (ls.foldl (fun (kept, last) x =>
      if alike last x then (kept, last) else (x :: kept, x)) (([], l) : List Text × Text)).1.reverse

def disorder? (bad : Text → Text → Bool) : Nat → List Text → Option (Nat × Text)
  | n, a :: b :: rest => if bad a b then some (n + 1, b) else disorder? bad (n + 1) (b :: rest)
  | _, _ => none

/-! ### The tool -/

def separatorOf (t : Text) : Except (List Text) Text :=
  match if t == ['\\', '0'] then ['\x00'] else t with
  | [] => .error ["empty tab".toList]
  | [c] => .ok [c]
  | t => .error ["multi-character tab ".toList, curly t]

def orderNames : List (String × Char) :=
  [("general-numeric", 'g'), ("human-numeric", 'h'), ("month", 'M'), ("numeric", 'n'),
    ("random", 'R'), ("version", 'V')]

def nameOf? (names : List (String × Char)) (t : Text) : Option Char :=
  (names.find? fun n => t.isPrefixOf n.1.toList).map (·.2)

def table : OptionTable where
  letters := "bcCdfghik:mMno:rRsS:t:T:uVy:z"
  words := [("reverse", .nothing, 'r'), ("unique", .nothing, 'u'), ("numeric-sort", .nothing, 'n'),
    ("key", .value, 'k'), ("field-separator", .value, 't'), ("output", .value, 'o'),
    ("check", .maybe, 'c'), ("ignore-case", .nothing, 'f'), ("stable", .nothing, 's'),
    ("ignore-leading-blanks", .nothing, 'b'), ("merge", .nothing, 'm'),
    ("version-sort", .nothing, 'V'), ("human-numeric-sort", .nothing, 'h'),
    ("general-numeric-sort", .nothing, 'g'), ("month-sort", .nothing, 'M'),
    ("dictionary-order", .nothing, 'd'), ("ignore-nonprinting", .nothing, 'i'),
    ("random-sort", .nothing, 'R'), ("zero-terminated", .nothing, 'z'), ("sort", .value, '='),
    ("parallel", .value, '|'), ("buffer-size", .value, 'S'), ("temporary-directory", .value, 'T'),
    ("batch-size", .value, '#'), ("debug", .nothing, '?')]
  status := 2

def check (o : GivenOption) (s : State) : Except State State :=
  let refuse (message : List Text) : Except State State :=
    .error ((failWith message s).setStatus 2)
  match o with
  | ('t', some t) => match separatorOf t with
    | .ok _ => .ok s
    | .error message => refuse message
  | ('k', some t) => match keyOf t with
    | .ok _ => .ok s
    | .error message => refuse message
  | _ => .ok s

/-- The options with every order by its letter, and the silent check by its own. -/
def spelled (os : List GivenOption) : List GivenOption :=
  os.map fun o => match o with
    | ('=', some t) => ((nameOf? orderNames t).getD '=', none)
    | ('c', some t) =>
      (if (nameOf? [("quiet", 'C'), ("silent", 'C')] t).isSome then 'C' else 'c', none)
    | o => o

def linesOfFiles (ending : Char) : List Text → State → Except State (List (List Text) × State)
  | [], s => .ok ([], s)
  | name :: names, s =>
    match contentsOf name s with
    | .error f => .error ((failBy ["read failed: ".toList, named name] f s).setStatus 2)
    | .ok (t, s) =>
      let parts := partsAt ending t
      let lines := if parts.getLast? == some [] then parts.dropLast else parts
      (linesOfFiles ending names s).map fun (rest, s) => (lines :: rest, s)

/-- The order that options ask for, or what is wrong with it. -/
def orderOf (os : List GivenOption) : Except (List Text) LineOrder := do
  let whole := os.foldl (fun o (c, _) => (o.add? true true c).getD o) ({} : KeyOrder)
  let keys ← (os.filter (·.1 == 'k')).mapM fun o => keyOf (o.2.getD [])
  let keys := keys.map (Key.inheriting whole)
  let keys := if keys.isEmpty then [⟨0, 0, none, whole⟩] else keys
  match keys.findSome? fun k => k.order.clash? with
  | some letters => .error ["options '-".toList, letters, "' are incompatible".toList]
  | none =>
    let separator := (lastValue? os 't').bind fun t => (separatorOf t).toOption
    .ok ⟨separator.bind List.head?, keys, whole, isGiven os 's' || isGiven os 'u'⟩

def checkOrder (os : List GivenOption) (o : LineOrder) (name : Text) (ls : List Text) (s : State) :
    State :=
  let bad (a b : Text) : Bool :=
    o.compare a b == .gt || (isGiven os 'u' && o.compareKeys a b == .eq)
  match disorder? bad 1 ls with
  | some (n, l) =>
    if isGiven os 'C' then s.fail
    else failWith [name, [':'], Text.ofNat n, ": disorder: ".toList, l] s
  | none => s

def run (os : List GivenOption) (names : List Text) (s : State) : State :=
  let os := spelled os
  let refuse (message : List Text) : State := (failWith message s).setStatus 2
  let checks := isGiven os 'c' || isGiven os 'C'
  match orderOf os with
  | .error message => refuse message
  | .ok o =>
    if isGiven os 'c' && isGiven os 'C' then refuse ["options '-cC' are incompatible".toList]
    else if checks && isGiven os 'o' then
      refuse ["options '-".toList, [if isGiven os 'c' then 'c' else 'C'],
        "o' are incompatible".toList]
    else match if checks then names.drop 1 else [] with
    | extra :: _ => refuse ["extra operand ".toList, quoted extra, " not allowed with -".toList,
        [if isGiven os 'c' then 'c' else 'C']]
    | [] =>
      match names.find? fun n => n != ['-'] && (System.kindOf? s true n).isNone with
      | some n => (failBy ["cannot read: ".toList, named n] (.os .notFound) s).setStatus 2
      | none =>
        let ending := if isGiven os 'z' then '\x00' else '\n'
        match linesOfFiles ending (orInput names) s.succeed with
        | .error s => s
        | .ok (files, s) =>
          if checks then checkOrder os o ((orInput names).headD []) files.flatten s
          else
            let before (a b : Text) : Bool := o.compare a b != .gt
            let sorted := if isGiven os 'm' then files.foldl (fun ls f => ls.merge f before) []
              else files.flatten.mergeSort before
            let sorted := if isGiven os 'u' then
                withoutRepeats (fun a b => o.compareKeys a b == .eq) sorted
              else sorted
            let text := sorted.flatMap (· ++ [ending])
            match lastValue? os 'o' with
            | none => s.out text
            | some name =>
              match s.openNamed .write name with
              | .ok (h, s) => s.emit h text
              | .error f => (failBy ["open failed: ".toList, named name] f s).setStatus 2

def sort : List Text → State → State :=
  withCheckedOptions table check run

end Manuscript.Shell.Tool.Sort
