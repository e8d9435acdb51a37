import Manuscript.Expression.Basic

/-!
The room that an expression takes as an automaton over bytes.

The automaton reads a text in UTF-8, either forward or backward. Each of its
states takes 32 bytes, a state that tells ranges of bytes apart eight more for
each range, and a fork four more for each way. Forward, the states for the
characters of a class are shared wherever the bytes that remain are the same;
backward, wherever the bytes before are the same. A choice between words is a
tree of their bytes. Expressions whose automaton takes more than ten mebibytes
in one direction are refused.
-/

namespace Manuscript.Expression

namespace Room

def state : Nat := 32

def range : Nat := 8

def way : Nat := 4

def limit : Nat := 10485760

/-- A closed range of bytes for each byte of a character. -/
abbrev ByteRanges := List (Nat × Nat)

def bytes (n : Nat) : List Nat :=
  if n < 0x80 then [n]
  else if n < 0x800 then [0xc0 + n / 64, 0x80 + n % 64]
  else if n < 0x10000 then [0xe0 + n / 4096, 0x80 + n / 64 % 64, 0x80 + n % 64]
  else [0xf0 + n / 262144, 0x80 + n / 4096 % 64, 0x80 + n / 64 % 64, 0x80 + n % 64]

/-- Where a range of code points has to be cut so that the bytes of its characters are those
between the bytes of its ends: the last code point of the first part. -/
def cut? (first last : Nat) : Option Nat :=
  let within (n : Nat) := first ≤ n && n < last
  let partCut (m : Nat) :=
    if first / m = last / m then none
    else if first % m ≠ 0 then some (first - first % m + m - 1)
    else if last % m ≠ m - 1 then some (last - last % m - 1)
    else none
  ([0x7f, 0x7ff, 0xffff].find? within).or
    (if last < 0x80 then none else [64, 4096, 262144].findSome? partCut)

def byteRanges : Nat → Nat → Nat → List ByteRanges
  | 0, _, _ => []
  | fuel + 1, first, last =>
    if last < first then []
    else if first < 0xe000 && 0xd7ff < last then
      byteRanges fuel first 0xd7ff ++ byteRanges fuel 0xe000 last
    else match cut? first last with
      | some n => byteRanges fuel first n ++ byteRanges fuel (n + 1) last
      | none => [(bytes first).zip (bytes last)]

def sequences (rs : Text.Ranges) : List ByteRanges :=
  rs.flatMap fun r => byteRanges 64 r.1 r.2

/-! ### Classes -/

/-- A state as its ranges, each with the number of the state behind it; 0 is the end. -/
abbrev Branches := List ((Nat × Nat) × Nat)

def byFirst (ss : List ByteRanges) : List ((Nat × Nat) × List ByteRanges) :=
  ss.foldr
    (fun s groups => match s with
      | [] => groups
      | r :: rest =>
        match groups with
        | (q, rests) :: more =>
          if q = r then (q, rest :: rests) :: more else (r, [rest]) :: groups
        | [] => [(r, [rest])])
    []

/-- The number of the state that reads any of the sequences, and all states known then. -/
def stateFor : Nat → List ByteRanges → List Branches → Nat × List Branches
  | 0, _, known => (0, known)
  | depth + 1, ss, known =>
    match byFirst ss with
    | [] => (0, known)
    | groups =>
      let (branches, known) := groups.foldl
        (fun (branches, known) (r, rests) =>
          let (n, known) := stateFor depth rests known
          (branches ++ [(r, n)], known))
        ([], known)
      match known.idxOf? branches with
      | some n => (n + 1, known)
      | none => (known.length + 1, known ++ [branches])

def classForward (rs : Text.Ranges) : Nat :=
  let states := (stateFor 5 (sequences rs) []).2
  states.foldl (fun n branches => n + state + range * branches.length) state

def unshared : List ByteRanges → ByteRanges → Nat
  | [], _ => 0
  | s :: ss, before =>
    let common := ((s.zip before).takeWhile fun (q, r) => q == r).length
    s.length - common + unshared ss s

def classBackward (rs : Text.Ranges) : Nat :=
  let ss := sequences rs
  2 * state + way * ss.length + state * unshared ss []

def isAscii (rs : Text.Ranges) : Bool :=
  rs.all fun r => r.2 < 0x80

/-! ### Choices between words -/

/-- Words up to each that is empty. -/
def segments (ws : List (List Nat)) : List (List (List Nat)) :=
  ws.foldr
    (fun w rest => match w, rest with
      | [], rest => [] :: rest
      | w, s :: rest => (w :: s) :: rest
      | w, [] => [[w]])
    [[]]

/-- The room of the tree of the words from a state on, which is not their end. -/
def tree : Nat → List (List Nat) → Nat
  | 0, _ => 0
  | fuel + 1, ws =>
    let parts := segments ws
    let full := parts.filter (!·.isEmpty)
    full.foldl
      (fun n words =>
        let firsts := (words.filterMap List.head?).eraseDups
        firsts.foldl
          (fun n b =>
            let rests := words.filterMap fun
              | c :: rest => if c = b then some rest else none
              | [] => none
            if rests.all List.isEmpty then n else n + tree fuel rests)
          (n + state + if firsts.length = 1 then 0 else range * firsts.length))
      (state + way * (full.length + parts.length - 1))

def ofWords (ws : List (List Nat)) : Nat :=
  state + tree (ws.foldl (fun n w => max n w.length) 0 + 1) ws

end Room

/-- The room of an expression in both directions, and what is needed to join it to others: the
number of its alternatives, the room of these, and the words it chooses between, if it does. -/
structure Room where
  forward : Nat
  backward : Nat
  ways : Nat
  waysForward : Nat
  waysBackward : Nat
  words : Option (List (List Nat))
  deriving Repr

namespace Room

def plain (forward backward : Nat) : Room :=
  ⟨forward, backward, 1, forward, backward, none⟩

def same (n : Nat) : Room :=
  plain n n

def word (bytes : List Nat) : Room :=
  { same (state * bytes.length) with words := some [bytes] }

def seq (a b : Room) : Room :=
  { plain (a.forward + b.forward) (a.backward + b.backward) with
    words := match a.words, b.words with
      | some [v], some [w] => some [v ++ w]
      | _, _ => none }

def alt (a b : Room) : Room :=
  let ways := a.ways + b.ways
  let forward := a.waysForward + b.waysForward
  let backward := a.waysBackward + b.waysBackward
  let ends := 2 * state + way * ways
  match a.words, b.words with
  | some v, some w =>
    ⟨ofWords (v ++ w), ofWords ((v ++ w).map List.reverse), ways, forward, backward, some (v ++ w)⟩
  | _, _ => ⟨ends + forward, ends + backward, ways, forward, backward, none⟩

def copies (n : Nat) (r : Room) (fixed : Nat) : Room :=
  plain (n * r.forward + fixed) (n * r.backward + fixed)

def fork : Nat :=
  state + 2 * way

def repeated (least : Nat) (most : Option Nat) (canBeEmpty : Bool) (r : Room) : Room :=
  match most with
  | some most =>
    if least = most then copies least r 0
    else if least = 0 && most = 1 then copies 1 r (state + fork)
    else copies most r ((if least = 0 then 2 else 1) * state + (most - least) * fork)
  | none =>
    if least = 0 then copies 1 r (if canBeEmpty then state + 2 * fork else fork)
    else copies least r fork

end Room

def room : Expression → Room
  | empty => .same Room.state
  | char c => .word (Room.bytes c.toNat)
  | oneOf k =>
    let rs := k.codes
    if Room.isAscii rs then .same (2 * Room.state + Room.range * rs.length)
    else .plain (Room.classForward rs) (Room.classBackward rs)
  | check _ => .same Room.state
  | seq e f => e.room.seq f.room
  | alt e f => e.room.alt f.room
  | group _ e => .plain (e.room.forward + 2 * Room.state) e.room.backward
  | repeated least most _ e => .repeated least most e.canBeEmpty e.room

/-- What every automaton needs beside its expression: a loop that skips what comes before a match,
the end, and forward the group of the whole match. -/
def fits (e : Expression) : Bool :=
  let loop := 3 * Room.state + Room.range + 2 * Room.way
  e.room.forward + loop + 3 * Room.state ≤ Room.limit
    && e.room.backward + loop + Room.state ≤ Room.limit

end Manuscript.Expression
