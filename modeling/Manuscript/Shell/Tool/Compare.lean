import Manuscript.Shell.Tool.Collation
import Manuscript.Shell.Tool.Lines

/-!
Tools that compare lines with their neighbours, or with those of another file.
-/

namespace Manuscript.Shell.Tool

/-! ### Repeated lines -/

/-- Lines in groups of neighbours that are alike. -/
def groups (alike : Text → Text → Bool) (ls : List Text) : List (List Text) :=
  (ls.foldr (fun l gs =>
    match gs with
    | (x :: g) :: rest => if alike l x then (l :: x :: g) :: rest else [l] :: gs
    | gs => [l] :: gs) ([] : List (List Text)))

def withoutFields : Nat → Text → Text
  | 0, l => l
  | n + 1, l =>
    let blank (c : Char) : Bool := c == ' ' || c == '\t'
    withoutFields n ((l.dropWhile blank).dropWhile (!blank ·))

def uniq : List Text → State → State :=
  withOptions ⟨"cdDf:is:uw:z", [("count", .nothing, 'c'), ("repeated", .nothing, 'd'),
      ("unique", .nothing, 'u'), ("ignore-case", .nothing, 'i'), ("skip-fields", .value, 'f'),
      ("skip-chars", .value, 's'), ("check-chars", .value, 'w'), ("all-repeated", .maybe, 'D')],
      false, 1⟩ fun os names s =>
    match names.drop 2 with
    | extra :: _ => extraOperand extra 1 s
    | [] =>
      let number (c : Char) : Option Nat := (lastValue? os c).bind digits?
      let part (l : Text) : Text :=
        let l := (withoutFields ((number 'f').getD 0) l).drop ((number 's').getD 0)
        let l := match number 'w' with
          | some n => l.take n
          | none => l
        if isGiven os 'i' then l.map Char.toLower else l
      match contentsOf (names.headD ['-']) s with
      | .error f => failBy [named (names.headD [])] f s
      | .ok (t, s) =>
        let gs := groups (fun a b => part a == part b) (linesOf t).1
        let kept := gs.filter fun g =>
          (!isGiven os 'd' || 1 < g.length) && (!isGiven os 'u' || g.length = 1) &&
            (!isGiven os 'D' || 1 < g.length)
        let shown := if isGiven os 'D' then kept.flatten
          else kept.map fun g =>
            (if isGiven os 'c' then column 7 (Text.ofNat g.length) ++ [' '] else []) ++ g.headD []
        match names[1]? with
        | none => (s.out (unlines shown)).succeed
        | some name =>
          match s.openNamed .write name with
          | .ok (h, s) => (s.emit h (unlines shown)).succeed
          | .error f => failBy [named name] f s

/-! ### Comparing -/

/-- One of two lists of lines that are compared: the lines that are done with, in reverse, and those
that are left. -/
structure Side where
  done : List Text := []
  left : List Text
  told : Bool := false

/-- The list behind its next line, and whether it is to be told that it is not in order. That counts
once a line has been found on one side only. -/
def Side.step (k : Side) (unpaired : Bool) : Side × Bool :=
  match k.left with
  | [] => (k, false)
  | l :: rest =>
    let wrong := match rest, k.done with
      | next :: _, _ => compareTexts l next == .gt
      | [], before :: _ => compareTexts before l == .gt
      | [], [] => false
    let tells := wrong && unpaired && !k.told
    (⟨l :: k.done, rest, k.told || tells⟩, tells)

/-- What comes out of comparing two lists: lines with the columns that tell where they come from,
and the numbers of lists that are not in order. -/
inductive Compared
  | line (column : Nat) (l : Text)
  | disorder (number : Nat)

def compared : Nat → Bool → Side → Side → List Compared
  | 0, _, _, _ => []
  | fuel + 1, unpaired, x, y =>
    let first (l : Text) : List Compared :=
      let (x, tells) := x.step true
      .line 1 l :: (if tells then [.disorder 1] else []) ++ compared fuel true x y
    let second (l : Text) : List Compared :=
      let (y, tells) := y.step true
      .line 2 l :: (if tells then [.disorder 2] else []) ++ compared fuel true x y
    match x.left, y.left with
    | [], [] => []
    | [], l :: _ => second l
    | l :: _, [] => first l
    | a :: _, b :: _ =>
      match compareTexts a b with
      | .lt => first a
      | .gt => second b
      | .eq =>
        let (x, tells) := x.step unpaired
        let (y, alsoTells) := y.step unpaired
        .line 3 a :: (if tells then [.disorder 1] else []) ++
          (if alsoTells then [.disorder 2] else []) ++ compared fuel unpaired x y

def comm : List Text → State → State :=
  withOptions ⟨"123z", [], false, 1⟩ fun os names s =>
    match names with
    | [a, b] =>
      match contentsOf a s with
      | .error f => failBy [named a] f s
      | .ok (x, s) =>
        match contentsOf b s with
        | .error f => failBy [named b] f s
        | .ok (y, s) =>
          let xs := (linesOf x).1
          let ys := (linesOf y).1
          let hidden (n : Nat) : Bool := isGiven os (Char.ofNat (48 + n))
          let tabs (n : Nat) : Text :=
            (List.range n).filterMap fun k =>
              if 0 < k && !hidden k then some '\t' else none
          let found := compared (xs.length + ys.length + 1) false { left := xs } { left := ys }
          let s := found.foldl (fun s e =>
            match e with
            | .line n l => if hidden n then s else s.say [tabs n, l]
            | .disorder n =>
              failWith ["file ".toList, Text.ofNat n, " is not in sorted order".toList] s) s.succeed
          if s.status = 0 then s else failWith ["input is not in sorted order".toList] s
    | [] => missingOperand 1 s
    | [a] => hint 1 (complain ["missing operand after ".toList, curly a] s)
    | _ :: _ :: extra :: _ => extraOperand extra 1 s

end Manuscript.Shell.Tool
