import Manuscript.Shell.Tool.Format
import Manuscript.Shell.Tool.Files

/-!
How two files differ, byte by byte or line by line, and two directories file by
file.
-/

namespace Manuscript.Shell.Tool

def ownHint (status : Nat) (s : State) : State :=
  (complain ["Try '".toList, s.self, " --help' for more information.".toList] s).setStatus status

def orTrouble (trouble : List Text) (s : State) : State :=
  (complain trouble s).setStatus 2

/-! ### Bytes -/

namespace Bytewise

def difference? : Nat → Nat → Text → Text → Option (Nat × Nat × Char × Char)
  | n, line, a :: as, b :: bs =>
    if a == b then difference? (n + 1) (if a == '\n' then line + 1 else line) as bs
    else some (n, line, a, b)
  | _, _, _, _ => none

def differences (n : Nat) : Text → Text → List (Nat × Char × Char)
  | a :: as, b :: bs =>
    if a == b then differences (n + 1) as bs else (n, a, b) :: differences (n + 1) as bs
  | _, _ => []

def visible (c : Char) : Text :=
  let n := c.toNat
  let low (n : Nat) : Text :=
    if n < 32 then ['^', Char.ofNat (n + 64)] else if n = 127 then ['^', '?'] else [Char.ofNat n]
  if n < 128 then low n else 'M' :: '-' :: low (n - 128)

def octalText (c : Char) : Text :=
  let ds := Nat.toDigits 8 c.toNat
  List.replicate (3 - ds.length) ' ' ++ ds

def table : OptionTable where
  letters := "bi:ln:sv"
  words := [("silent", .nothing, 's'), ("quiet", .nothing, 's'), ("verbose", .nothing, 'l'),
    ("print-bytes", .nothing, 'b'), ("ignore-initial", .value, 'i'), ("bytes", .value, 'n')]
  status := 2

def skips? (t : Text) : Option (Nat × Nat) :=
  match Text.splitBy (· == ':') t with
  | [n] => (size? n).map fun n => (n, n)
  | [m, n] => (size? m).bind fun m => (size? n).map fun n => (m, n)
  | _ => none

def check (o : GivenOption) (s : State) : Except State State :=
  let refuse (what : String) (t : Text) : Except State State :=
    .error (ownHint 2 (complain ["invalid --".toList, what.toList, " value ".toList, quoted t] s))
  match o with
  | ('i', some t) => if (skips? t).isSome then .ok s else refuse "ignore-initial" t
  | ('n', some t) => if (size? t).isSome then .ok s else refuse "bytes" t
  | _ => .ok s

def report (os : List GivenOption) (a b x y : Text) (s : State) : State :=
  let shorter := if x.length < y.length then (a, x) else (b, y)
  let ending : List Text :=
    if shorter.2.isEmpty then ["EOF on ".toList, shorter.1, " which is empty".toList]
    else ["EOF on ".toList, shorter.1, " after byte ".toList, Text.ofNat shorter.2.length] ++
      if isGiven os 'l' then []
      else
        [", ".toList, if shorter.2.getLast? == some '\n' then "line ".toList else "in line ".toList,
          Text.ofNat ((linesOf shorter.2).1.length)]
  let bytes (c d : Char) : List Text :=
    if isGiven os 'b' then
      let first := visible c
      let width := if isGiven os 'l' then 4 else 0
      [octalText c, [' '], first ++ List.replicate (width - first.length) ' ', [' '], octalText d,
        [' '], visible d]
    else [octalText c, [' '], octalText d]
  if isGiven os 's' then s.fail
  else if isGiven os 'l' then
    let s := if x.length == y.length then s else complain ending s
    let width := (Text.ofNat (min x.length y.length)).length
    ((differences 1 x y).foldl (fun s (n, c, d) =>
      let number := Text.ofNat n
      s.say ([List.replicate (width - number.length) ' ' ++ number, [' ']] ++ bytes c d)) s).fail
  else match difference? 1 1 x y with
    | some (n, line, c, d) =>
      (s.say ([a, [' '], b, " differ: byte ".toList, Text.ofNat n, ", line ".toList,
        Text.ofNat line] ++
        if isGiven os 'b' then " is ".toList :: bytes c d else [])).fail
    | none => failWith ending s

def run (os : List GivenOption) (names : List Text) (s : State) : State :=
  let a := names.headD []
  let b := (names[1]?).getD ['-']
  let refuse (n : Text) (f : Fault) (s : State) : State :=
    (if isGiven os 's' then s else failBy [n] f s).setStatus 2
  let skips := match (lastValue? os 'i').bind skips? with
    | some n => n
    | none => (((names[2]?).bind size?).getD 0, ((names[3]?).bind size?).getD 0)
  let limited (t : Text) : Text := match (lastValue? os 'n').bind size? with
    | some n => t.take n
    | none => t
  if names.isEmpty then ownHint 2 (complain ["missing operand after '".toList, s.self, ['\'']] s)
  else match names.drop 4 with
    | extra :: _ => ownHint 2 (complain ["extra operand ".toList, quoted extra] s)
    | [] =>
      if isGiven os 'l' && isGiven os 's' then
        ownHint 2 (complain ["options -l and -s are incompatible".toList] s)
      else match contentsOf a s with
        | .error f => refuse a f s
        | .ok (x, s) =>
          match contentsOf b s with
          | .error f => refuse b f s
          | .ok (y, s) =>
            let y := if a == ['-'] && b == ['-'] then x else y
            let x := limited (x.drop skips.1)
            let y := limited (y.drop skips.2)
            if x == y then s.succeed else report os a b x y s

def cmp (args : List Text) (s : State) : State :=
  let (os, ending) := table.read args
  match os.foldlM (fun s o => check o s) s with
  | .error s => s
  | .ok s =>
    match ending with
    | .error e => ownHint 2 (complain e.message s)
    | .ok names => run os names s

end Bytewise

/-! ### Lines -/

namespace Linewise

abbrev Line := Text × Bool

def linesWithEnds (t : Text) : List Line :=
  let (lines, complete) := linesOf t
  if complete || lines.isEmpty then lines.map (·, true)
  else lines.dropLast.map (·, true) ++ (lines.drop (lines.length - 1)).map (·, false)

/-- What of lines counts. -/
structure Eyes where
  folds : Bool
  noBlanks : Bool
  fewBlanks : Bool
  noEndBlanks : Bool

def squeezed : Text → Text
  | a :: b :: rest => if isWhite a && isWhite b then squeezed (' ' :: rest) else
      (if isWhite a then ' ' else a) :: squeezed (b :: rest)
  | [a] => if isWhite a then [] else [a]
  | [] => []
termination_by t => t.length
where
  isWhite (c : Char) : Bool := c == ' ' || (9 ≤ c.toNat && c.toNat ≤ 13)

def Eyes.see (e : Eyes) (l : Line) : Line :=
  let white := squeezed.isWhite
  let t := if e.folds then l.1.map Char.toLower else l.1
  if e.noBlanks then (t.filter (!white ·), true)
  else if e.fewBlanks then (squeezed t, true)
  else if e.noEndBlanks then ((t.reverse.dropWhile white).reverse, true)
  else (t, l.2)

def sharedRow (a : Line) (bs : List Line) (below : List Nat) : List Nat :=
  match bs, below with
  | b :: bs, down :: diagonal :: rest =>
    let right := sharedRow a bs (diagonal :: rest)
    (if a == b then diagonal + 1 else max down (right.headD 0)) :: right
  | _, _ => [0]

def sharedRows (bs : List Line) : List Line → List (List Nat)
  | [] => [List.replicate (bs.length + 1) 0]
  | a :: as =>
    let rows := sharedRows bs as
    sharedRow a bs (rows.headD []) :: rows

/-- A change: so many lines of both come before, so many go and so many come. -/
structure Change where
  before : Nat
  beforeNew : Nat
  gone : Nat
  come : Nat

def changes : Nat → Change → List (List Nat) → List Line → List Line → List Change
  | 0, _, _, _, _ => []
  | fuel + 1, c, rows, as, bs =>
    let done := if c.gone = 0 && c.come = 0 then [] else [c]
    let lost : Change := { c with gone := c.gone + 1 }
    let won : Change := { c with come := c.come + 1 }
    match as, bs with
    | [], [] => done
    | [], _ :: bs => changes fuel won rows [] bs
    | _ :: as, [] => changes fuel lost rows as []
    | a :: as, b :: bs =>
      if a == b then
        done ++ changes fuel ⟨c.before + c.gone + 1, c.beforeNew + c.come + 1, 0, 0⟩
          ((rows.drop 1).map (·.drop 1)) as bs
      else
        let down := ((rows[1]?).getD []).headD 0
        let right := (((rows[0]?).getD []).drop 1).headD 0
        if right ≤ down then changes fuel lost (rows.drop 1) as (b :: bs)
        else changes fuel won (rows.map (·.drop 1)) (a :: as) bs

def changesBetween (e : Eyes) (xs ys : List Line) : List Change :=
  let xs := xs.map e.see
  let ys := ys.map e.see
  changes (xs.length + ys.length + 1) ⟨0, 0, 0, 0⟩ (sharedRows ys xs) xs ys

def marked (mark : Text) (l : Line) : Text :=
  mark ++ l.1 ++ (if l.2 then ['\n'] else "\n\\ No newline at end of file\n".toList)

def spanText (first count : Nat) : Text :=
  if count = 0 then Text.ofNat first
  else if count = 1 then Text.ofNat (first + 1)
  else Text.ofNat (first + 1) ++ ',' :: Text.ofNat (first + count)

def shownChange (xs ys : List Line) (c : Change) : Text :=
  let letter := if c.gone = 0 then 'a' else if c.come = 0 then 'd' else 'c'
  spanText c.before c.gone ++ letter :: spanText c.beforeNew c.come ++ ['\n'] ++
    ((xs.drop c.before).take c.gone).flatMap (marked ['<', ' ']) ++
    (if letter == 'c' then "---\n".toList else []) ++
    ((ys.drop c.beforeNew).take c.come).flatMap (marked ['>', ' '])

/-- Changes in groups that are so near to each other that their surroundings meet. -/
def hunks (context : Nat) : List Change → List (List Change)
  | [] => []
  | c :: cs =>
    match hunks context cs with
    | (d :: ds) :: rest =>
      if d.before - (c.before + c.gone) ≤ 2 * context then (c :: d :: ds) :: rest
      else [c] :: (d :: ds) :: rest
    | rest => [c] :: rest

def unifiedSpan (first count : Nat) : Text :=
  if count = 1 then Text.ofNat (first + 1)
  else Text.ofNat (if count = 0 then first else first + 1) ++ ',' :: Text.ofNat count

/-- A group of changes with what stands around them. -/
def shownHunk (context : Nat) (xs ys : List Line) (cs : List Change) : Text :=
  match cs.head?, cs.getLast? with
  | some c, some d =>
    let lead := min context c.before
    let trail := min context (xs.length - (d.before + d.gone))
    let first := c.before - lead
    let firstNew := c.beforeNew - lead
    let count := d.before + d.gone + trail - first
    let countNew := d.beforeNew + d.come + trail - firstNew
    let body := cs.foldl (fun (done, at_) c =>
      (done ++ ((xs.drop at_).take (c.before - at_)).flatMap (marked [' ']) ++
        ((xs.drop c.before).take c.gone).flatMap (marked ['-']) ++
        ((ys.drop c.beforeNew).take c.come).flatMap (marked ['+']), c.before + c.gone))
      (([], first) : Text × Nat)
    "@@ -".toList ++ unifiedSpan first count ++ " +".toList ++ unifiedSpan firstNew countNew ++
      " @@\n".toList ++ body.1 ++ ((xs.drop body.2).take trail).flatMap (marked [' '])
  | _, _ => []

def styles : Text := "cCenfuUyD".toList

def table : OptionTable where
  letters := "abBcC:dD:eEfF:hHiI:lL:nNpPqrsS:tTuU:vwW:x:X:yZ"
  words := [("brief", .nothing, 'q'), ("report-identical-files", .nothing, 's'),
    ("ignore-case", .nothing, 'i'), ("ignore-all-space", .nothing, 'w'),
    ("ignore-space-change", .nothing, 'b'), ("ignore-trailing-space", .nothing, 'Z'),
    ("ignore-blank-lines", .nothing, 'B'), ("text", .nothing, 'a'), ("recursive", .nothing, 'r'),
    ("new-file", .nothing, 'N'), ("label", .value, 'L'), ("unified", .maybe, 'U'),
    ("normal", .nothing, '='), ("strip-trailing-cr", .nothing, '.'), ("color", .maybe, '~')]
  status := 2

/-- Every option is tested as it is met; the styles among them have to go together. -/
def checkAll : List GivenOption → Option Char → State → Except State State
  | [], _, s => .ok s
  | (c, value) :: os, style, s =>
    let refuse (message : List Text) : Except State State := .error (ownHint 2 (complain message s))
    let family := if c == 'U' then 'u' else if c == 'C' then 'c' else c
    let badLength := (c == 'U' || c == 'C') && value.any fun t => (digits? t).isNone
    if badLength then refuse ["invalid context length ".toList, quoted (value.getD [])]
    else if styles.contains c then
      if style.any (· != family) then refuse ["conflicting output style options".toList]
      else checkAll os (some family) s
    else checkAll os style s

def compareTexts (os : List GivenOption) (title : Text) (a b x y : Text) (s : State) : State :=
  let eyes : Eyes := ⟨isGiven os 'i', isGiven os 'w', isGiven os 'b', isGiven os 'Z'⟩
  let xs := linesWithEnds x
  let ys := linesWithEnds y
  let cs := changesBetween eyes xs ys
  let isBinary (t : Text) : Bool := t.contains '\x00' && !isGiven os 'a'
  if x == y || cs.isEmpty then
    if isGiven os 's' then
      s.say ["Files ".toList, a, " and ".toList, b, " are identical".toList]
    else s
  else if isGiven os 'q' then (s.say ["Files ".toList, a, " and ".toList, b, " differ".toList]).fail
  else if isBinary x || isBinary y then
    (s.say ["Binary files ".toList, a, " and ".toList, b, " differ".toList]).setStatus 2
  else
    let s := s.out title
    if isGiven os 'u' || isGiven os 'U' then
      let context := ((lastValue? os 'U').bind digits?).getD 3
      let labels := os.filterMap fun o => if o.1 == 'L' then o.2 else none
      let label (n : Nat) (name : Text) : Text :=
        (labels[n]?).getD (name ++ "\t1970-01-01 00:00:00.000000000 +0000".toList)
      let s := s.say ["--- ".toList, label 0 a]
      let s := s.say ["+++ ".toList, label 1 b]
      (s.out ((hunks context cs).flatMap (shownHunk context xs ys))).fail
    else (s.out (cs.flatMap (shownChange xs ys))).fail

def worst (status : Nat) (s : State) : State :=
  if s.status < status then s.setStatus status else s

/-- Compares what stands under two names; directories are compared name by name, and those below
them if that is asked for. -/
def compare (os : List GivenOption) (given : Text) : Nat → Bool → Text → Text → State → State
  | 0, _, _, _, s => s
  | fuel + 1, below, a, b, s =>
    let kind (n : Text) : Option System.Kind :=
      if n == ['-'] then some .device else System.kindOf? s true n
    let missing (n : Text) (s : State) : State :=
      orTrouble [n, ": ".toList, Errno.notFound.text.toList] s
    let compareFiles (a b : Text) (s : State) : State :=
      let old := s.status
      let contents (n : Text) (s : State) : Except Fault (Text × State) :=
        if isGiven os 'N' && (kind n).isNone then .ok ([], s) else contentsOf n s
      match contents a s with
      | .error f => orTrouble [a, ": ".toList, causeText f] s
      | .ok (x, s) =>
        match contents b s with
        | .error f => orTrouble [b, ": ".toList, causeText f] s
        | .ok (y, s) =>
          let title := if below then "diff ".toList ++ given ++ a ++ ' ' :: b ++ ['\n'] else []
          worst old (compareTexts os title a b x y s.succeed)
    let absent (other : Option System.Kind) : Option System.Kind :=
      if below && isGiven os 'N' && isGiven os 'r' && other == some .directory then other else none
    let kindA := (kind a).orElse fun () => absent (kind b)
    let kindB := (kind b).orElse fun () => absent (kind a)
    match kindA, kindB with
    | none, none => missing b (missing a s)
    | none, some _ => if isGiven os 'N' then compareFiles a b s else missing a s
    | some _, none => if isGiven os 'N' then compareFiles a b s else missing b s
    | some .directory, some .directory =>
      let isBelow := below && !isGiven os 'r'
      if isBelow then s.say ["Common subdirectories: ".toList, a, " and ".toList, b]
      else
        let names (n : Text) : List Text := match entryAt s true n with
          | .ok (loc, _) => namesIn s loc
          | .error _ => []
        let left := names a
        let right := names b
        let all := (left ++ right.filter fun n => !left.contains n).mergeSort Path.textLe
        all.foldl (fun s n =>
          if (left.contains n && right.contains n) || isGiven os 'N' then
            compare os given fuel true (System.under a n) (System.under b n) s
          else
            worst 1 (s.say ["Only in ".toList, if left.contains n then a else b, ": ".toList, n])) s
    | some x, some y =>
      if below && (x == .directory || y == .directory) then
        let say (k : System.Kind) : Text :=
          if k == .directory then "a directory".toList else "a regular file".toList
        worst 1 (s.say ["File ".toList, a, " is ".toList, say x, " while file ".toList, b,
          " is ".toList, say y])
      else if x == .directory then compareFiles (System.under a (lastName b)) b s
      else if y == .directory then compareFiles a (System.under b (lastName a)) s
      else compareFiles a b s

def diff (args : List Text) (s : State) : State :=
  let (os, ending) := table.read args
  match checkAll os none s with
  | .error s => s
  | .ok s =>
    match ending with
    | .error e => ownHint 2 (complain e.message s)
    | .ok [a, b] =>
      let given := (args.filter fun t => 1 < t.length && t.head? == some '-').flatMap (· ++ [' '])
      compare os given 1000 false a b s.succeed
    | .ok [a] => ownHint 2 (complain ["missing operand after ".toList, quoted a] s)
    | .ok [] => ownHint 2 (complain ["missing operand after '".toList, s.self, ['\'']] s)
    | .ok (_ :: _ :: extra :: _) => ownHint 2 (complain ["extra operand ".toList, quoted extra] s)

end Linewise

end Manuscript.Shell.Tool
