import Manuscript.Disk.Operation
import Manuscript.Shell.Octets
import Manuscript.Shell.Script

/-!
Patterns with wildcards, which stand for texts and for the names of files.

Each character of a pattern remembers whether it was quoted; only unquoted ones
have a meaning of their own.
-/

namespace Manuscript.Shell

abbrev Marked := List (Char × Bool)

def mark (quoted : Bool) (t : Text) : Marked :=
  t.map (·, quoted)

def unmark (m : Marked) : Text :=
  m.map (·.1)

namespace Wildcard

/-- What has a meaning in patterns besides the usual: a caret that negates a set, groups of patterns
in parentheses, stars that cover names that begin with a dot. -/
structure Style where
  caret : Bool := false
  groups : Bool := false
  dots : Bool := false
  deriving DecidableEq, Repr

/-! ### Sets in brackets -/

def classOf? (name : String) (c : Char) : Option Bool :=
  let graphic := 32 < c.toNat && c.toNat < 127
  match name with
  | "alpha" => some c.isAlpha
  | "digit" => some c.isDigit
  | "alnum" => some c.isAlphanum
  | "upper" => some c.isUpper
  | "lower" => some c.isLower
  | "space" => some (c == ' ' || (9 ≤ c.toNat && c.toNat ≤ 13))
  | "blank" => some (c == ' ' || c == '\t')
  | "punct" => some (graphic && !c.isAlphanum)
  | "print" => some (graphic || c == ' ')
  | "graph" => some graphic
  | "cntrl" => some (c.toNat < 32 || c.toNat == 127)
  | "xdigit" =>
    some (c.isDigit || ('a' ≤ c && c ≤ 'f') || ('A' ≤ c && c ≤ 'F'))
  | _ => none

/-- The class that a set goes on with behind an opening bracket: whether a character is of it, and
what follows it. -/
def class? (c : Char) (p : Marked) : Option (Bool × Marked) :=
  match p with
  | (':', false) :: rest =>
    let name := rest.takeWhile fun e => e.1.isLower
    match rest.drop name.length with
    | (':', false) :: (']', false) :: after =>
      (classOf? (String.ofList (unmark name)) c).map (·, after)
    | _ => none
  | _ => none

def plain (c : Char × Bool) (p : Marked) : Char × Marked :=
  match c, p with
  | ('\\', false), (d, _) :: p => (d, p)
  | (c, _), p => (c, p)

/-- Whether a set holds a character, with what follows the set if it is closed. The first of its
characters does not close it. -/
def inSet (c : Char) : Nat → Bool → Marked → Option (Bool × Marked)
  | 0, _, _ => none
  | _, _, [] => none
  | fuel + 1, found, e :: p =>
    let (hit, p) := match if e = ('[', false) then class? c p else none with
      | some found => found
      | none =>
        let (low, p) := plain e p
        match p with
        | ('-', false) :: h :: p' =>
          if h = (']', false) then (c == low, p)
          else
            let (high, p) := plain h p'
            (low ≤ c && c ≤ high, p)
        | p => (c == low, p)
    match p with
    | (']', false) :: p => some (found || hit, p)
    | p => inSet c fuel (found || hit) p

def takes? (caret : Bool) (c : Char) (p : Marked) : Option (Bool × Marked) :=
  let (negated, p) := match p with
    | ('!', false) :: rest => (true, rest)
    | ('^', false) :: rest => if caret then (true, rest) else (false, p)
    | _ => (false, p)
  (inSet c (p.length + 1) false p).map fun (found, rest) => (found != negated, rest)

/-! ### Groups -/

/-- The patterns of a group whose parenthesis has been opened, and what follows it; the present
pattern and the ones before it are in reverse. -/
def alternatives? : Nat → Marked → List Marked → Marked → Option (List Marked × Marked)
  | _, _, _, [] => none
  | 0, current, before, (')', false) :: rest => some ((current.reverse :: before).reverse, rest)
  | 0, current, before, ('|', false) :: rest => alternatives? 0 [] (current.reverse :: before) rest
  | depth, current, before, e :: rest =>
    let depth := match e with
      | ('(', false) => depth + 1
      | (')', false) => depth - 1
      | _ => depth
    alternatives? depth (e :: current) before rest

def group? (style : Style) (p : Marked) : Option (Char × List Marked × Marked) :=
  match p with
  | (c, false) :: ('(', false) :: rest =>
    if style.groups && "?*+@!".toList.contains c then
      (alternatives? 0 [] [] rest).map fun (ps, rest) => (c, ps, rest)
    else none
  | _ => none

/-! ### Texts -/

mutual

/-- Whether a pattern covers a text. -/
def covers (style : Style) : Nat → Marked → Text → Bool
  | 0, _, _ => false
  | fuel + 1, p, t =>
    match group? style p with
    | some (sign, ps, rest) => coversGroup style fuel sign ps rest p t
    | none =>
      match p, t with
      | [], t => t.isEmpty
      | ('*', false) :: p, t =>
        covers style fuel p t || match t with
          | _ :: rest => covers style fuel (('*', false) :: p) rest
          | [] => false
      | _ :: _, [] => false
      | ('?', false) :: p, _ :: t => covers style fuel p t
      | ('[', false) :: p, c :: t =>
        match takes? style.caret c p with
        | some (taken, p) => taken && covers style fuel p t
        | none => c == '[' && covers style fuel p t
      | e :: p, c :: t =>
        let (d, p) := plain e p
        d == c && covers style fuel p t

/-- Whether a group with what follows it covers a text; all of it is the whole pattern. -/
def coversGroup (style : Style) :
    Nat → Char → List Marked → Marked → Marked → Text → Bool
  | 0, _, _, _, _, _ => false
  | fuel + 1, sign, ps, rest, whole, t =>
    let one : Bool := ps.any fun p => covers style fuel (p ++ rest) t
    /- The group again behind so many characters at least. -/
    let several (least : Nat) (behind : Marked) : Bool :=
      (List.range (t.length + 1)).any fun n =>
        least ≤ n && ps.any (fun p => covers style fuel p (t.take n)) &&
          covers style fuel behind (t.drop n)
    match sign with
    | '@' => one
    | '?' => covers style fuel rest t || one
    | '*' => covers style fuel rest t || several 1 whole
    | '+' => several 0 (('*', false) :: whole.drop 1)
    | _ =>
      (List.range (t.length + 1)).any fun n =>
        !ps.any (fun p => covers style fuel p (t.take n)) && covers style fuel rest (t.drop n)

end

def simplified : Marked → Marked
  | ('*', false) :: rest =>
    match simplified rest with
    | ('*', false) :: rest => ('*', false) :: rest
    | rest => ('*', false) :: rest
  | e :: rest => e :: simplified rest
  | [] => []

def matchesText (style : Style) (p : Marked) (t : Text) : Bool :=
  covers style (4 * p.length + 2 * t.length + 1)
    (if style.groups then p else simplified p) t

def dropBeginning (style : Style) (longest : Bool) (p : Marked) (t : Text) : Text :=
  let lengths := List.range (t.length + 1)
  match (if longest then lengths.reverse else lengths).find? fun n =>
    matchesText style p (t.take n) with
  | some n => t.drop n
  | none => t

def dropEnding (style : Style) (longest : Bool) (p : Marked) (t : Text) : Text :=
  let lengths := List.range (t.length + 1)
  match (if longest then lengths.reverse else lengths).find? fun n =>
    matchesText style p (t.drop (t.length - n)) with
  | some n => t.take (t.length - n)
  | none => t

/-- A text with the longest stretches that a pattern covers exchanged for what a function makes
of them: the first one, or all of them. -/
def exchanged (style : Style) (p : Marked) (replaced : Text → Text) (all : Bool) :
    Nat → Text → Text
  | 0, t => t
  | _, [] => []
  | fuel + 1, c :: t =>
    let lengths := (List.range (t.length + 2)).reverse
    match lengths.find? fun n => 0 < n && matchesText style p ((c :: t).take n) with
    | some n =>
      let rest := (c :: t).drop n
      replaced ((c :: t).take n) ++ if all then exchanged style p replaced all fuel rest else rest
    | none => c :: exchanged style p replaced all fuel t

/-! ### File names -/

def hasMeaning (style : Style) (m : Marked) : Bool :=
  m.any fun e => !e.2 && (e.1 == '*' || e.1 == '?' || e.1 == '[' || (style.groups && e.1 == '('))

def steps : Marked → List Marked
  | [] => [[]]
  | e :: rest =>
    if e.1 == '/' then [] :: steps rest
    else match steps rest with
      | [] => [[e]]
      | step :: more => (e :: step) :: more

def literalStep : Marked → Text
  | ('\\', false) :: (c, _) :: rest => c :: literalStep rest
  | (c, _) :: rest => c :: literalStep rest
  | [] => []

def exists_ (d : Disk) (name : Text) : Bool :=
  match d.spot (Octets.path name) false with
  | .ok (.taken ..) => true
  | _ => false

def isDirectory (d : Disk) (name : Text) : Bool :=
  d.holdsDirectory (Octets.path name)

/-- The names in a directory that a pattern covers. One that begins with a dot is covered only by a
pattern that does, too. -/
def namesIn (style : Style) (d : Disk) (directory : Text) (p : Marked) : List Text :=
  match d.at? (Octets.path (if directory.isEmpty then ['.'] else directory)) with
  | some (loc, .directory) =>
    let names := (d.children loc).map fun e => Octets.encode e.1
    let all := [['.'], ['.', '.']] ++ names
    let isShown (n : Text) : Bool :=
      n.head? != some '.' || (p.head?.map (·.1)) == some '.' ||
        (style.dots && n != ['.'] && n != ['.', '.'])
    (all.filter fun n => isShown n && matchesText style p n).mergeSort Path.textLe
  | _ => []

/-- The names of files that steps stand for, behind the beginning of a name. -/
def namesFrom (style : Style) (d : Disk) : Text → List Marked → List Text
  | found, [] => [found]
  | found, [step] =>
    if hasMeaning style step then (namesIn style d found step).map (found ++ ·)
    else
      let name := found ++ literalStep step
      if exists_ d name then [name] else []
  | found, step :: more =>
    if hasMeaning style step then
      ((namesIn style d found step).map (found ++ ·)).flatMap fun name =>
        if isDirectory d name then namesFrom style d (name ++ ['/']) more else []
    else namesFrom style d (found ++ literalStep step ++ ['/']) more

def fileNames (style : Style) (d : Disk) (m : Marked) : List Text :=
  namesFrom style d [] (steps m)

end Wildcard

end Manuscript.Shell
