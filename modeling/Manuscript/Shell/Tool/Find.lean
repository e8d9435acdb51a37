import Manuscript.Shell.Tool.Running
import Manuscript.Shell.Wildcard

/-!
The tool that looks for files below directories.

What is asked of a file is an expression; actions are parts of it. The names in
a directory come in their order.
-/

namespace Manuscript.Shell.Tool.Find

/-- What is asked of a file, or done with it. -/
inductive Query
  | always (b : Bool)
  | name (pattern : Text) (folds : Bool)
  | path (pattern : Text) (folds : Bool)
  | kind (letters : Text)
  | empty
  /-- So many units of a number of bytes: more, fewer or just as many. -/
  | size (sign : Option Char) (count unit : Nat)
  | executable
  | print (ending : Char)
  | format (t : Text)
  | delete
  | prune
  | quit
  | exec (words : List Text)
  | execAll (number : Nat) (words : List Text)
  | not (q : Query)
  | and (a b : Query)
  | or (a b : Query)

/-! ### Reading -/

structure Options where
  least : Nat := 0
  most : Option Nat := none
  deepFirst : Bool := false

structure Progress where
  left : List Text
  options : Options := {}
  acts : Bool := false
  batches : Nat := 0
  last : Text := []

abbrev Reading := StateT Progress (Except (List Text))

def next? : Reading (Option Text) := do
  return (← get).left.head?

def skip : Reading Unit :=
  modify fun p => { p with left := p.left.drop 1, last := p.left.headD p.last }

def graved (t : Text) : Text :=
  Char.ofNat 96 :: t ++ ['\'']

def argument (of : Text) : Reading Text := do
  match ← next? with
  | some t =>
    skip
    return t
  | none => throw ["missing argument to ".toList, graved of]

def number (of : Text) : Reading Nat := do
  let t ← argument of
  match digits? t with
  | some n => return n
  | none =>
    throw ["Expected a positive decimal integer argument to ".toList, of, ", but got ".toList,
      curly t]

def acting (q : Query) : Reading Query := do
  modify fun p => { p with acts := true }
  return q

def sizeOf? (t : Text) : Option Query :=
  let (sign, t) := match t with
    | '+' :: rest => (some '+', rest)
    | '-' :: rest => (some '-', rest)
    | rest => (none, rest)
  let ds := t.takeWhile Char.isDigit
  let unit : Option Nat := match t.drop ds.length with
    | [] => some 512
    | ['b'] => some 512
    | ['c'] => some 1
    | ['w'] => some 2
    | ['k'] => some 1024
    | ['M'] => some 1048576
    | ['G'] => some 1073741824
    | _ => none
  match digits? ds, unit with
  | some n, some u => some (.size sign n u)
  | _, _ => none

/-- The words of a command up to its end, and whether it is run for all files at once. -/
def command (of : Text) : Reading Query := do
  let words := (← get).left
  let one := words.takeWhile (· ≠ [';'])
  let all := words.takeWhile (· ≠ ['+'])
  let isAll := all.length < one.length && all.getLast? == some "\x7b\x7d".toList
  let taken := if isAll then all else one
  if taken.length = words.length || taken.isEmpty then
    throw ["missing argument to ".toList, graved of]
  modify fun p =>
    { p with left := p.left.drop (taken.length + 1), batches := p.batches + if isAll then 1 else 0 }
  if isAll then acting (.execAll ((← get).batches - 1) taken.dropLast) else acting (.exec taken)

def primary (t : Text) : Reading Query := do
  match String.ofList t with
  | "-name" => return .name (← argument t) false
  | "-iname" => return .name (← argument t) true
  | "-path" => return .path (← argument t) false
  | "-wholename" => return .path (← argument t) false
  | "-ipath" => return .path (← argument t) true
  | "-type" =>
    let letters ← argument t
    match letters.find? fun c => !",bcdpfls".toList.contains c with
    | some c => throw ["Unknown argument to -type: ".toList, [c]]
    | none => return .kind letters
  | "-empty" => return .empty
  | "-size" =>
    let v ← argument t
    match sizeOf? v with
    | some q => return q
    | none => throw ["Invalid argument ".toList, graved v, " to -size".toList]
  | "-executable" => return .executable
  | "-true" => return .always true
  | "-false" => return .always false
  | "-readable" => return .always true
  | "-writable" => return .always true
  | "-print" => acting (.print '\n')
  | "-print0" => acting (.print '\x00')
  | "-printf" =>
    let v ← argument t
    acting (.format v)
  | "-delete" =>
    modify fun p => { p with options.deepFirst := true }
    acting .delete
  | "-prune" => return .prune
  | "-quit" => acting .quit
  | "-exec" => command t
  | "-execdir" => command t
  | "-maxdepth" =>
    let n ← number t
    modify fun p => { p with options.most := some n }
    return .always true
  | "-mindepth" =>
    let n ← number t
    modify fun p => { p with options.least := n }
    return .always true
  | "-depth" =>
    modify fun p => { p with options.deepFirst := true }
    return .always true
  | "-xdev" => return .always true
  | "-mount" => return .always true
  | "-noleaf" => return .always true
  | "-newer" =>
    let _ ← argument t
    return .always false
  | "-mtime" =>
    let v ← argument t
    return .always (v.head? != some '+')
  | "-mmin" =>
    let v ← argument t
    return .always (v.head? != some '+')
  | "-perm" =>
    let _ ← argument t
    return .always true
  | "-user" =>
    let v ← argument t
    return .always (v == "root".toList)
  | _ =>
    if t.head? == some '-' then throw ["unknown predicate ".toList, graved t]
    else throw ["paths must precede expression: ".toList, graved t]

mutual

def alternatives : Nat → Reading Query
  | 0 => return .always true
  | fuel + 1 => do
    let a ← conjunction fuel
    match ← next? with
    | some t =>
      if t == "-o".toList || t == "-or".toList || t == [','] then
        skip
        if (← next?).isNone then
          throw ["expected an expression after '".toList, t, ['\'']]
        let b ← alternatives fuel
        return if t == [','] then .or (.and a (.always false)) b else .or a b
      else return a
    | none => return a

def conjunction : Nat → Reading Query
  | 0 => return .always true
  | fuel + 1 => do
    let a ← negation fuel
    match ← next? with
    | none => return a
    | some t =>
      if t == "-o".toList || t == "-or".toList || t == [','] || t == [')'] then return a
      else
        if t == "-a".toList || t == "-and".toList then skip
        return .and a (← conjunction fuel)

def negation : Nat → Reading Query
  | 0 => return .always true
  | fuel + 1 => do
    match ← next? with
    | none => throw ["expected an expression after '".toList, (← get).last, ['\'']]
    | some t =>
      if ["-o", "-or", "-a", "-and", ","].any (·.toList == t) then
        throw ["invalid expression; you have used a binary operator '".toList, t,
          "' with nothing before it.".toList]
      skip
      if t == ['!'] || t == "-not".toList then return .not (← negation fuel)
      else if t == ['('] then
        let q ← alternatives fuel
        match ← next? with
        | some [')'] =>
          skip
          return q
        | _ =>
          throw [("invalid expression; I was expecting to find a ')' somewhere but did not see " ++
            "one.").toList]
      else primary t

end

def expression (args : List Text) : Except (List Text) (Query × Progress) := do
  if args.isEmpty then return (.print '\n', { left := [] })
  else
    let (q, p) ← (alternatives (8 * args.length + 8)).run { left := args }
    if p.left.head? == some [')'] then throw ["you have too many ')'".toList]
    return (if p.acts then q else .and q (.print '\n'), p)

/-! ### Looking -/

structure Item where
  name : Text
  loc : Location
  entry : Entry
  depth : Nat

structure Look where
  state : State
  batches : List (Nat × Text) := []
  pruned : Bool := false
  stopped : Bool := false

def fits (pattern t : Text) (folds : Bool) : Bool :=
  let fold (t : Text) : Text := if folds then t.map Char.toLower else t
  Wildcard.matchesText { caret := true } (Manuscript.Shell.mark false (fold pattern)) (fold t)

def Item.letter (i : Item) : Char :=
  match i.entry with
  | .directory => 'd'
  | .link _ => 'l'
  | .device _ => 'c'
  | .file .. => 'f'

def Item.size (i : Item) : Nat :=
  match i.entry with
  | .file bytes _ => bytes.length
  | .directory => 4096
  | .link _ => 10
  | .device _ => 0

def formatted (i : Item) : Text → Text
  | '%' :: 'p' :: rest => i.name ++ formatted i rest
  | '%' :: 'f' :: rest => lastName i.name ++ formatted i rest
  | '%' :: 's' :: rest => Text.ofNat i.size ++ formatted i rest
  | '%' :: 'd' :: rest => Text.ofNat i.depth ++ formatted i rest
  | '%' :: 'y' :: rest => i.letter :: formatted i rest
  | '%' :: 'h' :: rest =>
    let parent := (i.name.reverse.dropWhile (· != '/')).drop 1
    (if parent.isEmpty then ['.'] else parent.reverse) ++ formatted i rest
  | '%' :: '%' :: rest => '%' :: formatted i rest
  | '\\' :: 'n' :: rest => '\n' :: formatted i rest
  | '\\' :: 't' :: rest => '\t' :: formatted i rest
  | '\\' :: '0' :: rest => '\x00' :: formatted i rest
  | '\\' :: '\\' :: rest => '\\' :: formatted i rest
  | c :: rest => c :: formatted i rest
  | [] => []

def ask (run : Runner) (i : Item) : Query → Look → Bool × Look
  | .always b, k => (b, k)
  | .name p folds, k => (fits p (lastName i.name) folds, k)
  | .path p folds, k => (fits p i.name folds, k)
  | .kind letters, k => (letters.contains i.letter, k)
  | .empty, k =>
    (match i.entry with
      | .directory => (k.state.disk.children i.loc).isEmpty
      | .file bytes _ => bytes.isEmpty
      | .link _ => false
      | .device _ => false, k)
  | .size sign count unit, k =>
    let n := (i.size + unit - 1) / unit
    (match sign with
      | some '+' => count < n
      | some _ => n < count
      | none => n == count, k)
  | .executable, k =>
    (match i.entry with
      | .file _ executable => executable
      | _ => true, k)
  | .print c, k => (true, { k with state := k.state.out (i.name ++ [c]) })
  | .format t, k => (true, { k with state := k.state.out (formatted i t) })
  | .delete, k =>
    let s := k.state
    let result : Except Fault Disk := match i.entry with
      | .directory => removeDirectory s i.name
      | _ => s.disk.remove (Octets.path i.name)
    match result with
    | .ok d => (true, { k with state := withDisk s d })
    | .error f => (false, { k with state := failBy ["cannot delete ".toList, curly i.name] f s })
  | .prune, k => (true, { k with pruned := true })
  | .quit, k => (true, { k with stopped := true })
  | .exec words, k =>
    let words := words.map fun w => exchangedIn "\x7b\x7d".toList i.name (w.length + 1) w
    let before := k.state.status
    match run words k.state with
    | .ok s => (s.status = 0, { k with state := s.setStatus before })
    | .error e =>
      (false, { k with
        state := complain [curly (words.headD []), ": ".toList, e.text.toList] k.state })
  | .execAll n _, k => (true, { k with batches := (n, i.name) :: k.batches })
  | .not q, k =>
    let (b, k) := ask run i q k
    (!b, k)
  | .and a b, k =>
    let (x, k) := ask run i a k
    if x && !k.stopped then ask run i b k else (x, k)
  | .or a b, k =>
    let (x, k) := ask run i a k
    if x || k.stopped then (x, k) else ask run i b k

/-- Looks at a file and at what is below it. -/
def visit (run : Runner) (q : Query) (o : Options) : Nat → Item → Look → Look
  | 0, _, k => k
  | fuel + 1, i, k =>
    if k.stopped || k.state.halted then k
    else
      let here (k : Look) : Look :=
        if i.depth < o.least || o.most.any (· < i.depth) then k
        else (ask run i q { k with pruned := false }).2
      let below (k : Look) : Look :=
        if k.pruned || o.most.any (· ≤ i.depth) then k
        else match i.entry with
          | .directory =>
            (namesIn k.state i.loc).foldl (fun k child =>
              let name := System.under i.name child
              match entryAt k.state false name with
              | .ok (loc, entry) => visit run q o fuel ⟨name, loc, entry, i.depth + 1⟩ k
              | .error _ => k) k
          | _ => k
      if o.deepFirst then here (below { k with pruned := false })
      else below (here { k with pruned := false })

def batchCommands : Query → List (Nat × List Text)
  | .execAll n words => [(n, words)]
  | .not q => batchCommands q
  | .and a b => batchCommands a ++ batchCommands b
  | .or a b => batchCommands a ++ batchCommands b
  | _ => []

def runBatchesOf (run : Runner) (q : Query) (k : Look) : State :=
  (batchCommands q).foldl (fun s (n, words) =>
    let names := (k.batches.reverse.filter (·.1 == n)).map (·.2)
    if names.isEmpty || s.halted then s
    else
      let before := s.status
      match run (words ++ names) s with
      | .ok s => if s.status = 0 then s.setStatus before else s.fail
      | .error e => (complain [curly (words.headD []), ": ".toList, e.text.toList] s).fail) k.state

def beginsExpression (a : Text) : Bool :=
  (a.head? == some '-' && 1 < a.length) || a == ['('] || a == ['!'] || a == [')'] || a == [',']

def find (run : Runner) (args : List Text) (s : State) : State :=
  let isFlag (a : Text) : Bool :=
    a == "-H".toList || a == "-L".toList || a == "-P".toList || a == "--".toList ||
      ("-O".toList.isPrefixOf a)
  let args := args.dropWhile isFlag
  let names := args.takeWhile (!beginsExpression ·)
  match expression (args.drop names.length) with
  | .error message => failWith message s
  | .ok (q, p) =>
    let k := (if names.isEmpty then [['.']] else names).foldl (fun (k : Look) name =>
      if k.stopped || k.state.halted then k
      else match entryAt k.state false name with
        | .ok (loc, entry) => visit run q p.options 1000 ⟨name, loc, entry, 0⟩ k
        | .error f => { k with state := failBy [curly name] f k.state }) { state := s.succeed }
    runBatchesOf run q k

end Manuscript.Shell.Tool.Find
