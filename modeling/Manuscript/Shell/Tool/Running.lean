import Manuscript.Shell.Tool.Talk

/-!
Tools that run other commands. How a command is run is a parameter: it may not
be possible to start it.
-/

namespace Manuscript.Shell.Tool

abbrev Runner := List Text → State → Except Errno State

/-- The status of a tool whose command cannot be started. -/
def startStatus (e : Errno) : Nat :=
  if e = .notFound then 127 else 126

def runOr (run : Runner) (complaint : Text → List Text) (words : List Text) (s : State) : State :=
  match run words s with
  | .ok s => s
  | .error e =>
    (complain (complaint (words.headD []) ++ [": ".toList, e.text.toList]) s).setStatus
      (startStatus e)

def failedToRun (name : Text) : List Text :=
  ["failed to run command ".toList, curly name]

/-! ### Surroundings -/

def assignmentsIn (args : List Text) : List (Text × Text) × List Text :=
  let given := args.takeWhile fun a => a.contains '='
  (given.map fun a =>
    let name := a.takeWhile (· != '=')
    (name, a.drop (name.length + 1)), args.drop given.length)

def env (run : Runner) (args : List Text) (s : State) : State :=
  let clears := args.head? == some ['-']
  withOptions ⟨"0iu:C:S:v", [("ignore-environment", .nothing, 'i'), ("null", .nothing, '0'),
      ("unset", .value, 'u'), ("chdir", .value, 'C'), ("split-string", .value, 'S'),
      ("debug", .nothing, 'v')], true, 125⟩ (fun os operands s =>
    let bindings := s.session.bindings
    let split := match lastValue? os 'S' with
      | some t => (Text.splitBy (fun c => c == ' ' || c == '\t') t).filter (!·.isEmpty)
      | none => []
    let (given, words) := assignmentsIn (split ++ operands)
    let cleared := if isGiven os 'i' || clears then { s with session.bindings := [] } else s
    let without := (os.filter (·.1 == 'u')).foldl (fun s o => s.dropBinding (o.2.getD [])) cleared
    let inner := given.foldl (fun s (name, value) =>
      s.setBinding name { value := some (.text value), exported := true }) without
    let after := match words with
      | [] =>
        let tellEach (s : State) (b : Text × Text) : State := s.say [b.1, ['='], b.2]
        (environment inner).foldl tellEach inner.succeed
      | words => runOr run (fun name => [curly name]) words inner
    { after with session.bindings := bindings })
    (if clears then args.drop 1 else args) s

/-! ### Time -/

def timeout (run : Runner) : List Text → State → State :=
  withOptions ⟨"k:s:fpv", [("kill-after", .value, 'k'), ("signal", .value, 's'),
      ("foreground", .nothing, 'f'), ("preserve-status", .nothing, 'p'),
      ("verbose", .nothing, 'v')], true, 125⟩ fun os operands s =>
    match operands with
    | limit :: name :: args =>
      match interval? limit with
      | none => hint 125 (complain ["invalid time interval ".toList, curly limit] s)
      | some n =>
        let deadline := s.clock + n
        if n = 0 || s.deadline < deadline then runOr run failedToRun (name :: args) s
        else
          let t := runOr run failedToRun (name :: args) { s with deadline }
          let t := { t with deadline := s.deadline }
          if t.session.jump = some Jump.outOfTime then
            let signal := ((lastValue? os 's').getD "TERM".toList)
            let isKill := signal == "KILL".toList || signal == ['9']
            let status := if isKill then 137 else if isGiven os 'p' then 143 else 124
            { t with session.jump := none, clock := deadline }.setStatus status
          else t
    | _ => hint 125 s

/-! ### Other surroundings that make no difference -/

def nohup (run : Runner) : List Text → State → State :=
  withOptions ⟨"", [], true, 125⟩ fun _ words s =>
    if words.isEmpty then missingOperand 125 s
    else runOr run (fun name => ["failed to run command ".toList, quoted name]) words s

def nice (run : Runner) : List Text → State → State :=
  withOptions ⟨"n:", [("adjustment", .value, 'n')], true, 125⟩ fun _ words s =>
    if words.isEmpty then (s.say [['0']]).succeed else runOr run (fun name => [curly name]) words s

def stdbuf (run : Runner) : List Text → State → State :=
  withCheckedOptions ⟨"i:o:e:", [("input", .value, 'i'), ("output", .value, 'o'),
      ("error", .value, 'e')], true, 125⟩
    (fun o s =>
      let mode := o.2.getD []
      if mode == ['L'] then
        if o.1 == 'i' then
          .error (hint 125 (complain ["line buffering stdin is meaningless".toList] s))
        else .ok s
      else if (size? mode).isSome then .ok s
      else .error ((complain ["invalid mode ".toList, curly mode] s).setStatus 125))
    fun os words s =>
    if words.isEmpty then missingOperand 125 s
    else if os.isEmpty then
      hint 125 (complain ["you must specify a buffering mode option".toList] s)
    else runOr run failedToRun words s

def setsid (run : Runner) : List Text → State → State :=
  withOptions ⟨"cfw", [("wait", .nothing, 'w'), ("fork", .nothing, 'f')], true, 1⟩ fun _ words s =>
    runOr run (fun name => ["failed to execute ".toList, name]) words s

/-! ### Arguments from the input -/

/-- The items of a text: words that may be quoted, and whether a line ended behind each. What has
been read of the present one is in reverse. -/
def itemsOf : Text → Option Text → List (Text × Bool) → Except Char (List (Text × Bool))
  | [], current, items =>
    .ok (match current with
      | some t => (t.reverse, true) :: items
      | none => items).reverse
  | '\\' :: c :: rest, current, items => itemsOf rest (some (c :: current.getD [])) items
  | c :: rest, current, items =>
    if c == '\'' || c == '"' then quoted c rest (current.getD []) items
    else if c == '\n' then
      itemsOf rest none (match current, items with
        | some t, items => (t.reverse, true) :: items
        | none, (t, _) :: items => (t, true) :: items
        | none, [] => [])
    else if c == ' ' || c == '\t' then
      itemsOf rest none (match current with
        | some t => (t.reverse, false) :: items
        | none => items)
    else itemsOf rest (some (c :: current.getD [])) items
where
  quoted (quote : Char) : Text → Text → List (Text × Bool) → Except Char (List (Text × Bool))
    | [], _, _ => .error quote
    | c :: rest, current, items =>
      if c == quote then itemsOf rest (some current) items
      else if c == '\n' then .error quote
      else quoted quote rest (c :: current) items

def inGroups (size : Nat) : Nat → List Text → List (List Text)
  | 0, _ => []
  | _, [] => []
  | fuel + 1, items => items.take size :: inGroups size fuel (items.drop size)

def inLines (size : Nat) (items : List (Text × Bool)) : List (List Text) :=
  let (current, _, groups) := items.foldl (fun (current, count, groups) (t, ends) =>
    let current := t :: current
    let count := if ends then count + 1 else count
    if ends && size ≤ count then ([], 0, current.reverse :: groups) else (current, count, groups))
    (([], 0, []) : List Text × Nat × List (List Text))
  (if current.isEmpty then groups else current.reverse :: groups).reverse

def exchangedIn (old new : Text) : Nat → Text → Text
  | 0, t => t
  | _, [] => []
  | fuel + 1, c :: rest =>
    match if old.isEmpty then none else Text.dropBeginning? old (c :: rest) with
    | some behind => new ++ exchangedIn old new fuel behind
    | none => c :: exchangedIn old new fuel rest

/-- Runs commands one after the other; some statuses end it. -/
def runBatches (run : Runner) (echoes : Bool) : List (List Text) → State → State
  | [], s => s
  | words :: rest, s =>
    if s.halted then s
    else
      let s := if echoes then s.tell [Text.joinWith [' '] (words.map named)] else s
      let before := s.status
      match run words s with
      | .error e =>
        (complain [words.headD [], ": ".toList, e.text.toList] s).setStatus (startStatus e)
      | .ok s =>
        if s.halted then s
        else
          let name := words.headD []
          match s.status with
          | 0 => runBatches run echoes rest (s.setStatus before)
          | 255 =>
            (complain [name, ": exited with status 255; aborting".toList] s).setStatus 124
          | n =>
            if 128 < n then
              (complain [name, ": terminated by signal ".toList, Text.ofNat (n - 128)] s).setStatus
                125
            else runBatches run echoes rest (s.setStatus 123)

def xargs (run : Runner) : List Text → State → State :=
  withOptions ⟨"0a:d:E:e::I:i::L:l::n:prs:txP:", [("null", .nothing, '0'),
      ("no-run-if-empty", .nothing, 'r'), ("max-args", .value, 'n'), ("max-lines", .maybe, 'l'),
      ("replace", .maybe, 'i'), ("delimiter", .value, 'd'), ("verbose", .nothing, 't'),
      ("arg-file", .value, 'a'), ("max-procs", .value, 'P'), ("exit", .nothing, 'x')], true, 1⟩
    fun os words s =>
      let words := if words.isEmpty then ["echo".toList] else words
      let bad := (os.filter fun o => o.1 == 'n' || o.1 == 'L' || o.1 == 's').find? fun o =>
        (digits? (o.2.getD [])).isNone
      match bad with
      | some (c, v) =>
        hint 1 (complain ["invalid number \"".toList, v.getD [], "\" for -".toList, [c],
          " option".toList] s)
      | none =>
        let gathered : Except Fault (Text × State) := match lastValue? os 'a' with
          | some name => s.contents name
          | none => .ok (s.takeAllOf s.input)
        match gathered with
        | .error f =>
          failBy ["Cannot open input file ".toList, curly ((lastValue? os 'a').getD [])] f s
        | .ok (t, s) =>
          let delimiter : Option Char :=
            if isGiven os '0' then some '\x00'
            else (lastValue? os 'd').bind fun v =>
              match v with
              | ['\\', 'n'] => some '\n'
              | ['\\', 't'] => some '\t'
              | ['\\', '0'] => some '\x00'
              | c :: _ => some c
              | [] => none
          let replaced := if isGiven os 'I' then lastValue? os 'I'
            else if isGiven os 'i' then some ((lastValue? os 'i').getD "\x7b\x7d".toList) else none
          let items : Except Char (List (Text × Bool)) :=
            match delimiter, replaced with
            | some d, _ =>
              let parts := partsAt d t
              .ok ((if parts.getLast? == some [] then parts.dropLast else parts).map (·, true))
            | none, some _ =>
              .ok (((linesOf t).1.map fun l => l.dropWhile fun c => c == ' ' || c == '\t').filter
                (!·.isEmpty) |>.map (·, true))
            | none, none => itemsOf t none []
          match items with
          | .error quote =>
            let kind := if quote == '"' then "double" else "single"
            failWith ["unmatched ".toList, kind.toList,
              " quote; by default quotes are special to ".toList,
              "xargs unless you use the -0 option".toList] s
          | .ok items =>
            let texts := items.map (·.1)
            let batches : List (List Text) :=
              match replaced with
              | some mark => texts.map fun t =>
                words.map fun w => exchangedIn mark t (w.length + 1) w
              | none =>
                let lines := (lastValue? os 'L').bind digits?
                let groups := match lines, (lastValue? os 'n').bind digits? with
                  | some n, _ => inLines (max n 1) items
                  | none, some n => inGroups (max n 1) (texts.length + 1) texts
                  | none, none => if texts.isEmpty then [] else [texts]
                let groups := if groups.isEmpty && !isGiven os 'r' then [[]] else groups
                groups.map (words ++ ·)
            let input := s.session.streams
            let s := runBatches run (isGiven os 't') batches (s.setStream 0 .nothing).succeed
            { s with session.streams := input }

end Manuscript.Shell.Tool
