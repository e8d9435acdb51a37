import Manuscript.Shell.Tool.Transfer

/-!
Copying in blocks, from places and to places in files.
-/

namespace Manuscript.Shell.Tool.Blocks

/-- A number of blocks or of bytes: products of numbers with units. -/
def number? (t : Text) : Option Nat :=
  let factors := (Text.splitBy (· == 'x') t).mapM fun (part : Text) =>
    if !(part.head?.any Char.isDigit) then none
    else match part.reverse with
      | 'B' :: d :: ds => if d.isDigit then size? (d :: ds).reverse else size? part
      | _ => size? part
  factors.map fun ns => ns.foldl (· * ·) 1

structure Job where
  source : Option Text := none
  target : Option Text := none
  readSize : Nat := 512
  writeSize : Nat := 512
  limit : Option (Nat × Bool) := none
  skip : Nat × Bool := (0, false)
  seek : Nat × Bool := (0, false)
  conversions : List Text := []
  byteCounts : List Text := []
  status : Text := []

abbrev Complaint := List Text × Bool

def conversionNames : List String :=
  ["ascii", "ebcdic", "ibm", "block", "unblock", "lcase", "ucase", "sparse", "swab", "sync", "excl",
    "nocreat", "notrunc", "noerror", "fdatasync", "fsync"]

def flagNames : List String :=
  ["append", "direct", "directory", "dsync", "sync", "fullblock", "nonblock", "noatime", "nocache",
    "noctty", "nofollow", "count_bytes", "skip_bytes", "seek_bytes"]

def namesAmong (known : List String) (what : String) (t : Text) : Except Complaint (List Text) :=
  let names := Text.splitBy (· == ',') t
  match names.find? fun n => !known.any (·.toList == n) with
  | some n => .error (["invalid ".toList, what.toList, ": ".toList, curly n], true)
  | none => .ok names

def countOf (least : Nat) (t : Text) : Except Complaint (Nat × Bool) :=
  match number? t with
  | some n =>
    if n < least then .error (["invalid number: ".toList, quoted t], false)
    else .ok (n, t.getLast? == some 'B')
  | none => .error (["invalid number: ".toList, quoted t], false)

/-- The job with what an operand says. -/
def Job.add (j : Job) (operand : Text) : Except Complaint Job :=
  let name := operand.takeWhile (· != '=')
  let value := operand.drop (name.length + 1)
  if name.length = operand.length then
    .error (["unrecognized operand ".toList, quoted operand], true)
  else match String.ofList name with
    | "if" => .ok { j with source := some value }
    | "of" => .ok { j with target := some value }
    | "ibs" => (countOf 1 value).map fun n => { j with readSize := n.1 }
    | "obs" => (countOf 1 value).map fun n => { j with writeSize := n.1 }
    | "bs" => (countOf 1 value).map fun n => { j with readSize := n.1, writeSize := n.1 }
    | "cbs" => (countOf 1 value).map fun _ => j
    | "count" => (countOf 0 value).map fun n => { j with limit := some n }
    | "skip" => (countOf 0 value).map fun n => { j with skip := n }
    | "iseek" => (countOf 0 value).map fun n => { j with skip := n }
    | "seek" => (countOf 0 value).map fun n => { j with seek := n }
    | "oseek" => (countOf 0 value).map fun n => { j with seek := n }
    | "conv" => (namesAmong conversionNames "conversion" value).map fun ns =>
      { j with conversions := j.conversions ++ ns }
    | "iflag" => (namesAmong flagNames "input flag" value).map fun ns =>
      { j with byteCounts := j.byteCounts ++ ns }
    | "oflag" => (namesAmong flagNames "output flag" value).map fun ns =>
      { j with
        byteCounts := j.byteCounts ++ ns
        conversions := if ns.contains "append".toList then "notrunc".toList :: j.conversions
          else j.conversions }
    | "status" =>
      if ["none", "noxfer", "progress"].any (·.toList == value) then .ok { j with status := value }
      else .error (["invalid status level: ".toList, curly value], true)
    | _ => .error (["unrecognized operand ".toList, quoted operand], true)

def Job.converts (j : Job) (name : String) : Bool :=
  j.conversions.contains name.toList

def swapped : Text → Text
  | a :: b :: rest => b :: a :: swapped rest
  | t => t

def Job.convert (j : Job) (t : Text) : Text :=
  let t := if j.converts "swab" then swapped t else t
  let t := if j.converts "sync" then
      let missing := (j.readSize - t.length % j.readSize) % j.readSize
      t ++ List.replicate missing '\x00'
    else t
  if j.converts "ucase" then t.map Char.toUpper
  else if j.converts "lcase" then t.map Char.toLower
  else t

/-- How many blocks are read or written in full and in part. -/
def records (bytes block : Nat) : Text :=
  Text.ofNat (bytes / block) ++ '+' :: (if bytes % block = 0 then ['0'] else ['1'])

def Job.inBytes (j : Job) (flag : String) (block : Nat) (n : Nat × Bool) : Nat :=
  if n.2 || j.byteCounts.contains flag.toList then n.1 else n.1 * block

def Job.run (j : Job) (s : State) : State :=
  let opened : Except Fault (Handle × State) := match j.source with
    | some source => s.openNamed .read source
    | none => .ok (s.input, s)
  match opened with
  | .error f => failBy ["failed to open ".toList, quoted (j.source.getD [])] f s
  | .ok (h, s) =>
    let target : Except Fault (Handle × State) := match j.target with
      | some name =>
        if j.converts "nocreat" && (System.kindOf? s true name).isNone then .error (.os .notFound)
        else if j.converts "excl" && (System.kindOf? s true name).isSome then .error (.os .exists)
        else
          let keeps := j.converts "notrunc" || 0 < j.seek.1
          s.openNamed (if keeps then .both else .write) name
      | none => .ok ((s.stream? 1).getD .nothing, s)
    match target with
    | .error f => failBy ["failed to open ".toList, quoted (j.target.getD [])] f s
    | .ok (out, s) =>
      let skipped := j.inBytes "skip_bytes" j.readSize j.skip
      let (t, s) := match j.limit with
        | some n => s.takeBytes h (skipped + j.inBytes "count_bytes" j.readSize n)
        | none => s.takeAllOf h
      let t := t.drop skipped
      let written := j.convert t
      let s := s.advance out (j.inBytes "seek_bytes" j.writeSize j.seek)
      let told (read written : Nat) (s : State) : State :=
        if j.status == "none".toList then s
        else
          let s := s.tell [records read j.readSize, " records in".toList]
          let s := s.tell [records written j.writeSize, " records out".toList]
          if j.status == "noxfer".toList then s
          else s.tell [Text.ofNat written, " bytes copied".toList]
      match s.tryEmit out written with
      | (none, s) => told t.length written.length s.succeed
      | (some e, s) =>
        let name := quoted (j.target.getD "standard output".toList)
        told (min t.length j.readSize) 0 (failBy ["error writing ".toList, name] (.os e) s)

def dd (args : List Text) (s : State) : State :=
  match (OptionTable.mk "" [] false 1).readAll args with
  | .error e => hint 1 (complain e.message s)
  | .ok (_, operands) =>
    match operands.foldlM Job.add ({} : Job) with
    | .error (message, true) => hint 1 (complain message s)
    | .error (message, false) => failWith message s
    | .ok j =>
      if j.converts "lcase" && j.converts "ucase" then
        failWith ["cannot combine lcase and ucase".toList] s
      else j.run s

end Manuscript.Shell.Tool.Blocks
