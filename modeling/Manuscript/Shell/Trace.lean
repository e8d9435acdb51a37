import Manuscript.Shell.Expansion

/-!
Showing commands before they are run, in words that a shell could read.
-/

namespace Manuscript.Shell

def writtenWord : Word → Text
  | [] => []
  | .text t _ :: rest => t ++ writtenWord rest
  | .value (.named name) .plain _ :: rest => '$' :: name ++ writtenWord rest
  | .list items :: rest =>
    '(' :: Text.joinWith [' '] (items.map fun (_, w) => writtenItem w) ++ ')' :: writtenWord rest
  | _ :: rest => writtenWord rest
where
  writtenItem : Word → Text
    | [.text t true] => '"' :: t ++ ['"']
    | [.text t false] => t
    | _ => []

def tracedWord (t : Text) : Text :=
  let isPlain (c : Char) : Bool :=
    c.isAlphanum || "_-./:@%+,=#~".toList.contains c || 128 ≤ c.toNat
  if !t.isEmpty && t.all isPlain && t.head? != some '#' && t.head? != some '~' then t
  else '\'' :: (t.flatMap fun c => if c == '\'' then "'\\''".toList else [c]) ++ ['\'']

/-- Shows words where a handle leads, if that is asked for; the first sign is repeated for each
command around them whose output is taken. -/
def State.trace (s : State) (h : Option Handle) (words : List Text) : State :=
  if !s.hasOption 'x' then s
  else
    let start := (s.value? "PS4".toList).getD "+ ".toList
    let repeated := if s.isExtended then List.replicate s.session.depth (start.headD '+') else []
    let line := repeated ++ start ++ Text.joinWith [' '] words ++ ['\n']
    match h with
    | some h => { s.emit h line with unwritten := s.unwritten, unread := s.unread }
    | none => s

def State.traceExtended (s : State) (words : List Text) : State :=
  if s.isExtended then s.trace (s.stream? 2) words else s

end Manuscript.Shell
