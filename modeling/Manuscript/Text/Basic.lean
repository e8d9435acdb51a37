/-!
Texts as lists of characters: white space, trimming, lines and simple splitting.

A line ends at a line feed, and a carriage return just before that line feed
belongs to the ending. A carriage return elsewhere is part of its line. Text
after the last line feed is a line of its own unless it is empty.
-/

namespace Manuscript

abbrev Text := List Char

namespace Text

def inTable (table : List (Nat × Nat)) (c : Char) : Bool :=
  table.any fun r => r.1 ≤ c.toNat && c.toNat ≤ r.2

def blankRanges : List (Char × Char) :=
  [('\t', '\r'), (' ', ' '), ('\u0085', '\u0085'), ('\u00a0', '\u00a0'), ('\u1680', '\u1680'),
   ('\u2000', '\u200a'), ('\u2028', '\u2029'), ('\u202f', '\u202f'), ('\u205f', '\u205f'),
   ('\u3000', '\u3000')]

def isBlank (c : Char) : Bool :=
  blankRanges.any fun r => r.1 ≤ c && c ≤ r.2

def trimStart (t : Text) : Text :=
  t.dropWhile isBlank

def trimEnd (t : Text) : Text :=
  (t.reverse.dropWhile isBlank).reverse

def trim (t : Text) : Text :=
  (t.trimStart).trimEnd

/-- The text of a line whose reversed characters, up to its line feed, are given. -/
def endLine : Text → Text
  | '\r' :: before => before.reverse
  | before => before.reverse

/-- The lines of a text whose current line has begun with the given characters, reversed. -/
def linesFrom (begun : Text) : Text → List Text
  | [] => if begun.isEmpty then [] else [begun.reverse]
  | c :: rest =>
    if c = '\n' then endLine begun :: linesFrom [] rest else linesFrom (c :: begun) rest

def lines (t : Text) : List Text :=
  linesFrom [] t

/-- The parts between separators; a text without a separator is its only part. -/
def splitBy (separates : Char → Bool) : Text → List Text
  | [] => [[]]
  | c :: rest =>
    if separates c then [] :: splitBy separates rest
    else match splitBy separates rest with
      | [] => [[c]]
      | part :: parts => (c :: part) :: parts

def occursIn (needle : Text) : Text → Bool
  | [] => needle.isEmpty
  | c :: rest => needle.isPrefixOf (c :: rest) || occursIn needle rest

def dropBeginning? : Text → Text → Option Text
  | [], t => some t
  | _ :: _, [] => none
  | w :: ws, c :: cs => if w = c then dropBeginning? ws cs else none

def dropEnding? (ending t : Text) : Option Text :=
  (dropBeginning? ending.reverse t.reverse).map List.reverse

def byteSize : Text → Nat
  | [] => 0
  | c :: rest => c.utf8Size + byteSize rest

/-- The text with every occurrence of an ending taken off. -/
def dropEndings (ending : Text) (t : Text) : Text :=
  go t.length t
where
  go : Nat → Text → Text
    | 0, t => t
    | n + 1, t =>
      if ending.isEmpty then t
      else match dropEnding? ending t with
        | some shorter => go n shorter
        | none => t

def joinWith (separator : Text) : List Text → Text
  | [] => []
  | [t] => t
  | t :: ts => t ++ separator ++ joinWith separator ts

/-- The least number that no longer fits into 64 bits. -/
def countLimit : Nat :=
  18446744073709551616

def ofNat (n : Nat) : Text :=
  Nat.toDigits 10 n

def ofInt : Int → Text
  | .ofNat n => ofNat n
  | .negSucc n => '-' :: ofNat (n + 1)

end Text

end Manuscript
