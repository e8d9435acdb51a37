import Manuscript.Text.Basic

/-!
Reading bytes as UTF-8 when they need not be well formed. Each longest run of
bytes that begins a character but does not complete it becomes one replacement
character, and so does each byte that begins none.
-/

namespace Manuscript.Text

namespace Utf8

def replacement : Char := '\ufffd'

def isContinuation (b : UInt8) : Bool :=
  0x80 ≤ b && b ≤ 0xbf

/-- The second bytes that may follow a leading byte of three or four. -/
def seconds (lead : UInt8) : UInt8 × UInt8 :=
  if lead == 0xe0 then (0xa0, 0xbf)
  else if lead == 0xed then (0x80, 0x9f)
  else if lead == 0xf0 then (0x90, 0xbf)
  else if lead == 0xf4 then (0x80, 0x8f)
  else (0x80, 0xbf)

def allowsSecond (lead second : UInt8) : Bool :=
  (seconds lead).1 ≤ second && second ≤ (seconds lead).2

def low (b : UInt8) : Nat :=
  b.toNat % 64

/-- The first character that the bytes spell, if they do, and the number of bytes read for it. -/
def first : List UInt8 → Option Char × Nat
  | [] => (none, 1)
  | a :: rest =>
    if a < 0x80 then (some (Char.ofNat a.toNat), 1)
    else if 0xc2 ≤ a && a ≤ 0xdf then
      match rest with
      | b :: _ =>
        if isContinuation b then (some (Char.ofNat (a.toNat % 32 * 64 + low b)), 2) else (none, 1)
      | [] => (none, 1)
    else if 0xe0 ≤ a && a ≤ 0xef then
      match rest with
      | b :: c :: _ =>
        if !allowsSecond a b then (none, 1)
        else if isContinuation c then
          (some (Char.ofNat (a.toNat % 16 * 4096 + low b * 64 + low c)), 3)
        else (none, 2)
      | [b] => (none, if allowsSecond a b then 2 else 1)
      | [] => (none, 1)
    else if 0xf0 ≤ a && a ≤ 0xf4 then
      match rest with
      | b :: c :: d :: _ =>
        if !allowsSecond a b then (none, 1)
        else if !isContinuation c then (none, 2)
        else if isContinuation d then
          (some (Char.ofNat (a.toNat % 8 * 262144 + low b * 4096 + low c * 64 + low d)), 4)
        else (none, 3)
      | [b, c] =>
        (none, if !allowsSecond a b then 1 else if isContinuation c then 3 else 2)
      | [b] => (none, if allowsSecond a b then 2 else 1)
      | [] => (none, 1)
    else (none, 1)

/-- The characters of at most `fuel` readings, latest first, with a text in place of bytes that
spell none. -/
def readFrom (illFormed : Text) : Nat → List UInt8 → Text → Text
  | 0, _, read => read
  | _, [], read => read
  | fuel + 1, bytes, read =>
    let (c, n) := first bytes
    readFrom illFormed fuel (bytes.drop n)
      (match c with
        | some c => c :: read
        | none => illFormed.reverse ++ read)

end Utf8

def ofBytesWith (illFormed : Text) (bytes : ByteArray) : Text :=
  (Utf8.readFrom illFormed bytes.size bytes.data.toList []).reverse

def ofBytes (bytes : ByteArray) : Text :=
  ofBytesWith [Utf8.replacement] bytes

end Manuscript.Text
