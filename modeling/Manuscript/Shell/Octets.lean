import Manuscript.Disk.Basic
import Manuscript.Text.Utf8

/-!
Texts whose characters stand for bytes, as scripts and their tools handle them.
Names of files are texts of their own; between the two stands UTF-8.
-/

namespace Manuscript.Shell.Octets

def ofByte (b : UInt8) : Char :=
  Char.ofNat b.toNat

def toByte (c : Char) : UInt8 :=
  UInt8.ofNat c.toNat

def ofBytes (bytes : Bytes) : Text :=
  bytes.map ofByte

def toBytes (t : Text) : Bytes :=
  t.map toByte

/-- The bytes of a text in UTF-8. -/
def encode (t : Text) : Text :=
  ofBytes (Bytes.ofText t)

def isPlain (t : Text) : Bool :=
  t.all (·.toNat < 128)

def decode (t : Text) : Text :=
  if isPlain t then t else Text.ofBytes ⟨(toBytes t).toArray⟩

/-- Where bytes that spell nothing are kept in a text, so that they are not lost. -/
def strayBase : Nat := 0x10f000

def isStray (c : Char) : Bool :=
  strayBase ≤ c.toNat && c.toNat < strayBase + 256

/-- The characters of a text, at most `fuel` of them and behind those that have been read, which are
in reverse; a byte that begins none stays for itself. -/
def charactersFrom (read : Text) : Nat → Text → Text
  | 0, _ => read.reverse
  | _, [] => read.reverse
  | fuel + 1, c :: rest =>
    if c.toNat < 128 then charactersFrom (c :: read) fuel rest
    else match Text.Utf8.first (toBytes (c :: rest.take 3)) with
      | (some d, n) => charactersFrom (d :: read) fuel ((c :: rest).drop n)
      | (none, _) => charactersFrom (Char.ofNat (strayBase + c.toNat) :: read) fuel rest

def characters (t : Text) : Text :=
  if isPlain t then t else charactersFrom [] t.length t

def ofCharacters (t : Text) : Text :=
  if isPlain t then t
  else t.flatMap fun c =>
    if isStray c then [Char.ofNat (c.toNat - strayBase)]
    else if c.toNat < 128 then [c]
    else encode [c]

/-- The path that a name of bytes stands for. -/
def path (t : Text) : Path :=
  ⟨decode t⟩

end Manuscript.Shell.Octets
