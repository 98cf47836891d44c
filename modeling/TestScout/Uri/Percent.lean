import TestScout.Text.Hex
import TestScout.Text.Utf8

/-!
Percent-encoding: a byte written as a percent sign and two hexadecimal digits. Which characters have
to be written so depends on the part of the identifier.
-/

namespace TestScout.Uri

def upperHex (n : Nat) : Char := Char.ofNat (if n < 10 then 0x30 + n else 0x37 + n)

/-- A byte as a percent sign and two digits. -/
def encodeByte (b : UInt8) : List Char := ['%', upperHex (b.toNat / 16), upperHex (b.toNat % 16)]

/-- Characters, with those that `special` names, and all that are not printable ASCII, encoded. -/
def encode (special : List Char) (cs : List Char) : List Char :=
  cs.flatMap fun c =>
    if c.toNat < 0x20 || 0x7E < c.toNat || special.contains c then
      (Text.toBytes c.toString).flatMap encodeByte
    else [c]

/-- Bytes with every encoded one in its place. A percent sign without two digits stands for
itself. -/
def decodeBytes : List UInt8 → List UInt8
  | 0x25 :: h :: l :: more =>
    match Text.hexNumber? [Char.ofNat h.toNat, Char.ofNat l.toNat] with
    | some n => n.toUInt8 :: decodeBytes more
    | none => 0x25 :: decodeBytes (h :: l :: more)
  | b :: rest => b :: decodeBytes rest
  | [] => []

def decode (text : String) : List UInt8 := decodeBytes (Text.toBytes text)

/-- What has to be encoded in a fragment. -/
def inFragment : List Char := [' ', '"', '<', '>', '\x60']

/-- What has to be encoded in a path. -/
def inPath : List Char := inFragment ++ ['#', '?', '{', '}']

/-- What has to be encoded before the host. -/
def inUser : List Char := inPath ++ ['/', ':', ';', '=', '@', '[', '\\', ']', '^', '|']

/-- What has to be encoded in a query. -/
def inQuery (special : Bool) : List Char :=
  [' ', '"', '#', '<', '>'] ++ if special then ['\''] else []

end TestScout.Uri
