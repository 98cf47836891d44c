/-!
Hexadecimal digits, and the two units that together spell a character beyond U+FFFF.
-/

namespace TestScout.Text

def hexValue? (c : Char) : Option Nat :=
  if '0' ≤ c && c ≤ '9' then some (c.toNat - '0'.toNat)
  else if 'a' ≤ c && c ≤ 'f' then some (c.toNat - 'a'.toNat + 10)
  else if 'A' ≤ c && c ≤ 'F' then some (c.toNat - 'A'.toNat + 10)
  else none

/-- The number that digits spell, if all of them are hexadecimal. -/
def hexNumber? (ds : List Char) : Option Nat :=
  ds.foldlM (fun n d => (hexValue? d).map (n * 16 + ·)) 0

/-- The number that the first `n` characters spell, if there are so many and all are digits. -/
def hexFront? (n : Nat) (cs : List Char) : Option Nat :=
  if n ≤ cs.length then hexNumber? (cs.take n) else none

/-- A unit that begins a pair. -/
def isHighUnit (u : Nat) : Bool := 0xD800 ≤ u && u < 0xDC00

/-- A unit that ends a pair. -/
def isLowUnit (u : Nat) : Bool := 0xDC00 ≤ u && u < 0xE000

/-- The code point that a pair of units spells. -/
def pairValue (high low : Nat) : Nat := 0x10000 + (high - 0xD800) * 0x400 + (low - 0xDC00)

def charOf? (n : Nat) : Option Char := if n.isValidChar then some (Char.ofNat n) else none

end TestScout.Text
