/-!
Natural numbers in base ten, as texts.
-/

namespace TestScout.Text

def isDigit (c : Char) : Bool := '0' ≤ c && c ≤ '9'

def decimalValue (ds : List Char) : Nat :=
  ds.foldl (fun n d => n * 10 + (d.toNat - '0'.toNat)) 0

/-- The number that a text writes: digits, which a plus sign may precede, of a value below
`2 ^ 64`. -/
def word? (text : String) : Option Nat :=
  let digits := match text.toList with
    | '+' :: rest => rest
    | cs => cs
  if !digits.isEmpty && digits.all isDigit && decimalValue digits < 0x10000000000000000 then
    some (decimalValue digits)
  else none

end TestScout.Text
