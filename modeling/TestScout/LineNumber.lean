import TestScout.Text.Utf8

/-!
Lines as readers number them, from one.
-/

namespace TestScout

/-- The byte offsets after the line breaks of the characters that begin at an offset. -/
def startsAfter (offset : Nat) : List Char → List Nat
  | [] => []
  | c :: cs =>
    let next := offset + c.utf8Size
    if c = '\n' then next :: startsAfter next cs else startsAfter next cs

/-- The byte offsets at which the lines of a text begin. -/
def lineStarts (text : String) : List Nat := 0 :: startsAfter 0 text.toList

/-- The number of the line that a byte offset belongs to. -/
def lineNumber (starts : List Nat) (offset : Nat) : Nat :=
  (starts.takeWhile fun start => start ≤ offset).length

end TestScout
