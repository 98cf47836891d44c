import TestScout.Text.Hex
import TestScout.Text.Numeral

/-!
What the body of a string literal means. A backslash and the character after it, with whatever
belongs to the escape, stand for some characters, often one and sometimes none; everything else
stands for itself. An escape that is spelled wrongly is taken as a backslash before an ordinary
character, so nothing after that character is lost.
-/

namespace TestScout.Literal

open Text

/-- The character that digits in braces spell, after the opening one, and the length of that. They
are counted however many they are; a count in a word ends at `2 ^ 31`. -/
def braced? (cs : List Char) : Option (Char × Nat) := do
  let digits := cs.takeWhile fun c => (hexValue? c).isSome
  if digits.isEmpty || (cs.drop digits.length).head? ≠ some '}' then none
  else
    let c ← charOf? (← hexNumber? digits)
    return (c, digits.length + 2)

/-- The unit of a second escape at the front, if it ends a pair. -/
def lowEscape? : List Char → Option Nat
  | '\\' :: 'u' :: rest => (hexFront? 4 rest).filter isLowUnit
  | _ => none

/-- The character of four digits at the front, and the length of that. A unit that begins a pair
takes the escape that ends it along; a unit that stays alone is U+FFFD. -/
def fourDigits? (cs : List Char) : Option (Char × Nat) := do
  let unit ← hexFront? 4 cs
  if isHighUnit unit then
    match lowEscape? (cs.drop 4) with
    | some low => return (Char.ofNat (pairValue unit low), 10)
    | none => return ('\uFFFD', 4)
  else return ((charOf? unit).getD '\uFFFD', 4)

/-- The character of what follows `\u`, and the length of that. -/
def unicode? : List Char → Option (Char × Nat)
  | '{' :: cs => braced? cs
  | cs => fourDigits? cs

/-- The character of what follows `\x`. -/
def byte? (cs : List Char) : Option Char := (hexFront? 2 cs).map Char.ofNat

/-- What a backslash and `c` stand for before `rest`, and how much of `rest` belongs to them. -/
def escape (c : Char) (rest : List Char) : List Char × Nat :=
  match c with
  | 'n' => (['\n'], 0)
  | 'r' => (['\r'], 0)
  | 't' => (['\t'], 0)
  | 'b' => (['\x08'], 0)
  | 'f' => (['\x0c'], 0)
  | 'v' => (['\x0b'], 0)
  | '0' => (if rest.head?.any Text.isDigit then ['0'] else ['\x00'], 0)
  | '\r' => ([], if rest.head? = some '\n' then 1 else 0)
  | '\n' | '\u2028' | '\u2029' => ([], 0)
  | 'x' =>
    match byte? rest with
    | some v => ([v], 2)
    | none => (['x'], 0)
  | 'u' =>
    match unicode? rest with
    | some (v, n) => ([v], n)
    | none => (['u'], 0)
  | c => ([c], 0)

/-- The characters that a body stands for. -/
def cookChars : List Char → List Char
  | [] => []
  | ['\\'] => ['\\']
  | '\\' :: c :: rest => (escape c rest).1 ++ cookChars (rest.drop (escape c rest).2)
  | c :: rest => c :: cookChars rest
termination_by body => body.length
decreasing_by all_goals simp_wf <;> omega

/-- The text that a body stands for. -/
def cook (body : String) : String := String.ofList (cookChars body.toList)

end TestScout.Literal
