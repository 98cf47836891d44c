import TestScout.Text.Hex
import TestScout.Text.Numeral

/-!
How far the small units of a source text reach: blanks, words, numbers, strings, regular
expressions, comments and marks. Each function looks at the characters that follow the first one of
a unit and says how many of them belong to it.
-/

namespace TestScout.Syntax.Lexeme

def isLineBreak (c : Char) : Bool := c = '\n' || c = '\r' || c = '\u2028' || c = '\u2029'

def isSpace (c : Char) : Bool :=
  c = ' ' || c = '\u00A0' || c = '\u1680' || ('\u2000' ≤ c && c ≤ '\u200A') || c = '\u202F' ||
    c = '\u205F' || c = '\u3000'

/-- A character that only sets others apart. -/
def isBlank (c : Char) : Bool :=
  isSpace c || isLineBreak c || c = '\t' || c = '\x0b' || c = '\x0c' || c = '\uFEFF' ||
    c = '\u2060' || c = '\u200B'

/-- The characters of the first half of the code that no word contains. -/
def marks : List Char := "!\"#%&'()*+,-./:;<=>?@[\\]^\x60\x7b|\x7d~".toList

def startsWord (c : Char) : Bool :=
  ' ' ≤ c && !isBlank c && !Text.isDigit c && !marks.contains c

def isWordChar (c : Char) : Bool := startsWord c || Text.isDigit c

/-- The rest of a word, in which a character may be written as an escape. -/
def wordRest : List Char → Nat
  | '\\' :: 'u' :: '{' :: cs =>
    let digits := (cs.takeWhile fun c => (Text.hexValue? c).isSome).length
    digits + 4 + wordRest (cs.drop (digits + 1))
  | '\\' :: 'u' :: cs => 2 + wordRest cs
  | c :: cs => if isWordChar c then 1 + wordRest cs else 0
  | [] => 0
termination_by cs => cs.length
decreasing_by all_goals simp_wf <;> omega

def digits (cs : List Char) : Nat := (cs.takeWhile fun c => Text.isDigit c || c = '_').length

def powerRest : List Char → Nat
  | e :: s :: cs =>
    if e = 'e' || e = 'E' then
      if s = '+' || s = '-' then 2 + digits cs else 1 + digits (s :: cs)
    else 0
  | _ => 0

/-- The rest of a number that begins with `first`. -/
def numberRest (first : Char) (cs : List Char) : Nat :=
  let based := match cs with
    | b :: _ => first = '0' && "xXoObB".toList.contains b
    | [] => false
  if based then (cs.takeWhile isWordChar).length
  else
    let whole := digits cs
    let after := cs.drop whole
    let fraction := match after with
      | '.' :: r => if first = '.' then 0 else 1 + digits r
      | _ => 0
    let before := whole + fraction
    let power := powerRest (cs.drop before)
    let big := if (cs.drop (before + power)).head? = some 'n' then 1 else 0
    before + power + big

/-- The rest of a string after its opening quote, with the closing one; a string ends on its line
unless the line break is escaped. -/
def stringRest? (quote : Char) : List Char → Option Nat
  | [] => none
  | '\\' :: '\r' :: '\n' :: cs => (stringRest? quote cs).map (3 + ·)
  | '\\' :: _ :: cs => (stringRest? quote cs).map (2 + ·)
  | c :: cs =>
    if c = quote then some 1
    else if c = '\n' || c = '\r' then none
    else (stringRest? quote cs).map (1 + ·)

/-- The rest of a regular expression, with its closing slash; `inClass` between square brackets,
where a slash stands for itself. -/
def regexBody? (inClass : Bool) : List Char → Option Nat
  | [] => none
  | '\\' :: c :: cs => if c = '\n' then none else (regexBody? inClass cs).map (2 + ·)
  | c :: cs =>
    if c = '\n' then none
    else if c = '/' && !inClass then some 1
    else (regexBody? (if c = '[' then true else if c = ']' then false else inClass) cs).map (1 + ·)

def regexRest? (cs : List Char) : Option Nat :=
  (regexBody? false cs).map fun n =>
    n + ((cs.drop n).takeWhile fun c => 'a' ≤ c && c ≤ 'z').length

def lineRest (cs : List Char) : Nat := (cs.takeWhile fun c => !isLineBreak c).length

/-- The rest of a comment that ends with a star and a slash. -/
def blockRest : List Char → Nat
  | '*' :: '/' :: _ => 2
  | _ :: cs => 1 + blockRest cs
  | [] => 0

/-- Marks of several characters, longer ones before those they begin with. A closing angle bracket
always stands alone, since several may close one after another. -/
def longMarks : List (List Char) :=
  ["...", "===", "!==", "**=", "<<=", "&&=", "||=", "??=", "=>", "==", "!=", "<=", "&&", "||", "??",
    "++", "--", "+=", "-=", "*=", "/=", "%=", "&=", "|=", "^=", "<<", "**"].map String.toList

def markRest (first : Char) (cs : List Char) : Nat :=
  match first, cs with
  | '?', '.' :: d :: _ => if Text.isDigit d then 0 else 1
  | '?', ['.'] => 1
  | _, _ =>
    match longMarks.find? fun m => m.isPrefixOf (first :: cs) with
    | some m => m.length - 1
    | none => 0

end TestScout.Syntax.Lexeme
