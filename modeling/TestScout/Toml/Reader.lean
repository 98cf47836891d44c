import TestScout.Text.Hex
import TestScout.Toml.Value
import TestScout.Toml.Writer
import TestScout.Text.Numeral

/-!
Reading TOML 1.0. Every reader takes something off the front of the characters and gives what it
found with what follows, or nothing if it is not there. A document is a sequence of lines, each with
a header or a key and its value; a value can take several lines.
-/

namespace TestScout.Toml

/-! ### Blanks and comments -/

def skipBlanks (cs : List Char) : List Char := cs.dropWhile fun c => c = ' ' || c = '\t'

def newLine? : List Char → Option (List Char)
  | '\n' :: cs => some cs
  | '\r' :: '\n' :: cs => some cs
  | _ => none

def skipComment (cs : List Char) : List Char :=
  match cs with
  | '#' :: rest => rest.dropWhile fun c => c ≠ '\n' && !isControl c
  | cs => cs

/-- What follows the end of a line that holds nothing more. -/
def endLine? (cs : List Char) : Option (List Char) :=
  match skipComment (skipBlanks cs) with
  | [] => some []
  | rest => newLine? rest

/-- What follows blanks, comments and ends of lines. -/
def skipLines (fuel : Nat) (cs : List Char) : List Char :=
  match fuel with
  | 0 => cs
  | fuel + 1 =>
    let rest := skipComment (skipBlanks cs)
    match newLine? rest with
    | some more => skipLines fuel more
    | none => rest

/-- What follows everything that can stand between the items of an array. -/
def skipIdle (cs : List Char) : List Char := skipLines cs.length cs

/-! ### Texts -/

def takeEscape : List Char → Option (Char × List Char)
  | 'b' :: cs => some ('\x08', cs)
  | 't' :: cs => some ('\t', cs)
  | 'n' :: cs => some ('\n', cs)
  | 'f' :: cs => some ('\x0c', cs)
  | 'r' :: cs => some ('\r', cs)
  | '"' :: cs => some ('"', cs)
  | '\\' :: cs => some ('\\', cs)
  | 'u' :: cs => ((Text.hexFront? 4 cs).bind Text.charOf?).map (·, cs.drop 4)
  | 'U' :: cs => ((Text.hexFront? 8 cs).bind Text.charOf?).map (·, cs.drop 8)
  | _ => none

/-- The rest of a text in quotes on one line. -/
def takeQuoted (fuel : Nat) (acc : List Char) (cs : List Char) : Option (List Char × List Char) :=
  match fuel with
  | 0 => none
  | fuel + 1 =>
    match cs with
    | '"' :: rest => some (acc.reverse, rest)
    | '\\' :: rest =>
      match takeEscape rest with
      | some (c, more) => takeQuoted fuel (c :: acc) more
      | none => none
    | c :: rest => if c = '\n' || isControl c then none else takeQuoted fuel (c :: acc) rest
    | [] => none

def takeLiteral (acc : List Char) : List Char → Option (List Char × List Char)
  | '\'' :: rest => some (acc.reverse, rest)
  | c :: rest => if c = '\n' || isControl c then none else takeLiteral (c :: acc) rest
  | [] => none

/-- What follows a backslash at the end of a line, with all blanks and ends of lines after it. -/
def skipFold? (cs : List Char) : Option (List Char) :=
  (newLine? (skipBlanks cs)).map fun rest =>
    rest.dropWhile fun c => c = ' ' || c = '\t' || c = '\n' || c = '\r'

/-- The rest of a text in quotes over several lines. Up to two quotes more than the three that end
it belong to it. -/
def takeQuotedLines (fuel : Nat) (acc : List Char) (cs : List Char) :
    Option (List Char × List Char) :=
  match fuel with
  | 0 => none
  | fuel + 1 =>
    match cs with
    | '"' :: '"' :: '"' :: '"' :: '"' :: rest => some (('"' :: '"' :: acc).reverse, rest)
    | '"' :: '"' :: '"' :: '"' :: rest => some (('"' :: acc).reverse, rest)
    | '"' :: '"' :: '"' :: rest => some (acc.reverse, rest)
    | '"' :: rest => takeQuotedLines fuel ('"' :: acc) rest
    | '\\' :: rest =>
      match takeEscape rest, skipFold? rest with
      | some (c, more), _ => takeQuotedLines fuel (c :: acc) more
      | none, some more => takeQuotedLines fuel acc more
      | none, none => none
    | '\r' :: '\n' :: rest => takeQuotedLines fuel ('\n' :: acc) rest
    | c :: rest => if isControl c then none else takeQuotedLines fuel (c :: acc) rest
    | [] => none

/-- The rest of a literal text over several lines. -/
def takeLiteralLines (acc : List Char) : List Char → Option (List Char × List Char)
  | '\'' :: '\'' :: '\'' :: '\'' :: '\'' :: rest => some (('\'' :: '\'' :: acc).reverse, rest)
  | '\'' :: '\'' :: '\'' :: '\'' :: rest => some (('\'' :: acc).reverse, rest)
  | '\'' :: '\'' :: '\'' :: rest => some (acc.reverse, rest)
  | '\r' :: '\n' :: rest => takeLiteralLines ('\n' :: acc) rest
  | c :: rest => if isControl c then none else takeLiteralLines (c :: acc) rest
  | [] => none

/-- The characters without a line break at the front. -/
def trimStart (cs : List Char) : List Char := (newLine? cs).getD cs

def takeText (cs : List Char) : Option (List Char × List Char) :=
  match cs with
  | '"' :: '"' :: '"' :: rest => takeQuotedLines (rest.length + 1) [] (trimStart rest)
  | '"' :: rest => takeQuoted (rest.length + 1) [] rest
  | '\'' :: '\'' :: '\'' :: rest => takeLiteralLines [] (trimStart rest)
  | '\'' :: rest => takeLiteral [] rest
  | _ => none

/-! ### Keys -/

def takeName (cs : List Char) : Option (String × List Char) :=
  match cs with
  | '"' :: rest => (takeQuoted (rest.length + 1) [] rest).map fun (s, r) => (String.ofList s, r)
  | '\'' :: rest => (takeLiteral [] rest).map fun (s, r) => (String.ofList s, r)
  | cs =>
    let name := cs.takeWhile isBare
    if name.isEmpty then none else some (String.ofList name, cs.drop name.length)

/-- The names of a key with points between them, the last one apart. -/
def takeKey (fuel : Nat) (path : List String) (cs : List Char) :
    Option ((List String × String) × List Char) :=
  match fuel with
  | 0 => none
  | fuel + 1 =>
    match takeName (skipBlanks cs) with
    | none => none
    | some (name, rest) =>
      match skipBlanks rest with
      | '.' :: more => takeKey fuel (path ++ [name]) more
      | more => some ((path, name), more)

/-- How many names a key can have, and how deep values can be nested. -/
def maxDepth : Nat := 79

/-! ### Numbers and dates -/

/-- Whether digits are separated properly: an underscore stands between two of them. -/
def wellSeparated (isDigit : Char → Bool) : List Char → Bool
  | [] => false
  | [c] => isDigit c
  | c :: '_' :: rest => isDigit c && wellSeparated isDigit rest
  | c :: rest => isDigit c && wellSeparated isDigit rest

/-- The value of digits in a base, which may have underscores between them. -/
def digitsValue? (base : Nat) (cs : List Char) : Option Nat :=
  let valid (c : Char) : Bool := (Text.hexValue? c).any (· < base)
  if wellSeparated valid cs then
    some ((cs.filterMap Text.hexValue?).foldl (fun n d => n * base + d) 0)
  else none

/-- The value of decimal digits without leading zeros. -/
def plainValue? (cs : List Char) : Option Nat :=
  if cs.length ≠ 1 && cs.head? = some '0' then none else digitsValue? 10 cs

/-- An integer in the range of sixty-four bits. -/
def integer? (cs : List Char) : Option Int :=
  let value? : Option Int := match cs with
    | '0' :: 'x' :: ds => (digitsValue? 16 ds).map Int.ofNat
    | '0' :: 'o' :: ds => (digitsValue? 8 ds).map Int.ofNat
    | '0' :: 'b' :: ds => (digitsValue? 2 ds).map Int.ofNat
    | '-' :: ds => (plainValue? ds).map fun n => -(n : Int)
    | '+' :: ds => (plainValue? ds).map Int.ofNat
    | ds => (plainValue? ds).map Int.ofNat
  value?.filter fun n => -0x8000000000000000 ≤ n && n < 0x8000000000000000

def isPower (cs : List Char) : Bool :=
  match cs with
  | '+' :: ds => wellSeparated Text.isDigit ds
  | '-' :: ds => wellSeparated Text.isDigit ds
  | ds => wellSeparated Text.isDigit ds

def isFloat (cs : List Char) : Bool :=
  let body := match cs with
    | '+' :: rest => rest
    | '-' :: rest => rest
    | rest => rest
  if body = "inf".toList || body = "nan".toList then true
  else
    let whole := body.takeWhile fun c => Text.isDigit c || c = '_'
    let after := body.drop whole.length
    (plainValue? whole).isSome && match after with
      | '.' :: rest =>
        let fraction := rest.takeWhile fun c => Text.isDigit c || c = '_'
        wellSeparated Text.isDigit fraction && match rest.drop fraction.length with
          | [] => true
          | e :: power => (e = 'e' || e = 'E') && isPower power
      | e :: power => (e = 'e' || e = 'E') && isPower power
      | [] => false

/-- A number of exactly `n` decimal digits at the front, in a range. -/
def takeField (n low high : Nat) (cs : List Char) : Option (Nat × List Char) :=
  let ds := cs.take n
  let value := Text.decimalValue ds
  if ds.length = n && ds.all Text.isDigit && low ≤ value && value ≤ high then
    some (value, cs.drop n)
  else none

def after? (c : Char) (cs : List Char) : Option (List Char) :=
  match cs with
  | d :: rest => if d = c then some rest else none
  | [] => none

def daysIn (year month : Nat) : Nat :=
  if month = 2 then
    if year % 4 = 0 && (year % 100 ≠ 0 || year % 400 = 0) then 29 else 28
  else if month = 4 || month = 6 || month = 9 || month = 11 then 30
  else 31

def skipDate? (cs : List Char) : Option (List Char) := do
  let (year, cs) ← takeField 4 0 9999 cs
  let (month, cs) ← takeField 2 1 12 (← after? '-' cs)
  let (_, cs) ← takeField 2 1 (daysIn year month) (← after? '-' cs)
  return cs

/-- The digits of a second after its point that count: nine at most, and no zeros at the end. -/
def fractionText (ds : List Char) : List Char :=
  let kept := ((ds.take 9).reverse.dropWhile (· = '0')).reverse
  if kept.isEmpty then [] else '.' :: kept

/-- A time of day as it is shown, and what follows. -/
def takeTime (cs : List Char) : Option (List Char × List Char) := do
  let (_, r) ← takeField 2 0 23 cs
  let (_, r) ← takeField 2 0 59 (← after? ':' r)
  let (_, r) ← takeField 2 0 60 (← after? ':' r)
  match r with
  | '.' :: more =>
    let ds := more.takeWhile Text.isDigit
    if ds.isEmpty then none
    else return (cs.take 8 ++ fractionText ds, more.drop ds.length)
  | _ => return (cs.take 8, r)

/-- A distance from universal time as it is shown, if one is written, and what follows. -/
def takeOffset (cs : List Char) : Option (List Char × List Char) :=
  match cs with
  | 'Z' :: rest => some (['Z'], rest)
  | 'z' :: rest => some (['Z'], rest)
  | s :: rest =>
    if s = '+' || s = '-' then do
      let (_, r) ← takeField 2 0 23 rest
      let (_, r) ← takeField 2 0 59 (← after? ':' r)
      return (s :: rest.take 5, r)
    else some ([], cs)
  | [] => some ([], [])

/-- A date, a time, or both, as it is shown, and what follows. -/
def takeMoment (cs : List Char) : Option (String × List Char) :=
  match skipDate? cs with
  | none => (takeTime cs).map fun (t, r) => (String.ofList t, r)
  | some rest =>
    let date := cs.take 10
    match rest with
    | s :: more =>
      if s = 'T' || s = 't' || (s = ' ' && more.head?.any Text.isDigit) then do
        let (time, r) ← takeTime more
        let (offset, r) ← takeOffset r
        return (String.ofList (date ++ 'T' :: time ++ offset), r)
      else some (String.ofList date, rest)
    | [] => some (String.ofList date, [])

/-- A number, a date or a word at the front. -/
def takeScalar (cs : List Char) : Option (Value × List Char) :=
  match takeMoment cs with
  | some (text, rest) => some (.date text, rest)
  | none =>
    let token := cs.takeWhile fun c => c.isAlphanum || c = '_' || c = '+' || c = '-' || c = '.'
    let rest := cs.drop token.length
    if token = "true".toList then some (.bool true, rest)
    else if token = "false".toList then some (.bool false, rest)
    else match integer? token with
      | some n => some (.int n, rest)
      | none => if isFloat token then some (.float, rest) else none

/-! ### Values -/

mutual

/-- A value, which may hold others `depth` levels deep. -/
def takeValue (fuel depth : Nat) (cs : List Char) : Option (Value × List Char) :=
  match fuel with
  | 0 => none
  | fuel + 1 =>
    match cs with
    | '"' :: _ => (takeText cs).map fun (s, r) => (.str (String.ofList s), r)
    | '\'' :: _ => (takeText cs).map fun (s, r) => (.str (String.ofList s), r)
    | '[' :: rest =>
      match depth with
      | 0 => none
      | depth + 1 => takeItems fuel depth [] (skipIdle rest)
    | '{' :: rest =>
      match depth with
      | 0 => none
      | depth + 1 =>
        match skipBlanks rest with
        | '}' :: r => some (.whole [], r)
        | r => takeMembers fuel depth ⟨false, false, []⟩ r
    | _ => takeScalar cs

/-- The items of an array from the next one on, or its end. -/
def takeItems (fuel depth : Nat) (acc : List Value) (cs : List Char) : Option (Value × List Char) :=
  match fuel with
  | 0 => none
  | fuel + 1 =>
    match cs with
    | ']' :: rest => some (.arr acc.reverse, rest)
    | _ =>
      match takeValue fuel depth cs with
      | none => none
      | some (v, rest) =>
        match skipIdle rest with
        | ',' :: r => takeItems fuel depth (v :: acc) (skipIdle r)
        | ']' :: r => some (.arr (v :: acc).reverse, r)
        | _ => none

/-- The members of a table in braces from the next one on. -/
def takeMembers (fuel depth : Nat) (table : Table) (cs : List Char) :
    Option (Value × List Char) :=
  match fuel with
  | 0 => none
  | fuel + 1 =>
    match takeKey maxDepth [] cs with
    | some ((path, key), '=' :: rest) =>
      match takeValue fuel depth (skipBlanks rest) with
      | none => none
      | some (v, rest) =>
        match table.put? path key v, skipBlanks rest with
        | some table, ',' :: r => takeMembers fuel depth table r
        | some table, '}' :: r => some (.whole table.entries, r)
        | _, _ => none
    | _ => none

end

/-! ### Documents -/

/-- What has been read of a document: its tables, and the path that keys are put under. -/
structure Document where
  root : Table
  path : List String

namespace Document

def start : Document := ⟨⟨false, false, []⟩, []⟩

/-- A header after its opening brackets, which are closed by `close`. -/
def header? (d : Document) (open? : Table → List String → String → Option Table)
    (close : List Char) (cs : List Char) : Option (Document × List Char) := do
  let ((path, key), rest) ← takeKey maxDepth [] cs
  if close.isPrefixOf rest then
    return (⟨← open? d.root path key, path ++ [key]⟩, rest.drop close.length)
  else none

def entry? (d : Document) (cs : List Char) : Option (Document × List Char) := do
  let ((path, key), rest) ← takeKey maxDepth [] cs
  let (v, rest) ← takeValue (2 * rest.length + 2) maxDepth (skipBlanks (← after? '=' rest))
  return ({ d with root := ← d.root.change? false (fun t => t.put? path key v) d.path }, rest)

/-- What a line says, and what follows on it. -/
def statement? (d : Document) (cs : List Char) : Option (Document × List Char) :=
  match cs with
  | '[' :: '[' :: rest => d.header? Table.addTable? "]]".toList rest
  | '[' :: rest => d.header? Table.openTable? "]".toList rest
  | cs => d.entry? cs

def lines? (fuel : Nat) (d : Document) (cs : List Char) : Option Document :=
  match fuel with
  | 0 => none
  | fuel + 1 =>
    match skipBlanks cs with
    | [] => some d
    | c :: rest =>
      match endLine? (c :: rest) with
      | some more => lines? fuel d more
      | none =>
        match d.statement? (c :: rest) with
        | none => none
        | some (d, more) =>
          match endLine? more with
          | some more => lines? fuel d more
          | none => none

end Document

/-- The root table of a document. A mark of the byte order at its beginning is passed over. -/
def ofText? (text : String) : Option Table :=
  let cs := match text.toList with
    | '\uFEFF' :: cs => cs
    | cs => cs
  (Document.start.lines? (cs.length + 1) cs).map (·.root)

end TestScout.Toml
