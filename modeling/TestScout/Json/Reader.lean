import TestScout.Json.Basic
import TestScout.Text.Hex
import TestScout.Text.Numeral

/-!
Reading JSON. Members of an object come out ordered by name, each name once; where a text gives a
name twice, the later member counts. A number without fraction and power that fits in sixty-four
bits is an integer, every other number is floating-point.
-/

namespace TestScout.Json

def skipBlanks (cs : List Char) : List Char :=
  cs.dropWhile fun c => c = ' ' || c = '\t' || c = '\n' || c = '\r'

/-- The character that a backslash and `c` stand for. -/
def simpleEscape? (c : Char) : Option Char :=
  match c with
  | '"' => some '"'
  | '\\' => some '\\'
  | '/' => some '/'
  | 'b' => some '\x08'
  | 'f' => some '\x0c'
  | 'n' => some '\n'
  | 'r' => some '\r'
  | 't' => some '\t'
  | _ => none

/-- The rest of a string whose opening quote has been read, and what follows its closing quote. A
high surrogate waits in `high` for the low one that completes it; one left alone is U+FFFD. -/
def stringTail (high : Option Nat) (acc : List Char) : List Char → Option (String × List Char)
  | [] => none
  | '"' :: rest => some (String.ofList (flush acc).reverse, rest)
  | '\\' :: 'u' :: a :: b :: c :: d :: rest =>
    match Text.hexNumber? [a, b, c, d] with
    | none => none
    | some u =>
      if Text.isLowUnit u then
        match high with
        | some h =>
          stringTail none (Char.ofNat (Text.pairValue h u) :: acc) rest
        | none => stringTail none ('\uFFFD' :: acc) rest
      else if Text.isHighUnit u then stringTail (some u) (flush acc) rest
      else stringTail none (Char.ofNat u :: flush acc) rest
  | '\\' :: c :: rest =>
    match simpleEscape? c with
    | some v => stringTail none (v :: flush acc) rest
    | none => none
  | c :: rest => stringTail none (c :: flush acc) rest
where
  flush (acc : List Char) : List Char :=
    match high with
    | some _ => '\uFFFD' :: acc
    | none => acc

def takeDigits (cs : List Char) : List Char × List Char := cs.span Text.isDigit

/-- A number from its parts: the digits before and after the point, and the power of ten. -/
def numberOf (negative : Bool) (whole fraction : List Char) (power : Option Int) : Json :=
  let integer := Text.decimalValue whole
  let fits :=
    if negative then 0 < integer && integer ≤ 0x8000000000000000 else integer < 0x10000000000000000
  if fraction.isEmpty && power.isNone && fits then
    .int (if negative then -(integer : Int) else integer)
  else
    let exponent := power.getD 0 - fraction.length
    let size := Float.ofScientific (Text.decimalValue (whole ++ fraction)) (decide (exponent < 0))
      exponent.natAbs
    .float (if negative then -size else size).toBits

/-- The power of ten of a number, if one is written. -/
def takePower (cs : List Char) : Option (Option Int × List Char) :=
  match cs with
  | e :: rest =>
    if e = 'e' || e = 'E' then
      let (negative, rest) := match rest with
        | '-' :: r => (true, r)
        | '+' :: r => (false, r)
        | r => (false, r)
      let (ds, rest) := takeDigits rest
      if ds.isEmpty then none
      else
        let n : Int := Text.decimalValue ds
        some (some (if negative then -n else n), rest)
    else some (none, cs)
  | [] => some (none, cs)

def takeNumber (cs : List Char) : Option (Json × List Char) :=
  let (negative, cs) := match cs with
    | '-' :: r => (true, r)
    | r => (false, r)
  let (whole, rest) := takeDigits cs
  if whole.isEmpty || (whole.length ≠ 1 && whole.head? = some '0') then none
  else
    let (fraction, rest', dot) := match rest with
      | '.' :: r => let (ds, r') := takeDigits r; (ds, r', true)
      | r => ([], r, false)
    if dot && fraction.isEmpty then none
    else (takePower rest').map fun (power, r) => (numberOf negative whole fraction power, r)

/-- What follows `word` if the characters begin with it. -/
def after? (word : List Char) (cs : List Char) : Option (List Char) :=
  if word.isPrefixOf cs then some (cs.drop word.length) else none

mutual

/-- A value at the front, and what follows it. Every step down takes a character at least. -/
def takeValue (fuel : Nat) (cs : List Char) : Option (Json × List Char) :=
  match fuel with
  | 0 => none
  | fuel + 1 =>
    match skipBlanks cs with
    | '"' :: rest => (stringTail none [] rest).map fun (s, r) => (.str s, r)
    | '[' :: rest =>
      match skipBlanks rest with
      | ']' :: r => some (.arr [], r)
      | r => takeItems fuel [] r
    | '{' :: rest =>
      match skipBlanks rest with
      | '}' :: r => some (.obj [], r)
      | r => takeMembers fuel Dict.empty r
    | 't' :: rest => (after? "rue".toList rest).map fun r => (.bool true, r)
    | 'f' :: rest => (after? "alse".toList rest).map fun r => (.bool false, r)
    | 'n' :: rest => (after? "ull".toList rest).map fun r => (.null, r)
    | r => takeNumber r

/-- The items of an array from the next one on. -/
def takeItems (fuel : Nat) (acc : List Json) (cs : List Char) : Option (Json × List Char) :=
  match fuel with
  | 0 => none
  | fuel + 1 =>
    match takeValue fuel cs with
    | none => none
    | some (v, rest) =>
      match skipBlanks rest with
      | ',' :: r => takeItems fuel (v :: acc) r
      | ']' :: r => some (.arr (v :: acc).reverse, r)
      | _ => none

def takeMembers (fuel : Nat) (acc : Dict Json) (cs : List Char) : Option (Json × List Char) :=
  match fuel with
  | 0 => none
  | fuel + 1 =>
    match skipBlanks cs with
    | '"' :: rest =>
      match stringTail none [] rest with
      | none => none
      | some (name, rest) =>
        match skipBlanks rest with
        | ':' :: rest =>
          match takeValue fuel rest with
          | none => none
          | some (v, rest) =>
            match skipBlanks rest with
            | ',' :: r => takeMembers fuel (acc.insert name v) r
            | '}' :: r => some (.obj (acc.insert name v).entries, r)
            | _ => none
        | _ => none
    | _ => none

end

def ofText? (text : String) : Option Json :=
  let cs := text.toList
  match takeValue (2 * cs.length + 2) cs with
  | some (v, rest) => if (skipBlanks rest).isEmpty then some v else none
  | none => none

end TestScout.Json
