import TestScout.Json.Basic

/-!
Writing JSON: on one line without blanks, or over several lines with two blanks of indentation a
level. In a string only quotes, backslashes and control characters are escaped.
-/

namespace TestScout.Json

def fourHex (n : Nat) : List Char :=
  let ds := Nat.toDigits 16 n
  List.replicate (4 - ds.length) '0' ++ ds

/-- How one character is written inside a string. -/
def stringChar (c : Char) : List Char :=
  if c = '"' then ['\\', '"']
  else if c = '\\' then ['\\', '\\']
  else if c = '\x08' then ['\\', 'b']
  else if c = '\x0c' then ['\\', 'f']
  else if c = '\n' then ['\\', 'n']
  else if c = '\r' then ['\\', 'r']
  else if c = '\t' then ['\\', 't']
  else if c.toNat < 0x20 then '\\' :: 'u' :: fourHex c.toNat
  else [c]

def stringText (s : String) : List Char := '"' :: s.toList.flatMap stringChar ++ ['"']

/-- The text of a value that has no parts. -/
def scalarText : Json → List Char
  | .null => "null".toList
  | .bool true => "true".toList
  | .bool false => "false".toList
  | .int n => (toString n).toList
  | .float bits => (Decimal.floatText floatLayout bits).toList
  | .str s => stringText s
  | .arr _ => "[]".toList
  | .obj _ => "\x7b\x7d".toList

mutual

/-- The text of a value on one line. -/
def lineChars : Json → List Char
  | .arr (item :: items) => '[' :: lineChars item ++ lineItems items ++ [']']
  | .obj (member :: members) =>
    '{' :: stringText member.1 ++ ':' :: lineChars member.2 ++ lineMembers members ++ ['}']
  | v => scalarText v

/-- The items after the first, each with the comma before it. -/
def lineItems : List Json → List Char
  | [] => []
  | item :: items => ',' :: lineChars item ++ lineItems items

def lineMembers : List (String × Json) → List Char
  | [] => []
  | (name, v) :: members => ',' :: stringText name ++ ':' :: lineChars v ++ lineMembers members

end

def line (v : Json) : String := String.ofList (lineChars v)

/-- A new line at a level of indentation. -/
def newLine (level : Nat) : List Char := '\n' :: List.replicate (2 * level) ' '

mutual

/-- The text of a value over several lines, whose first line is already indented. -/
def prettyChars (level : Nat) : Json → List Char
  | .arr (item :: items) =>
    '[' :: newLine (level + 1) ++ prettyChars (level + 1) item ++ prettyItems (level + 1) items ++
      newLine level ++ [']']
  | .obj (member :: members) =>
    '{' :: newLine (level + 1) ++ stringText member.1 ++ ':' :: ' ' ::
      prettyChars (level + 1) member.2 ++ prettyMembers (level + 1) members ++
      newLine level ++ ['}']
  | v => scalarText v

/-- The items after the first, each on a line of its own. -/
def prettyItems (level : Nat) : List Json → List Char
  | [] => []
  | item :: items => ',' :: newLine level ++ prettyChars level item ++ prettyItems level items

def prettyMembers (level : Nat) : List (String × Json) → List Char
  | [] => []
  | (name, v) :: members =>
    ',' :: newLine level ++ stringText name ++ ':' :: ' ' :: prettyChars level v ++
      prettyMembers level members

end

def pretty (v : Json) : String := String.ofList (prettyChars 0 v)

end TestScout.Json
