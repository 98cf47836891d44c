import TestScout.Json.Printer

/-!
Writing TOML. A text is written in the plainest of five styles that can hold it: quoted, literal,
quoted over several lines, literal over several lines, and last quoted with escapes. Lists of two
items or more take one line an item.
-/

namespace TestScout.Toml

/-- A character that only an escape can write. -/
def isControl (c : Char) : Bool := (c < ' ' && c ≠ '\t' && c ≠ '\n') || c = '\x7f'

/-- Whether a character occurs three times in a row. -/
def hasRun (q : Char) : List Char → Bool
  | [] => false
  | c :: cs => [q, q, q].isPrefixOf (c :: cs) || hasRun q cs

/-- How one character other than a quote is written inside quotes. -/
def escapedChar (multi : Bool) (c : Char) : List Char :=
  if c = '\x08' then ['\\', 'b']
  else if c = '\t' then ['\\', 't']
  else if c = '\n' then (if multi then ['\n'] else ['\\', 'n'])
  else if c = '\x0c' then ['\\', 'f']
  else if c = '\r' then ['\\', 'r']
  else if c = '\\' then ['\\', '\\']
  else if isControl c then
    '\\' :: 'u' :: (Json.fourHex c.toNat).map Char.toUpper
  else [c]

/-- The inside of a quoted text, after `quotes` quotes in a row. On several lines only every third
quote of a row has to be escaped. -/
def quotedBody (multi : Bool) (quotes : Nat) : List Char → List Char
  | [] => []
  | c :: cs =>
    if c = '"' then
      if multi && quotes < 2 then '"' :: quotedBody multi (quotes + 1) cs
      else '\\' :: '"' :: quotedBody multi 0 cs
    else escapedChar multi c ++ quotedBody multi 0 cs

/-- A text in a style: `multi` for several lines, `literal` for single quotes. -/
def styled (multi literal : Bool) (cs : List Char) : List Char :=
  let quote := if literal then '\'' else '"'
  let delimiter := List.replicate (if multi then 3 else 1) quote
  let body := if literal then cs else quotedBody multi 0 cs
  delimiter ++ (if multi && cs.contains '\n' then ['\n'] else []) ++ body ++ delimiter

/-- Whether a text can stand in quotes as it is. -/
def isPlain (cs : List Char) : Bool :=
  cs.all fun c => c ≠ '"' && c ≠ '\\' && c ≠ '\n' && !isControl c

/-- Whether a text can stand in single quotes. -/
def isLiteral (cs : List Char) : Bool := cs.all fun c => c ≠ '\'' && c ≠ '\n' && !isControl c

def textChars (cs : List Char) : List Char :=
  if isPlain cs then styled false false cs
  else if isLiteral cs then styled false true cs
  else if cs.all (fun c => c ≠ '\\' && !isControl c) && !hasRun '"' cs then styled true false cs
  else if cs.all (fun c => !isControl c) && !hasRun '\'' cs then styled true true cs
  else styled (cs.contains '\n') false cs

/-- A character that a key can have without quotes. -/
def isBare (c : Char) : Bool := c.isAlphanum || c = '_' || c = '-'

def keyChars (cs : List Char) : List Char :=
  if !cs.isEmpty && cs.all isBare then cs
  else if isPlain cs then styled false false cs
  else if isLiteral cs then styled false true cs
  else styled false false cs

inductive Item where
  | text (s : String)
  | nat (n : Nat)
  | bool (b : Bool)
  | texts (items : List String)
  deriving Repr

def listChars : List String → List Char
  | [] => ['[', ']']
  | [s] => '[' :: textChars s.toList ++ [']']
  | items =>
    '[' :: '\n' ::
      items.flatMap (fun s => "    ".toList ++ textChars s.toList ++ [',', '\n']) ++ [']']

def Item.chars : Item → List Char
  | .text s => textChars s.toList
  | .nat n => Nat.toDigits 10 n
  | .bool true => "true".toList
  | .bool false => "false".toList
  | .texts items => listChars items

/-- One line or more with a key and its value. -/
def entryChars (e : String × Item) : List Char :=
  keyChars e.1.toList ++ " = ".toList ++ e.2.chars ++ ['\n']

structure Section where
  header : List String
  entries : List (String × Item)
  deriving Repr

def Section.chars (s : Section) : List Char :=
  '[' :: ['.'].intercalate (s.header.map fun k => keyChars k.toList) ++ [']', '\n'] ++
    s.entries.flatMap entryChars

/-- The text of several tables, with a blank line between them. -/
def document (sections : List Section) : String :=
  String.ofList (['\n'].intercalate (sections.map Section.chars))

end TestScout.Toml
