import TestScout.Text.Shown

/-!
A text in double quotes with everything that would not be seen spelled out, as messages show texts
they complain about.
-/

namespace TestScout.Text

/-- How one character is written inside the quotes. -/
def quotedChar (c : Char) : List Char :=
  if c = '\x00' then ['\\', '0']
  else if c = '\t' then ['\\', 't']
  else if c = '\r' then ['\\', 'r']
  else if c = '\n' then ['\\', 'n']
  else if c = '"' then ['\\', '"']
  else if c = '\\' then ['\\', '\\']
  else if isShown c then [c]
  else ['\\', 'u', '{'] ++ Nat.toDigits 16 c.toNat ++ ['}']

def quoted (s : String) : String :=
  String.ofList ('"' :: s.toList.flatMap quotedChar ++ ['"'])

def quotedList (parts : List String) : String :=
  "[" ++ ", ".intercalate (parts.map quoted) ++ "]"

end TestScout.Text
