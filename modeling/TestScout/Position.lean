import TestScout.Span
import TestScout.Text.Utf8

/-!
Places in a text as editors count them: the line, from zero, and the column in it, in units of
sixteen bits. A table of the lines is made once for a text; a byte offset belongs to the last line
that begins at or before it, and an offset within a character means the place before that
character.
-/

namespace TestScout

structure Position where
  line : Nat
  character : Nat
  deriving DecidableEq, Repr, Inhabited

structure TextRange where
  start : Position
  stop : Position
  deriving DecidableEq, Repr, Inhabited

/-- How many units of sixteen bits a character takes. -/
def Char.units (c : Char) : Nat := if c.toNat < 0x10000 then 1 else 2

def unitCount : List Char → Nat
  | [] => 0
  | c :: cs => Char.units c + unitCount cs

/-- A line of a text: the byte offset at which it begins, and its characters up to and with the line
break. -/
structure Line where
  start : Nat
  chars : List Char
  deriving DecidableEq, Repr, Inhabited

/-- The lines of the characters from `start` on; those of the first line that come before them are
in `before`, the last one first. -/
def linesFrom (start : Nat) (before : List Char) : List Char → List Line
  | [] => [⟨start, before.reverse⟩]
  | c :: cs =>
    if c = '\n' then
      ⟨start, (c :: before).reverse⟩ :: linesFrom (start + Text.byteCount (c :: before)) [] cs
    else linesFrom start (c :: before) cs

structure LineTable where
  lines : List Line

namespace LineTable

def ofText (text : String) : LineTable := ⟨linesFrom 0 [] text.toList⟩

/-- The characters at the front that fit into some bytes. -/
def fitting (n : Nat) : List Char → List Char
  | [] => []
  | c :: cs => if c.utf8Size ≤ n then c :: fitting (n - c.utf8Size) cs else []

/-- The place of a byte offset. An offset after the end means the end. -/
def position (t : LineTable) (offset : Nat) : Position :=
  let reached := t.lines.takeWhile fun l => l.start ≤ offset
  match reached.getLast? with
  | some l => ⟨reached.length - 1, unitCount (fitting (offset - l.start) l.chars)⟩
  | none => ⟨0, 0⟩

def range (t : LineTable) (s : Span) : TextRange := ⟨t.position s.start, t.position s.stop⟩

end LineTable

end TestScout
