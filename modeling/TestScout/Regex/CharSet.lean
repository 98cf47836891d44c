import TestScout.Text.DecimalDigit
import TestScout.Text.WordChar

/-!
Sets of characters as regular expressions write them.
-/

namespace TestScout

inductive CharSet where
  | range (low high : Char)
  | digit
  | word
  | space
  | none
  | compl (s : CharSet)
  | union (s t : CharSet)
  | inter (s t : CharSet)
  | caseless (s : CharSet)
  deriving DecidableEq, Repr, Inhabited

namespace CharSet

/-- A character that separates words, of any width. -/
def isSpace (c : Char) : Bool :=
  ('\t' ≤ c && c ≤ '\r') || c = ' ' || c = '\u0085' || c = '\u00A0' || c = '\u1680' ||
    ('\u2000' ≤ c && c ≤ '\u200A') || c = '\u2028' || c = '\u2029' || c = '\u202F' ||
    c = '\u205F' || c = '\u3000'

/-- Whether a set contains a character. Letters of the Latin alphabet have a second case. -/
def contains : CharSet → Char → Bool
  | range low high, c => low ≤ c && c ≤ high
  | digit, c => Text.isDecimalDigit c
  | word, c => Text.isWordChar c
  | space, c => isSpace c
  | none, _ => false
  | compl s, c => !s.contains c
  | union s t, c => s.contains c || t.contains c
  | inter s t, c => s.contains c && t.contains c
  | caseless s, c => s.contains c || s.contains c.toLower || s.contains c.toUpper

def single (c : Char) : CharSet := range c c

def all : CharSet := compl none

/-- The characters below U+0080. -/
def ascii : CharSet := range '\x00' '\x7f'

def diff (s t : CharSet) : CharSet := inter s (compl t)

@[simp] theorem contains_single (c d : Char) : (single c).contains d = decide (d = c) := by
  rw [Bool.eq_iff_iff]
  simp only [single, contains, Bool.and_eq_true, decide_eq_true_eq]
  constructor
  · rintro ⟨h, h'⟩; exact Char.le_antisymm h' h
  · rintro rfl; exact ⟨Char.le_refl _, Char.le_refl _⟩

end CharSet

end TestScout
