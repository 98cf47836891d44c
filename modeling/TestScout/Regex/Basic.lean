import TestScout.Regex.CharSet

/-!
Regular expressions and what they match. What an expression means in a text is a relation between
places in it: `ends text r i` lists the places that `r` leads to from the `i`th character on. A text
matches if the expression leads anywhere from some place of it.
-/

namespace TestScout

inductive Assertion where
  | textStart
  | textEnd
  | lineStart
  | lineEnd
  | boundary
  | inside
  | wordStart
  | wordEnd
  | noWordBefore
  | noWordAfter
  deriving DecidableEq, Repr

/-- Whether a condition holds between two characters, either of which may be missing. Words are made
of the characters in `letters`. -/
def Assertion.holds (letters : CharSet) (before after : Option Char) : Assertion → Bool
  | textStart => before.isNone
  | textEnd => after.isNone
  | lineStart => before.isNone || before = some '\n'
  | lineEnd => after.isNone || after = some '\n'
  | boundary => before.any letters.contains != after.any letters.contains
  | inside => before.any letters.contains == after.any letters.contains
  | wordStart => !before.any letters.contains && after.any letters.contains
  | wordEnd => before.any letters.contains && !after.any letters.contains
  | noWordBefore => !before.any letters.contains
  | noWordAfter => !after.any letters.contains

inductive Regex where
  | empty
  | one (set : CharSet)
  | assert (letters : CharSet) (a : Assertion)
  | seq (a b : Regex)
  | alt (a b : Regex)
  | times (r : Regex) (least : Nat) (most : Option Nat)
  deriving DecidableEq, Repr, Inhabited

namespace Regex

/-- One expression after another. -/
def all (rs : List Regex) : Regex := rs.foldr seq empty

/-- One expression or another. -/
def any : List Regex → Regex
  | [] => empty
  | [r] => r
  | r :: rs => alt r (any rs)

def before (text : Array Char) (i : Nat) : Option Char := if i = 0 then none else text[i - 1]?

/-- The places reached in exactly `n` steps. -/
def exactly (next : Nat → List Nat) : Nat → List Nat → List Nat
  | 0, places => places
  | n + 1, places =>
    if places.isEmpty then [] else exactly next n (places.flatMap next).eraseDups

/-- The places reached in at most `n` steps, until no new ones turn up. -/
def upTo (next : Nat → List Nat) : Nat → List Nat → List Nat
  | 0, places => places
  | n + 1, places =>
    let more := (places ++ places.flatMap next).eraseDups
    if more.length = places.length then places else upTo next n more

/-- The places that an expression leads to from a place. -/
def ends (text : Array Char) : Regex → Nat → List Nat
  | empty, i => [i]
  | one set, i => if text[i]?.any set.contains then [i + 1] else []
  | assert letters a, i => if a.holds letters (before text i) text[i]? then [i] else []
  | seq a b, i => ((ends text a i).flatMap (ends text b)).eraseDups
  | alt a b, i => ends text a i ++ ends text b i
  | times r least most, i =>
    let reached := exactly (ends text r) least [i]
    upTo (ends text r) (match most with
      | some m => min (m - least) (text.size + 1)
      | none => text.size + 1) reached.eraseDups

/-- Whether an expression matches somewhere in a text. -/
def isMatch (r : Regex) (s : String) : Bool :=
  let text := s.toList.toArray
  (List.range (text.size + 1)).any fun i => !(ends text r i).isEmpty

end Regex

end TestScout
