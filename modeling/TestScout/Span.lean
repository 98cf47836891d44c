/-!
A stretch of a text, by the byte offsets of its ends.
-/

namespace TestScout

/-- The bytes from `start` up to, and not including, `stop`. -/
structure Span where
  start : Nat
  stop : Nat
  deriving DecidableEq, Repr, Inhabited

namespace Span

/-- The part of `text` that a stretch covers, if both ends lie between characters. -/
def text? (s : Span) (text : String) : Option String := do
  let a ← text.pos? ⟨s.start⟩
  let b ← text.pos? ⟨s.stop⟩
  return text.extract a b

end Span

end TestScout
