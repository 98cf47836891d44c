import TestScout.Action
import TestScout.Position

/-!
Lenses: what an editor shows above a declaration, with the command that a click on it executes. The
command carries the declaration along, so an offer whose declaration has no JSON form is left out.
-/

namespace TestScout

structure Lens where
  range : TextRange
  title : String
  command : String
  argument : Json

namespace Lens

def ofOffer (t : LineTable) (o : Offer) : Except Failure Lens :=
  o.declaration.toJson.map fun d => ⟨t.range o.span, o.action.title, o.action.command, d⟩

/-- The lenses of offers, in order. The answer to whether this has been cancelled is `cancelled n`
before the `n`th offer; from the first yes on nothing more is made. -/
def ofOffers (t : LineTable) (cancelled : Nat → Bool) (n : Nat) : List Offer → List Lens
  | [] => []
  | o :: os =>
    if cancelled n then []
    else
      match ofOffer t o with
      | .ok lens => lens :: ofOffers t cancelled (n + 1) os
      | .error _ => ofOffers t cancelled (n + 1) os

def positionJson (p : Position) : Json :=
  .obj [("line", .nat p.line), ("character", .nat p.character)]

def rangeJson (r : TextRange) : Json :=
  .obj [("start", positionJson r.start), ("end", positionJson r.stop)]

def toJson (l : Lens) : Json :=
  .obj [("range", rangeJson l.range),
    ("command", .obj [("title", .str l.title), ("command", .str l.command),
      ("arguments", .arr [l.argument])])]

end Lens

def lenses (text : String) (declarations : List Declaration) (cancelled : Nat → Bool) : List Lens :=
  Lens.ofOffers (.ofText text) cancelled 0 (offers declarations)

end TestScout
