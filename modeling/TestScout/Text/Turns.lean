/-!
Sets of numbers given by the points at which membership changes, in order: the first point begins a
run of members, the next one ends it, and so on.
-/

namespace TestScout.Text

/-- Whether `n` lies in a run that a table of turning points begins. -/
def turnsContain (turns : Array Nat) (n : Nat) : Bool :=
  turns.foldl (fun inside t => if t ≤ n then !inside else inside) false

end TestScout.Text
