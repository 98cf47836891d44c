import TestScout.Dict
import TestScout.Decimal.Shortest

/-!
JSON values. An integer of at most sixty-four bits is kept exactly and is not the same value as a
floating-point number of equal size; the members of an object are a list of pairs, in the order in
which they are to be written.
-/

namespace TestScout

/-- A JSON value. A floating-point number is given by its bits. -/
inductive Json where
  | null
  | bool (b : Bool)
  | int (n : Int)
  | float (bits : UInt64)
  | str (s : String)
  | arr (items : List Json)
  | obj (members : List (String × Json))
  deriving BEq, Repr, Inhabited

namespace Json

def nat (n : Nat) : Json := .int n

def texts (ss : List String) : Json := .arr (ss.map .str)

def table (d : Dict String) : Json := .obj (d.entries.map fun e => (e.1, .str e.2))

/-- Floating-point numbers are written out in full from `0.00001` up to sixteen digits. -/
def floatLayout : Decimal.Layout := ⟨-5, 15⟩

/-- The member of an object under a name; the value has none if it is no object. -/
def member? (v : Json) (name : String) : Option Json :=
  match v with
  | .obj members => members.lookup name
  | _ => none

end Json

end TestScout
