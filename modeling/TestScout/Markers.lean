import TestScout.Declaration

/-!
The names whose calls declare suites and tests.
-/

namespace TestScout

structure Markers where
  suites : List String
  tests : List String
  deriving DecidableEq, Repr, Inhabited

namespace Markers

/-- What a name declares. A name among both declares suites. -/
def kind? (m : Markers) (name : String) : Option DeclarationKind :=
  if m.suites.contains name then some .suite
  else if m.tests.contains name then some .test
  else none

end Markers

end TestScout
