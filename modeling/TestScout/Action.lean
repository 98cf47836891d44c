import TestScout.Launch

/-!
What can be done with a declaration: run it or debug it. Each declaration offers both, at its name.
-/

namespace TestScout

inductive Action where
  | run
  | debug
  deriving DecidableEq, Repr, Inhabited

namespace Action

/-- All actions, in the order in which they are offered. -/
def all : List Action := [run, debug]

def command : Action → String
  | run => "vitest.runTest"
  | debug => "vitest.debugTest"

def title : Action → String
  | run => "Run(Vitest)"
  | debug => "Debug(Vitest)"

def mode : Action → LaunchMode
  | run => .run
  | debug => .debug

def name : Action → String
  | run => "run"
  | debug => "debug"

def named : List (String × Action) := [("run", run), ("debug", debug)]

def read : Json.Reader Action := Json.readVariant named

def ofCommand? (id : String) : Option Action := all.find? fun a => a.command = id

end Action

structure Offer where
  span : Span
  action : Action
  declaration : Declaration
  deriving DecidableEq, Repr

def offers (declarations : List Declaration) : List Offer :=
  declarations.flatMap fun d => Action.all.map fun a => ⟨d.span, a, d⟩

end TestScout
