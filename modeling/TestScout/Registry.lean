import TestScout.Action

/-!
The commands that can be executed, each with what is done for the declaration it is given. Executing
a command can go wrong in four ways, and they are looked for in this order: there is no such
command, no argument is given, the argument is no declaration, what is done fails.
-/

namespace TestScout

abbrev Handler := World → Declaration → Except Failure LaunchSpec

structure Registry where
  handlers : Dict Handler

namespace Registry

def empty : Registry := ⟨Dict.empty⟩

/-- The commands with one more, or with another handler for one of them. -/
def register (r : Registry) (id : String) (handler : Handler) : Registry :=
  ⟨r.handlers.insert id handler⟩

def ids (r : Registry) : List String := r.handlers.names

/-- The commands of the actions, which launch a declaration under some settings. -/
def ofSettings (s : Settings) : Registry :=
  Action.all.foldl (fun r a => r.register a.command fun w d => s.build w d a.mode) empty

/-- Executes a command. Only the first of its arguments counts. -/
def execute (r : Registry) (w : World) (id : String) (arguments : List Json) :
    Except Failure LaunchSpec :=
  match r.handlers.get? id with
  | none => .error (.unknownCommand id)
  | some handler =>
    match arguments with
    | [] => .error (.invalidArgument .missing)
    | argument :: _ =>
      match Declaration.ofJson argument with
      | .error failure => .error failure
      | .ok d => handler w d

def debug (r : Registry) : String :=
  "CommandRegistry \x7b commands: " ++ Text.quotedList r.ids ++ " \x7d"

end Registry

end TestScout
