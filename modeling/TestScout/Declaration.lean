import TestScout.Failure
import TestScout.Span

/-!
Declarations of suites and tests, and their form as JSON. A declaration is found in a source, sent
to an editor as the argument of a command, and read again when the command is executed.
-/

namespace TestScout

inductive DeclarationKind where
  | suite
  | test
  deriving DecidableEq, Repr, Inhabited

namespace DeclarationKind

def name : DeclarationKind → String
  | suite => "suite"
  | test => "test"

/-- The kind that a text names, by its own name or by that of a function that declares it. -/
def ofText (text : String) : Except Failure DeclarationKind :=
  match text with
  | "suite" | "describe" => .ok suite
  | "test" | "it" => .ok test
  | other => .error (.invalidKind other)

@[simp] theorem ofText_name (k : DeclarationKind) : ofText k.name = .ok k := by
  cases k <;> rfl

end DeclarationKind

/-- A suite or test in a file: the bytes of its name, the name that they stand for, and the names of
the declarations around it, the outermost first. -/
structure Declaration where
  kind : DeclarationKind
  file : Path
  span : Span
  name : String
  ancestors : List String
  deriving DecidableEq, Repr, Inhabited

namespace Declaration

/-- The names from the outermost declaration to this one. -/
def path (d : Declaration) : List String := d.ancestors ++ [d.name]

/-- The name under which the runner knows the declaration. -/
def fullName (d : Declaration) : String := " ".intercalate d.path

end Declaration

namespace Span

def startField : Json.Field Nat := .required "start" Json.readNat

def stopField : Json.Field Nat := .required "end" Json.readNat

def toJson (s : Span) : Json := .obj [("start", .nat s.start), ("end", .nat s.stop)]

def read : Json.Reader Span := fun v => do
  let given ← Json.readFields "Span" [startField.slot, stopField.slot] v
  return ⟨← startField.of given, ← stopField.of given⟩

end Span

namespace Declaration

/-- The kind, as any text. -/
def kindField : Json.Field String := .required "kind" Json.readString

def fileField : Json.Field String := .required "sourceFile" (Json.readText "path string")

/-- The bytes of the name. -/
def spanField : Json.Field Span := .required "span" Span.read

def nameField : Json.Field String := .required "name" Json.readString

/-- The names around it; none if they are not given. -/
def ancestorsField : Json.Field (List String) :=
  .defaulting "ancestorNames" Json.readStrings []

/-- The fields of a declaration, in the order in which they are declared. -/
def slots : List Json.Slot :=
  [kindField.slot, fileField.slot, spanField.slot, nameField.slot, ancestorsField.slot]

/-- A declaration whose kind is still any text. -/
def readWithKind : Json.Reader (String × (DeclarationKind → Declaration)) := fun v => do
  let given ← Json.readFields "DeclarationArgs" slots v
  let kind ← kindField.of given
  let file ← fileField.of given
  let span ← spanField.of given
  let name ← nameField.of given
  let ancestors ← ancestorsField.of given
  return (kind, fun k => ⟨k, .ofString file, span, name, ancestors⟩)

def ofJson (v : Json) : Except Failure Declaration :=
  match readWithKind v with
  | .error fault => .error (.invalidArgument (.malformed fault))
  | .ok (kind, finish) => (DeclarationKind.ofText kind).map finish

/-- The JSON form of a declaration; there is none if its path is no text. -/
def toJson (d : Declaration) : Except Failure Json :=
  match d.file.toString? with
  | none => .error (.invalidArgument (.notEncodable d.file))
  | some file => .ok (.obj [
      ("kind", .str d.kind.name),
      ("sourceFile", .str file),
      ("span", d.span.toJson),
      ("name", .str d.name),
      ("ancestorNames", .texts d.ancestors)])

end Declaration

end TestScout
