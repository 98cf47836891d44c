import TestScout.Json.Basic
import TestScout.Text.Quoted

/-!
From JSON values to typed ones. A record is read from an object, whose unknown members are passed
over, or from an array that lists its fields in the order in which they are declared. Of several
faults the one reported is that of the first bad member in the order of the names, or of the first
bad element; a field that is missing is reported only when nothing else is wrong.
-/

namespace TestScout.Json

inductive DecodeError where
  | wrongType (got : Json) (wanted : String)
  | wrongValue (got : Json) (wanted : String)
  | unknownVariant (given : String) (known : List String)
  | missing (field : String)
  | tooShort (length : Nat) (record : String) (fields : Nat)
  | tooLong (length : Nat)
  deriving Repr

/-- What a message calls a value. -/
def describe : Json → String
  | .null => "null"
  | .bool b => "boolean `" ++ (if b then "true" else "false") ++ "`"
  | .int n => "integer `" ++ toString n ++ "`"
  | .float bits => "floating point `" ++ Decimal.floatText floatLayout bits ++ "`"
  | .str s => "string " ++ Text.quoted s
  | .arr _ => "sequence"
  | .obj _ => "map"

/-- A choice between names. -/
def alternatives (known : List String) : String :=
  match known.map fun k => "`" ++ k ++ "`" with
  | [] => "nothing"
  | [a] => a
  | [a, b] => a ++ " or " ++ b
  | more => "one of " ++ ", ".intercalate more

def DecodeError.message : DecodeError → String
  | .wrongType got wanted => "invalid type: " ++ got.describe ++ ", expected " ++ wanted
  | .wrongValue got wanted => "invalid value: " ++ got.describe ++ ", expected " ++ wanted
  | .unknownVariant given known =>
    "unknown variant `" ++ given ++ "`, expected " ++ alternatives known
  | .missing field => "missing field `" ++ field ++ "`"
  | .tooShort length record fields =>
    "invalid length " ++ toString length ++ ", expected struct " ++ record ++ " with " ++
      toString fields ++ (if fields = 1 then " element" else " elements")
  | .tooLong length =>
    "invalid length " ++ toString length ++ ", expected fewer elements in array"

abbrev Reader (α : Type) := Json → Except DecodeError α

/-! ### Values without fields -/

/-- A text; `wanted` is what messages call it. -/
def readText (wanted : String) : Reader String
  | .str s => .ok s
  | v => .error (.wrongType v wanted)

def readString : Reader String := readText "a string"

def readBool : Reader Bool
  | .bool b => .ok b
  | v => .error (.wrongType v "a boolean")

/-- A natural number below `2 ^ 64`. -/
def readNat : Reader Nat
  | .int n =>
    if 0 ≤ n && n < 0x10000000000000000 then .ok n.toNat else .error (.wrongValue (.int n) "usize")
  | v => .error (.wrongType v "usize")

/-- A natural number below `2 ^ 32`. -/
def readNat32 : Reader Nat
  | .int n =>
    if 0 ≤ n && n < 0x100000000 then .ok n.toNat else .error (.wrongValue (.int n) "u32")
  | v => .error (.wrongType v "u32")

/-- An integer of thirty-two bits. -/
def readInt32 : Reader Int
  | .int n =>
    if -0x80000000 ≤ n && n < 0x80000000 then .ok n else .error (.wrongValue (.int n) "i32")
  | v => .error (.wrongType v "i32")

def readAny : Reader Json := .ok

def readList (read : Reader α) : Reader (List α)
  | .arr items => items.mapM read
  | v => .error (.wrongType v "a sequence")

def readStrings : Reader (List String) := readList readString

/-- The pairs of an object, in the order of their names. -/
def ordered (members : List (String × Json)) : List (String × Json) :=
  members.mergeSort fun a b => decide (a.1 ≤ b.1)

def readTable : Reader (Dict String)
  | .obj members => do
    let entries ← (ordered members).mapM fun (k, v) => do return (k, ← readString v)
    return Dict.ofList entries
  | v => .error (.wrongType v "a map")

def readOption (read : Reader α) : Reader (Option α)
  | .null => .ok none
  | v => some <$> read v

/-- One of several named values: its name, or an object with its name over `null`. -/
def readVariant (known : List (String × α)) : Reader α
  | .str s => choose s
  | .obj [(s, v)] => do
    let a ← choose s
    match v with
    | .null => return a
    | v => throw (.wrongType v "unit")
  | .obj members => .error (.wrongValue (.obj members) "map with a single key")
  | v => .error (.wrongType v "string or map")
where
  choose (s : String) : Except DecodeError α :=
    match known.lookup s with
    | some a => .ok a
    | none => .error (.unknownVariant s (known.map (·.1)))

/-! ### Records -/

/-- A field of a record: its name, how it is read, and what it is when an object lacks it. An array
may end before it if `optional`. -/
structure Field (α : Type) where
  name : String
  read : Reader α
  absent : Option α
  optional : Bool

namespace Field

def required (name : String) (read : Reader α) : Field α := ⟨name, read, none, false⟩

/-- A field that has a value of its own when it is not given. -/
def defaulting (name : String) (read : Reader α) (value : α) : Field α :=
  ⟨name, read, some value, true⟩

/-- A field that an object may lack, but an array may not. -/
def omissible (name : String) (read : Reader (Option α)) : Field (Option α) :=
  ⟨name, read, some none, false⟩

end Field

structure Slot where
  name : String
  optional : Bool
  fault : Json → Option DecodeError

/-- A field without its type. -/
def Field.slot (f : Field α) : Slot where
  name := f.name
  optional := f.optional
  fault v := match f.read v with
    | .ok _ => none
    | .error e => some e

abbrev Given := String → Option Json

/-- The value of a field, out of those given. -/
def Field.of (f : Field α) (given : Given) : Except DecodeError α :=
  match given f.name, f.absent with
  | some v, _ => f.read v
  | none, some d => .ok d
  | none, none => .error (.missing f.name)

/-- The first fault among members, in the order of the names of the fields. -/
def memberFault? (slots : List Slot) (members : List (String × Json)) : Option DecodeError :=
  (slots.mergeSort fun a b => decide (a.name ≤ b.name)).findSome? fun s =>
    (members.lookup s.name).bind s.fault

/-- The first fault among elements; `slots` are the fields still to come. -/
def elementFault? (record : String) (fields length : Nat) :
    Nat → List Slot → List Json → Option DecodeError
  | _, [], [] => none
  | _, [], _ :: _ => some (.tooLong length)
  | i, s :: slots, [] =>
    if s.optional then elementFault? record fields length (i + 1) slots []
    else some (.tooShort i record fields)
  | i, s :: slots, v :: vs =>
    match s.fault v with
    | some e => some e
    | none => elementFault? record fields length (i + 1) slots vs

/-- The values that `v` gives for the fields of a record, none of which is at fault. -/
def readFields (record : String) (slots : List Slot) (v : Json) : Except DecodeError Given :=
  match v with
  | .obj members =>
    match memberFault? slots members with
    | some e => .error e
    | none => .ok fun name => members.lookup name
  | .arr items =>
    match elementFault? record slots.length items.length 0 slots items with
    | some e => .error e
    | none => .ok fun name => ((slots.map (·.name)).zip items).lookup name
  | v => .error (.wrongType v ("struct " ++ record))

end TestScout.Json
