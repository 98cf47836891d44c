import TestScout.Json.Basic

/-!
TOML documents as values, and how their tables come about. A table can be opened by a header, arise
on the way to another one, or be spelled by keys with points; what may still be added to it depends
on that, and nothing is ever defined twice.
-/

namespace TestScout.Toml

/-- A value. Of floating-point numbers only that they are such is kept. A table is `implied` if only
something in it has been named, and `dotted` if a key with points did so; a table in braces is
whole. The tables of an array of tables are kept apart from the items of an array. -/
inductive Value where
  | str (s : String)
  | int (n : Int)
  | float
  | bool (b : Bool)
  | date (text : String)
  | arr (items : List Value)
  | table (implied dotted : Bool) (entries : List (String × Value))
  | whole (entries : List (String × Value))
  | tables (items : List Value)
  deriving Repr, Inhabited

structure Table where
  implied : Bool
  dotted : Bool
  entries : List (String × Value)
  deriving Repr, Inhabited

namespace Table

/-- A table that a header has opened. -/
def opened : Table := ⟨false, false, []⟩

/-- A table that something in it implies. -/
def implicit (dotted : Bool) : Table := ⟨true, dotted, []⟩

def value (t : Table) : Value := .table t.implied t.dotted t.entries

def get? (t : Table) (key : String) : Option Value := t.entries.lookup key

/-- The table with a value under a key, in the place of the one that was there. -/
def set (t : Table) (key : String) (v : Value) : Table :=
  if t.entries.any (·.1 = key) then
    { t with entries := t.entries.map fun e => if e.1 = key then (key, v) else e }
  else { t with entries := t.entries ++ [(key, v)] }

/-- Changes the table at the end of a path, in the last table of each array of tables on the way.
Tables that are missing come into being; a key with points enters only such tables. -/
def change? (dotted : Bool) (f : Table → Option Table) : List String → Table → Option Table
  | [], t => f t
  | key :: path, t =>
    match t.get? key with
    | none => (change? dotted f path (.implicit dotted)).map fun c => t.set key c.value
    | some (.table implied d entries) =>
      if dotted && !implied then none
      else (change? dotted f path ⟨implied, d, entries⟩).map fun c => t.set key c.value
    | some (.tables items) =>
      match items.getLast? with
      | some (.table implied d entries) =>
        (change? dotted f path ⟨implied, d, entries⟩).map fun c =>
          t.set key (.tables (items.dropLast ++ [c.value]))
      | _ => none
    | some _ => none

/-- Puts a value under a key with points. -/
def put? (t : Table) (path : List String) (key : String) (v : Value) : Option Table :=
  t.change? true (fun t =>
    if t.dotted = path.isEmpty || (t.get? key).isSome then none else some (t.set key v)) path

def openTable? (t : Table) (path : List String) (key : String) : Option Table :=
  t.change? false (fun t =>
    match t.get? key with
    | none => some (t.set key Table.opened.value)
    | some (.table true false entries) => some (t.set key (.table false false entries))
    | some _ => none) path

/-- Adds the table of a header in double brackets. -/
def addTable? (t : Table) (path : List String) (key : String) : Option Table :=
  t.change? false (fun t =>
    match t.get? key with
    | none => some (t.set key (.tables [Table.opened.value]))
    | some (.tables items) => some (t.set key (.tables (items ++ [Table.opened.value])))
    | some _ => none) path

end Table

namespace Value

/-- The name under which a date shows its text where a table is wanted. -/
def dateKey : String := "$__toml_private_datetime"

mutual

/-- The value as JSON. A date is read like a table that holds its text. -/
def toJson : Value → Json
  | str s => .str s
  | int n => .int n
  | float => .float 0
  | bool b => .bool b
  | date text => .obj [(dateKey, .str text)]
  | arr items => .arr (listJson items)
  | table _ _ entries => .obj (entriesJson entries)
  | whole entries => .obj (entriesJson entries)
  | tables items => .arr (listJson items)

def listJson : List Value → List Json
  | [] => []
  | v :: vs => toJson v :: listJson vs

def entriesJson : List (String × Value) → List (String × Json)
  | [] => []
  | (key, v) :: rest => (key, toJson v) :: entriesJson rest

end

end Value

end TestScout.Toml
