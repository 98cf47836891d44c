import TestScout.Regex.Syntax

/-!
Reading regular expressions. One pass over the text keeps the groups that are open on a stack; each
group holds the alternatives that are finished and the items of the current one. A character without
a meaning of its own adds one item, and so does a backslash with the character after it, so the
items of a text can be read off piece by piece.
-/

namespace TestScout.Regex

/-- An open group: the flags to return to, the finished alternatives and the items of the current
one, both the last first. A directive is an item without an expression. -/
structure OpenGroup where
  flags : Flags
  finished : List Regex
  items : List (Option Regex)

namespace OpenGroup

/-- A group that nothing has been read of. -/
def start (flags : Flags) : OpenGroup := ⟨flags, [], []⟩

def current (g : OpenGroup) : Regex := all (g.items.reverse.filterMap id)

/-- What the group stands for. -/
def regex (g : OpenGroup) : Regex := any (g.finished.reverse ++ [g.current])

end OpenGroup

/-- Where the reading stands: the flags, the names of groups, and the open groups, innermost
first. -/
structure Reading where
  flags : Flags
  names : List (List Char)
  top : OpenGroup
  outer : List OpenGroup

namespace Reading

def start : Reading := ⟨.initial, [], .start .initial, []⟩

def add (r : Reading) (item : Regex) : Reading :=
  { r with top := { r.top with items := some item :: r.top.items } }

def next (r : Reading) : Reading :=
  { r with top := { r.top with finished := r.top.current :: r.top.finished, items := [] } }

def repeatLast? (r : Reading) (least : Nat) (most : Option Nat) : Option Reading :=
  match r.top.items with
  | some item :: items =>
    some { r with top := { r.top with items := some (.times item least most) :: items } }
  | _ => none

/-- Opens a group that is read with some flags. -/
def enter (r : Reading) (inner : Flags) : Reading :=
  { r with flags := inner, top := .start r.flags, outer := r.top :: r.outer }

def leave? (r : Reading) : Option Reading :=
  match r.outer with
  | [] => none
  | below :: outer =>
    some ({ r with flags := r.top.flags, top := below, outer := outer }.add r.top.regex)

/-- A character that the name of a group can begin with. -/
def startsName (c : Char) : Bool := c = '_' || (Text.isWordChar c && !Text.isDecimalDigit c)

/-- A character that the name of a group can go on with. -/
def isNameChar (c : Char) : Bool := c = '.' || c = '[' || c = ']' || Text.isWordChar c

/-- Opens a group with a name, of which `cs` is the rest. -/
def enterNamed? (r : Reading) (cs : List Char) : Option (Reading × Nat) :=
  let name := cs.takeWhile (· ≠ '>')
  if name.head?.any startsName && name.all isNameChar && name.length < cs.length &&
      !r.names.contains name then
    some ({ r with names := name :: r.names }.enter r.flags, name.length + 1)
  else none

/-- Opens a group, of which `cs` is the rest, and says how much of that begins it. -/
def group? (r : Reading) (cs : List Char) : Option (Reading × Nat) :=
  match cs with
  | '?' :: 'P' :: '<' :: rest => (r.enterNamed? rest).map fun (r, n) => (r, n + 3)
  | '?' :: '<' :: rest => (r.enterNamed? rest).map fun (r, n) => (r, n + 2)
  | '?' :: rest => do
    let (f, close, n) ← flags? r.flags true [] rest
    if close = ':' then return (r.enter f, n + 1)
    else return ({ r with flags := f, top := { r.top with items := none :: r.top.items } }, n + 1)
  | _ => some (r.enter r.flags, 0)

/-- Adds what an escape stands for. -/
def escaped (r : Reading) : Escaped → Reading
  | .char c => r.add (r.flags.char c)
  | .set s => r.add (.one (r.flags.fold s))
  | .condition a => r.add (r.flags.condition a)

/-- Repeats the last item; a question mark after `n` characters chooses the shortest match, which
makes no difference to whether there is one. -/
def repeated? (r : Reading) (least : Nat) (most : Option Nat) (n : Nat) (rest : List Char) :
    Option (Reading × Nat) :=
  (r.repeatLast? least most).map fun r =>
    (r, if (rest.drop n).head? = some '?' then n + 1 else n)

def point (f : Flags) : Regex := .one (if f.dotAll then .all else CharSet.all.diff (.single '\n'))

/-- Reads from a character on, and says how many more characters have been read. -/
def step? (r : Reading) (c : Char) (rest : List Char) : Option (Reading × Nat) :=
  if r.flags.verbose && (CharSet.isSpace c || c = '#') then
    some (r, if c = '#' then (rest.takeWhile (· ≠ '\n')).length else 0)
  else
    match c with
    | '(' => r.group? rest
    | ')' => r.leave?.map (·, 0)
    | '|' => some (r.next, 0)
    | '*' => r.repeated? 0 none 0 rest
    | '+' => r.repeated? 1 none 0 rest
    | '?' => r.repeated? 0 (some 1) 0 rest
    | '{' => do
      let (least, most, n) ← counts? rest
      r.repeated? least most n rest
    | '[' => (class? r.flags rest).map fun (s, n) => (r.add (.one s), n)
    | '.' => some (r.add (point r.flags), 0)
    | '^' => some (r.add (r.flags.condition (if r.flags.lines then .lineStart else .textStart)), 0)
    | '$' => some (r.add (r.flags.condition (if r.flags.lines then .lineEnd else .textEnd)), 0)
    | '\\' => (escape? r.flags rest).map fun (e, n) => (r.escaped e, n)
    | c => some (r.add (r.flags.char c), 0)

def run? (r : Reading) (cs : List Char) : Option Reading :=
  match cs with
  | [] => some r
  | c :: rest =>
    match r.step? c rest with
    | some (r, n) => r.run? (rest.drop n)
    | none => none
termination_by cs.length
decreasing_by
  rw [List.length_drop, List.length_cons]
  omega

end Reading

/-- The regular expression that a text writes, if it writes one. -/
def ofText? (text : String) : Option Regex := do
  let r ← Reading.start.run? text.toList
  if r.outer.isEmpty then return r.top.regex else none

end TestScout.Regex
