import TestScout.Regex.Basic
import TestScout.Text.Hex
import TestScout.Text.Numeral

/-!
The smaller units of the notation of regular expressions: escapes, flags, counts, and classes in
square brackets. Each reader looks at the characters that follow the one which begins a unit and
says how many of them belong to it.
-/

namespace TestScout.Regex

/-- How the notation is read: whether case counts, whether lines have ends of their own, whether a
point stands for a line break too, whether blanks count, and whether classes of characters reach
beyond ASCII. -/
structure Flags where
  caseless : Bool
  lines : Bool
  dotAll : Bool
  verbose : Bool
  unicode : Bool
  deriving DecidableEq, Repr

namespace Flags

/-- How the notation is read at first. -/
def initial : Flags := ⟨false, false, false, false, true⟩

/-- A class of characters, within the range that the flags allow. -/
def limit (f : Flags) (s : CharSet) : CharSet := if f.unicode then s else .inter .ascii s

/-- A set of characters, with both cases if case does not count. -/
def fold (f : Flags) (s : CharSet) : CharSet := if f.caseless then .caseless s else s

def char (f : Flags) (c : Char) : Regex := .one (f.fold (.single c))

def word (f : Flags) : CharSet := f.limit .word

def condition (f : Flags) (a : Assertion) : Regex := .assert f.word a

end Flags

inductive Escaped where
  | char (c : Char)
  | set (s : CharSet)
  | condition (a : Assertion)

/-- A character that stands for itself after a backslash. -/
def isEscapable (c : Char) : Bool := c.toNat < 0x80 && !c.isAlphanum && c ≠ '<' && c ≠ '>'

/-- The character of hexadecimal digits, either `n` of them or any number in braces. -/
def hexEscape? (n : Nat) (cs : List Char) : Option (Char × Nat) :=
  match cs with
  | '{' :: rest => do
    let digits := rest.takeWhile fun c => (Text.hexValue? c).isSome
    if digits.isEmpty || (rest.drop digits.length).head? ≠ some '}' then none
    else return (← Text.charOf? (← Text.hexNumber? digits), digits.length + 2)
  | cs => do return (← Text.charOf? (← Text.hexFront? n cs), n)

/-- The kinds of word ends that braces after an escaped `b` can name. -/
def wordEnds : List (String × Assertion) :=
  [("\x7bstart\x7d", .wordStart), ("\x7bend\x7d", .wordEnd),
    ("\x7bstart-half\x7d", .noWordBefore), ("\x7bend-half\x7d", .noWordAfter)]

/-- What the characters after a backslash stand for, and how many belong to the escape. -/
def escape? (f : Flags) : List Char → Option (Escaped × Nat)
  | [] => none
  | c :: rest =>
    let set (s : CharSet) : Option (Escaped × Nat) := some (.set (f.limit s), 1)
    let outside (s : CharSet) : Option (Escaped × Nat) := some (.set (.compl (f.limit s)), 1)
    let char (c : Char) : Option (Escaped × Nat) := some (.char c, 1)
    let hex (n : Nat) : Option (Escaped × Nat) :=
      (hexEscape? n rest).map fun (c, k) => (.char c, k + 1)
    match c with
    | 'd' => set .digit
    | 'D' => outside .digit
    | 'w' => set .word
    | 'W' => outside .word
    | 's' => set .space
    | 'S' => outside .space
    | 'a' => char '\x07'
    | 'f' => char '\x0c'
    | 't' => char '\t'
    | 'n' => char '\n'
    | 'r' => char '\r'
    | 'v' => char '\x0b'
    | 'x' => hex 2
    | 'u' => hex 4
    | 'U' => hex 8
    | 'A' => some (.condition .textStart, 1)
    | 'z' => some (.condition .textEnd, 1)
    | 'b' =>
      match wordEnds.find? fun e => e.1.toList.isPrefixOf rest with
      | some (name, a) => some (.condition a, name.length + 1)
      | none => some (.condition .boundary, 1)
    | 'B' => some (.condition .inside, 1)
    | '<' => some (.condition .wordStart, 1)
    | '>' => some (.condition .wordEnd, 1)
    | c => if isEscapable c then char c else none

/-! ### Flags -/

/-- The flag that a letter stands for, set or cleared. Flags that only choose between matches, or
between the ways lines end, change nothing here. -/
def Flags.assign? (f : Flags) (letter : Char) (value : Bool) : Option Flags :=
  match letter with
  | 'i' => some { f with caseless := value }
  | 'm' => some { f with lines := value }
  | 's' => some { f with dotAll := value }
  | 'x' => some { f with verbose := value }
  | 'u' => some { f with unicode := value }
  | 'U' | 'R' => some f
  | _ => none

/-- The flags up to a colon or a closing bracket, which is the last character counted. Each may
stand only once, and a minus sign has flags after it. -/
def flags? (f : Flags) (value : Bool) (seen : List Char) : List Char → Option (Flags × Char × Nat)
  | [] => none
  | c :: rest =>
    if c = ':' || c = ')' then
      if seen.head? = some '-' || (c = ')' && seen.isEmpty) then none else some (f, c, 1)
    else if seen.contains c then none
    else do
      let f ← if c = '-' then some f else f.assign? c value
      let (f, close, n) ← flags? f (value && c ≠ '-') (c :: seen) rest
      return (f, close, n + 1)

/-! ### Counts -/

/-- A decimal number below `2 ^ 32` among blanks at the front, and the length of all that. -/
def count? (cs : List Char) : Option (Nat × Nat) :=
  let blanks := (cs.takeWhile CharSet.isSpace).length
  let rest := cs.drop blanks
  let digits := rest.takeWhile Text.isDigit
  let value := Text.decimalValue digits
  let after := ((rest.drop digits.length).takeWhile CharSet.isSpace).length
  if digits.isEmpty || 0x100000000 ≤ value then none
  else some (value, blanks + digits.length + after)

/-- The least and the greatest number of times in braces, after the opening one, and the length of
that with the closing one. -/
def counts? (cs : List Char) : Option (Nat × Option Nat × Nat) := do
  let (least, n) ← count? cs
  match cs.drop n with
  | '}' :: _ => return (least, some least, n + 1)
  | ',' :: '}' :: _ => return (least, none, n + 2)
  | ',' :: rest =>
    let (most, k) ← count? rest
    if (rest.drop k).head? = some '}' && least ≤ most then return (least, some most, n + k + 2)
    else none
  | _ => none

/-! ### Classes -/

def namedClasses : List (String × CharSet) :=
  let digits : CharSet := .range '0' '9'
  let lower : CharSet := .range 'a' 'z'
  let upper : CharSet := .range 'A' 'Z'
  let alpha := lower.union upper
  let graph : CharSet := .range '!' '~'
  [("alnum", alpha.union digits), ("alpha", alpha), ("ascii", .ascii),
    ("blank", (CharSet.single '\t').union (.single ' ')),
    ("cntrl", (CharSet.range '\x00' '\x1f').union (.single '\x7f')), ("digit", digits),
    ("graph", graph), ("lower", lower), ("print", .range ' ' '~'),
    ("punct", graph.diff (alpha.union digits)),
    ("space", (CharSet.range '\t' '\r').union (.single ' ')), ("upper", upper),
    ("word", (alpha.union digits).union (.single '_')),
    ("xdigit", digits.union ((CharSet.range 'a' 'f').union (.range 'A' 'F')))]

/-- A named class between colons at the front, after an opening bracket, and its length. -/
def namedClass? (cs : List Char) : Option (CharSet × Nat) :=
  match cs with
  | ':' :: rest => do
    let negated := rest.head? = some '^'
    let rest := if negated then rest.tail else rest
    let name := rest.takeWhile (· ≠ ':')
    let set ← namedClasses.lookup (String.ofList name)
    match rest.drop name.length with
    | ':' :: ']' :: _ =>
      return (if negated then .compl set else set, name.length + (if negated then 4 else 3))
    | _ => none
  | _ => none

/-- A character or a set at the front of the items of a class, and its length. -/
def classAtom? (f : Flags) : List Char → Option (Escaped × Nat)
  | '\\' :: rest => (escape? f rest).map fun (e, n) => (e, n + 1)
  | c :: _ => some (.char c, 1)
  | [] => none

/-- A single item of a class at the front, which may be a range, and its length. -/
def classItem? (f : Flags) (cs : List Char) : Option (CharSet × Nat) := do
  let (first, n) ← classAtom? f cs
  let ranged := match cs.drop n with
    | '-' :: ']' :: _ => false
    | '-' :: '-' :: _ => false
    | '-' :: _ => true
    | _ => false
  if ranged then
    let (last, k) ← classAtom? f (cs.drop (n + 1))
    match first, last with
    | .char a, .char b => if a ≤ b then return (f.fold (.range a b), n + 1 + k) else none
    | _, _ => none
  else
    match first with
    | .char c => return (f.fold (.single c), n)
    | .set s => return (f.fold s, n)
    | .condition _ => none

abbrev Combine := CharSet → CharSet

/-- The operator that two equal characters make in a class. -/
def classOperator? (c : Char) : Option (CharSet → CharSet → CharSet) :=
  match c with
  | '&' => some .inter
  | '-' => some .diff
  | '~' => some fun s t => (s.diff t).union (t.diff s)
  | _ => none

/-- What begins a class: whether it is negated, the items that stand for themselves only here, and
how many characters that takes. -/
def classHead (cs : List Char) : Bool × CharSet × Nat :=
  let negated := cs.head? = some '^'
  let start := if negated then 1 else 0
  let dashes := ((cs.drop start).takeWhile (· = '-')).length
  let bracket := dashes = 0 && (cs.drop start).head? = some ']'
  let set : CharSet := if dashes ≠ 0 then .single '-' else if bracket then .single ']' else .none
  (negated, set, start + dashes + (if bracket then 1 else 0))

/-- The items of a class up to its closing bracket, and the rest after that. The last part of the
class has the items in `items`. -/
def classItems? (f : Flags) (fuel : Nat) (combine : Combine) (items : CharSet) (cs : List Char) :
    Option (CharSet × List Char) :=
  match fuel with
  | 0 => none
  | fuel + 1 =>
    match cs with
    | [] => none
    | c :: rest =>
      if f.verbose && CharSet.isSpace c then classItems? f fuel combine items rest
      else if c = ']' then some (combine items, rest)
      else if c = '[' then
        match namedClass? rest with
        | some (s, n) => classItems? f fuel combine (items.union (f.fold s)) (rest.drop n)
        | none => do
          let (negated, head, n) := classHead rest
          let (s, more) ← classItems? f fuel id head (rest.drop n)
          classItems? f fuel combine (items.union (if negated then .compl s else s)) more
      else
        match if rest.head? = some c then classOperator? c else none with
        | some operator => classItems? f fuel (operator (combine items)) .none rest.tail
        | none => do
          let (s, n) ← classItem? f cs
          classItems? f fuel combine (items.union s) (cs.drop n)

/-- A class after its opening bracket, and how many characters belong to it. -/
def class? (f : Flags) (cs : List Char) : Option (CharSet × Nat) := do
  let (negated, head, n) := classHead cs
  let (s, rest) ← classItems? f (2 * cs.length + 2) id head (cs.drop n)
  return (if negated then .compl s else s, cs.length - rest.length)

end TestScout.Regex
