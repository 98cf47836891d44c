import TestScout.Declaration
import TestScout.Regex.Parser

/-!
Patterns of names. A pattern is the text of a regular expression that selects one declaration among
the full names that the runner knows; characters with a meaning in regular expressions are escaped,
so a name always stands for itself.
-/

namespace TestScout

/-- How a declaration is told from others: by its own name anywhere, or by the whole path. -/
inductive PatternPolicy where
  | loose
  | exactPath
  deriving DecidableEq, Repr, Inhabited

namespace PatternPolicy

def name : PatternPolicy → String
  | loose => "loose"
  | exactPath => "exact-path"

def named : List (String × PatternPolicy) := [("loose", loose), ("exact-path", exactPath)]

def ofName? (name : String) : Option PatternPolicy := named.lookup name

def read : Json.Reader PatternPolicy := Json.readVariant named

end PatternPolicy

namespace Pattern

/-- The characters that have a meaning in regular expressions. -/
def special : List Char := "\\^$.|?*+()[]\x7b\x7d".toList

/-- How one character is written so that it stands for itself. -/
def escapeChar (c : Char) : List Char := if special.contains c then ['\\', c] else [c]

def escape (text : String) : String := String.ofList (text.toList.flatMap escapeChar)

/-- The pattern that selects a declaration. -/
def build (d : Declaration) (policy : PatternPolicy) : String :=
  match policy, d.kind with
  | .loose, _ => " " ++ escape d.name ++ "($| )"
  | .exactPath, .suite => "^" ++ escape d.fullName ++ "( |$)"
  | .exactPath, .test => "^" ++ escape d.fullName ++ "$"

/-- Whether a pattern selects a full name, if it is a pattern. -/
def matches? (pattern fullName : String) : Option Bool :=
  (Regex.ofText? pattern).map fun r => r.isMatch fullName

end Pattern

end TestScout
