import TestScout.Syntax.Node

/-!
The pieces that stand side by side between two brackets: words, marks, finished operands such as
literals, and bracketed groups whose contents have been read already.
-/

namespace TestScout.Syntax

inductive Bracket where
  | paren
  | square
  | block
  | object
  deriving DecidableEq, Repr, Inhabited

inductive Shape where
  | word (name : String)
  | mark (text : String)
  | operand (node : Node)
  | group (bracket : Bracket) (children : List Node)
  deriving Repr, Inhabited

/-- A piece with the comments that stand before it; `fresh` if it begins on a new line. -/
structure Piece where
  shape : Shape
  span : Span
  before : List Node
  fresh : Bool
  deriving Repr, Inhabited

namespace Piece

def isMark (p : Piece) (text : String) : Bool :=
  match p.shape with
  | .mark t => t = text
  | _ => false

def isWord (p : Piece) (name : String) : Bool :=
  match p.shape with
  | .word w => w = name
  | _ => false

/-- The nodes in a piece, without the comments before it. -/
def inner (p : Piece) : List Node :=
  match p.shape with
  | .operand n => [n]
  | .group _ children => children
  | _ => []

def nodes (p : Piece) : List Node := p.before ++ p.inner

/-- A piece whose comments belong elsewhere. -/
def bare (p : Piece) : Piece := { p with before := [] }

end Piece

/-- Words that stand for a value of their own. -/
def valueWords : List String := ["this", "super", "null", "undefined", "true", "false", "import"]

/-- Words that join the operands around them. -/
def infixWords : List String := ["in", "instanceof", "of", "as", "satisfies", "is", "extends"]

/-- Words that are never names and stand before what they govern. -/
def leadingWords : List String :=
  ["break", "case", "catch", "class", "const", "continue", "debugger", "default", "delete", "do",
    "else", "enum", "export", "extends", "finally", "for", "if", "in", "instanceof", "let", "new",
    "return", "switch", "throw", "try", "typeof", "var", "void", "while", "with", "yield", "await"]

/-- The node of a word that stands for a value. -/
def wordNode (name : String) (span : Span) : Node :=
  let kind : Kind := if valueWords.contains name then .keyword
    else if name.startsWith "#" then .property
    else .identifier
  .of kind span.start span.stop []

/-- The node of a group that stands for itself. -/
def groupNode (bracket : Bracket) (span : Span) (children : List Node) : Node :=
  let kind : Kind := match bracket with
    | .paren => .parenthesized
    | .square => .array
    | .block => .block
    | .object => .object
  .of kind span.start span.stop children

end TestScout.Syntax
