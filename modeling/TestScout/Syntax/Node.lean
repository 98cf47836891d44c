import TestScout.Span

/-!
Syntax trees. A node says what it stands for, which bytes it covers, which part it plays in the node
above, and whether it stands outside the grammar, as comments do.
-/

namespace TestScout.Syntax

inductive Kind where
  | program
  | comment
  | statement
  | emptyStatement
  | declaration
  | block
  | call
  | construction
  | arguments
  | typeArguments
  | optionalChain
  | member
  | element
  | assertion
  | operation
  | identifier
  | property
  | keyword
  | number
  | string
  | fragment
  | escape
  | template
  | substitution
  | regex
  | parenthesized
  | array
  | object
  | arrow
  | function
  | generator
  | parameters
  | resultType
  | markup
  | container
  deriving DecidableEq, Repr, Inhabited

inductive Role where
  | callee
  | arguments
  | other
  deriving DecidableEq, Repr, Inhabited

structure Label where
  kind : Kind
  span : Span
  role : Role
  extra : Bool
  deriving DecidableEq, Repr, Inhabited

inductive Node where
  | node (label : Label) (children : List Node)
  deriving Repr, Inhabited

namespace Node

def label : Node → Label
  | node l _ => l

def children : Node → List Node
  | node _ cs => cs

def kind (n : Node) : Kind := n.label.kind

def span (n : Node) : Span := n.label.span

def role (n : Node) : Role := n.label.role

/-- Whether a node stands outside the grammar. -/
def extra (n : Node) : Bool := n.label.extra

/-- A node of some kind that plays no named part. -/
def of (kind : Kind) (start stop : Nat) (children : List Node) : Node :=
  node ⟨kind, ⟨start, stop⟩, .other, false⟩ children

def comment (start stop : Nat) : Node := node ⟨.comment, ⟨start, stop⟩, .other, true⟩ []

def withRole (role : Role) : Node → Node
  | node l cs => node { l with role := role } cs

/-- The first child that plays a part. -/
def child? (n : Node) (role : Role) : Option Node := n.children.find? fun c => c.role = role

/-- The children that belong to the grammar. -/
def parts (n : Node) : List Node := n.children.filter fun c => !c.extra

end Node

end TestScout.Syntax
