import TestScout.Literal
import TestScout.Markers
import TestScout.Syntax.Source

/-!
The walk through a syntax tree that finds declarations. A declaration is a call of a marker, a bare
name such as `describe`, with a plain string and then a function. The walk goes through the nodes
in the order in which they begin, keeping the nodes still to come on a stack with the names of the
declarations around each; before every node it asks whether it has been cancelled.
-/

namespace TestScout

open Syntax

/-- A node that is a function written out. -/
def isFunction (n : Node) : Bool :=
  match n.kind with
  | .arrow | .function | .generator => true
  | _ => false

/-- A node that is a string, or a template in which nothing is substituted. -/
def isPlainText (n : Node) : Bool :=
  match n.kind with
  | .string => true
  | .template => n.children.all fun c => c.kind ≠ .substitution
  | _ => false

/-- The text that a literal stands for; its first and its last byte are its quotes. -/
def literalText? (text : String) (n : Node) : Option String :=
  if isPlainText n && n.span.start + 2 ≤ n.span.stop then
    ((⟨n.span.start + 1, n.span.stop - 1⟩ : Span).text? text).map Literal.cook
  else none

/-- The kind that the callee of a call declares, and the first two arguments. -/
def markedCall? (m : Markers) (text : String) (n : Node) :
    Option (DeclarationKind × Node × Node) := do
  if n.kind ≠ .call then failure
  let callee ← n.child? .callee
  if callee.kind ≠ .identifier then failure
  let kind ← m.kind? (← callee.span.text? text)
  let arguments ← n.child? .arguments
  if arguments.kind ≠ .arguments then failure
  match arguments.parts with
  | first :: second :: _ => return (kind, first, second)
  | _ => failure

/-- The declaration that a node makes among the declarations of some names. -/
def declaration? (m : Markers) (file : Path) (text : String) (ancestors : List String) (n : Node) :
    Option Declaration := do
  let (kind, literal, function) ← markedCall? m text n
  if !isFunction function then failure
  let name ← literalText? text literal
  return ⟨kind, file, literal.span, name, ancestors⟩

/-- The names around the children of a node. -/
def namesBelow (ancestors : List String) : Option Declaration → List String
  | some d => ancestors ++ [d.name]
  | none => ancestors

namespace Syntax.Node

mutual

def size : Node → Nat
  | node _ children => 1 + sizes children

def sizes : List Node → Nat
  | [] => 0
  | n :: ns => size n + sizes ns

end

theorem size_eq (n : Node) : n.size = 1 + sizes n.children := by
  cases n; simp [size, children]

theorem sizes_append (a b : List Node) : sizes (a ++ b) = sizes a + sizes b := by
  induction a with
  | nil => simp [sizes]
  | cons n ns ih => simp [sizes, ih, Nat.add_assoc]

end Syntax.Node

/-- The outcome of a walk: what has been found, whether the walk came to its end, and how often it
asked whether it was cancelled. -/
structure Walk where
  declarations : List Declaration
  complete : Bool
  polls : Nat
  deriving DecidableEq, Repr

namespace Walk

/-- Walks on from a stack of nodes with the names around each. The answer to the `n`th question is
`cancelled n`. -/
def run (m : Markers) (file : Path) (text : String) (cancelled : Nat → Bool) (polls : Nat)
    (found : List Declaration) (stack : List (Node × List String)) : Walk :=
  match stack with
  | [] => ⟨found, true, polls⟩
  | (n, ancestors) :: rest =>
    if cancelled polls then ⟨found, false, polls + 1⟩
    else
      let here := declaration? m file text ancestors n
      let below := namesBelow ancestors here
      run m file text cancelled (polls + 1) (found ++ here.toList)
        (n.children.map (·, below) ++ rest)
termination_by Node.sizes (stack.map (·.1))
decreasing_by
  simp only [List.map_append, List.map_map, List.map_cons, Node.sizes_append, Node.sizes,
    Node.size_eq n]
  have : List.map ((fun e : Node × List String => e.1) ∘ fun c => (c, below)) n.children =
      n.children := by simp [Function.comp_def]
  rw [this]
  omega

def through (m : Markers) (file : Path) (text : String) (tree : Node)
    (cancelled : Nat → Bool) : Walk :=
  run m file text cancelled 0 [] [(tree, [])]

/-- A walk that is never cancelled. -/
def never : Nat → Bool := fun _ => false

end Walk

def discover (m : Markers) (source : Source) (cancelled : Nat → Bool) : Walk :=
  Walk.through m source.path source.text source.tree cancelled

end TestScout
