import TestScout.Path

/-!
The dialects that a source file can be written in. They differ in two ways that decide what a text
means: whether types are written, and whether markup is.
-/

namespace TestScout.Syntax

inductive Language where
  | typeScript
  | tsx
  | javaScript
  deriving DecidableEq, Repr, Inhabited

namespace Language

def name : Language → String
  | typeScript => "TypeScript"
  | tsx => "TSX"
  | javaScript => "JavaScript"

/-- What a dialect is called in descriptions of a source. -/
def tag : Language → String
  | typeScript => "TypeScript"
  | tsx => "Tsx"
  | javaScript => "JavaScript"

def typed : Language → Bool
  | javaScript => false
  | _ => true

def markup : Language → Bool
  | typeScript => false
  | _ => true

/-- The dialect that the extension of a path stands for, in whatever case it is written. -/
def ofPath (p : Path) : Language :=
  let lower (e : String) : String := String.ofList (e.toList.map Char.toLower)
  match (p.extension?.bind Text.ofBytes?).map lower with
  | some "tsx" => tsx
  | some "js" | some "jsx" | some "mjs" | some "cjs" => javaScript
  | _ => typeScript

end Language

end TestScout.Syntax
