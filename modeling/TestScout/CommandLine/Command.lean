import TestScout.Path
import TestScout.Text.Numeral

/-!
What a command line asks for. Its first word names a command; of the words that follow, those that
begin with two hyphens are switches and options, and all others are places. Two hyphens alone end
the options. Nothing may be given twice, and what is not known is not passed over.
-/

namespace TestScout

inductive Command where
  | serve
  | discover (file : Path) (json : Bool)
  | launch (file : Path) (line : Nat) (debug : Bool)
  | pattern (file : Path) (line : Nat) (fullName : Option String)
  | root (file : Path)
  | config
  deriving DecidableEq, Repr

inductive Invocation where
  | run (command : Command)
  | version
  | help
  | misuse
  deriving DecidableEq, Repr

structure Words where
  places : List String
  switches : List String
  options : List (String × String)
  deriving DecidableEq, Repr

structure Grammar where
  switches : List String
  options : List String
  deriving DecidableEq, Repr

namespace Invocation

/-- Whether a word is no place and no value. -/
def isMarked (word : String) : Bool := word.startsWith "-" && word ≠ "-"

/-- The name in a word with two hyphens, and the value after an equals sign. -/
def splitWord (word : String) : String × Option String :=
  let cs := word.toList.drop 2
  let name := cs.takeWhile (· ≠ '=')
  match cs.drop name.length with
  | _ :: value => (String.ofList name, some (String.ofList value))
  | [] => (String.ofList name, none)

/-- Sorts words; where that is not possible, says what comes of it instead. -/
def sortWords (g : Grammar) (found : Words) : List String → Except Invocation Words
  | [] => .ok found
  | "--" :: rest => .ok { found with places := found.places ++ rest }
  | word :: rest =>
    if !isMarked word then sortWords g { found with places := found.places ++ [word] } rest
    else if !word.startsWith "--" then
      .error (if word.startsWith "-h" then .help else .misuse)
    else
      let (name, value?) := splitWord word
      let attached := value?.isSome
      if name = "help" && !attached then .error .help
      else if g.switches.contains name && !attached && !found.switches.contains name then
        sortWords g { found with switches := found.switches ++ [name] } rest
      else if g.options.contains name && (found.options.lookup name).isNone then
        let value? := if attached then value? else rest.head?.filter (!isMarked ·)
        match value? with
        | some value =>
          sortWords g { found with options := found.options ++ [(name, value)] }
            (rest.drop (if attached then 0 else 1))
        | none => .error .misuse
      else .error .misuse
termination_by words => words.length

/-- The file among the places, if it is the only place and there is one. -/
def file? (words : Words) : Option Path :=
  match words.places with
  | [file] => if file.isEmpty then none else some (.ofString file)
  | _ => none

def line? (words : Words) : Option Nat := (words.options.lookup "line").bind Text.word?

/-- What the words after the name of a command come to. -/
def ofWords (g : Grammar) (command? : Words → Option Command) (words : List String) : Invocation :=
  match sortWords g ⟨[], [], []⟩ words with
  | .error other => other
  | .ok words =>
    match command? words with
    | some command => .run command
    | none => .misuse

/-- What a command line comes to. -/
def ofArguments : List String → Invocation
  | [] => .misuse
  | "serve" :: words => ofWords ⟨[], []⟩ (fun ws => if ws.places.isEmpty then some .serve else none)
    words
  | "discover" :: words => ofWords ⟨["json"], []⟩
    (fun ws => (file? ws).map fun file => .discover file (ws.switches.contains "json")) words
  | "launch" :: words => ofWords ⟨["debug"], ["line"]⟩
    (fun ws => do return .launch (← file? ws) (← line? ws) (ws.switches.contains "debug")) words
  | "pattern" :: words => ofWords ⟨[], ["line", "matches"]⟩
    (fun ws => do return .pattern (← file? ws) (← line? ws) (ws.options.lookup "matches")) words
  | "root" :: words => ofWords ⟨[], []⟩ (fun ws => (file? ws).map .root) words
  | "config" :: words => ofWords ⟨[], []⟩
    (fun ws => if ws.places.isEmpty then some .config else none) words
  | word :: _ =>
    if word = "help" || word = "--help" || (isMarked word && word.startsWith "-h") then .help
    else if word = "--version" || word.startsWith "-V" then .version
    else .misuse

end Invocation

end TestScout
