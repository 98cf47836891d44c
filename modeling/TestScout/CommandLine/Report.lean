import TestScout.CommandLine.Command
import TestScout.Json.Printer
import TestScout.LineNumber
import TestScout.Settings.Load
import TestScout.Walk
import TestScout.Launch

/-!
What the commands of the command line print, and why they fail. A declaration is chosen by the line
on which its name begins; where several names begin on a line, the one with the most names around it
is meant, and of those the last.
-/

namespace TestScout

inductive CommandError where
  | settings (error : SettingsError)
  | failed (failure : Failure)
  | notDeclared (file : Path) (line : Nat)
  | notEncodable
  | badPattern (pattern : String)

namespace CommandError

/-- The causes of a failure as they are told, the outermost first. The words of a parser that has
refused a file are a cause of their own. -/
def causesWith (words : Option String) : CommandError → List String
  | settings error =>
    ["failed to load configuration", error.messageWith words] ++
      match error with
      | .unreadable fault => [fault.message]
      | .malformed => words.toList
      | .invalid _ => []
  | failed failure =>
    failure.message ::
      match failure with
      | .io _ fault => [fault.message]
      | _ => []
  | notDeclared file line =>
    ["no test or suite declared on " ++ file.display ++ ":" ++ toString line]
  | notEncodable => ["path contains invalid UTF-8 characters"]
  | badPattern pattern => ["invalid pattern " ++ pattern]

def causes (e : CommandError) : List String :=
  e.causesWith none

end CommandError

namespace CommandLine

open Syntax (Source)

/-- The source in a file, and what it declares. -/
def examine (w : World) (s : Settings) (file : Path) :
    Except CommandError (Source × List Declaration) :=
  let file := file.absolutize w.cwd
  match w.readText file with
  | .error fault => .error (.failed (.io file fault))
  | .ok text =>
    let source := Source.ofText file text
    .ok (source, (discover s.discovery source Walk.never).declarations)

/-- The declaration with the most names around it, the last of those with equally many. -/
def innermost? (declarations : List Declaration) : Option Declaration :=
  declarations.foldl (fun best d =>
    match best with
    | some b => if b.ancestors.length ≤ d.ancestors.length then some d else some b
    | none => some d) none

def declaredOn? (text : String) (declarations : List Declaration) (line : Nat) :
    Option Declaration :=
  let starts := lineStarts text
  innermost? (declarations.filter fun d => lineNumber starts d.span.start = line)

def pick (w : World) (s : Settings) (file : Path) (line : Nat) :
    Except CommandError Declaration := do
  let (source, declarations) ← examine w s file
  match declaredOn? source.text declarations line with
  | some d => return d
  | none => throw (.notDeclared source.path line)

/-- The launch of the declaration on a line of a file, as JSON. -/
def launchJson (w : World) (s : Settings) (file : Path) (line : Nat) (debug : Bool) :
    Except CommandError Json := do
  let d ← pick w s file line
  match s.build w d (if debug then .debug else .run) with
  | .error failure => throw (.failed failure)
  | .ok spec =>
    match spec.toJson? with
    | some v => return v
    | none => throw .notEncodable

def padLeft (width : Nat) (text : String) : String :=
  String.ofList (List.replicate (width - text.length) ' ') ++ text

def padRight (width : Nat) (text : String) : String :=
  text ++ String.ofList (List.replicate (width - text.length) ' ')

/-- A declaration in a listing: its line, its kind and its name, further to the right the more names
are around it. -/
def listed (starts : List Nat) (d : Declaration) : String :=
  padLeft 5 (toString (lineNumber starts d.span.start)) ++ "  " ++
    String.join (d.ancestors.map fun _ => "  ") ++ padRight 5 d.kind.name ++ " " ++ d.name ++ "\n"

def listing (source : Source) (declarations : List Declaration) : String :=
  if declarations.isEmpty then "No tests found in " ++ source.path.display ++ "\n"
  else String.join (declarations.map (listed (lineStarts source.text)))

/-- What a command prints. What the server says is not printed here. -/
def report (w : World) (s : Settings) : Command → Except CommandError String
  | .serve => .ok ""
  | .discover file json => do
    let (source, declarations) ← examine w s file
    if json then
      match declarations.mapM Declaration.toJson with
      | .ok items => return (Json.arr items).pretty ++ "\n"
      | .error _ => throw .notEncodable
    else return listing source declarations
  | .launch file line debug => do return (← launchJson w s file line debug).pretty ++ "\n"
  | .pattern file line fullName => do
    let d ← pick w s file line
    let pattern := Pattern.build d s.launch.policy
    match fullName with
    | none => return pattern ++ "\n"
    | some name =>
      match Pattern.matches? pattern name with
      | some found =>
        return pattern ++ "\n" ++ name ++ (if found then ": matches" else ": no match") ++ "\n"
      | none => throw (.badPattern pattern)
  | .root file =>
    match s.projectRoot w file with
    | .ok root => return root.display ++ "\n"
    | .error failure => throw (.failed failure)
  | .config => .ok s.toToml

/-- The files that a command looks at, apart from those that hold settings. -/
def places (cwd : Path) (s : Settings) : Command → List Path
  | .discover file _ => [file]
  | .launch file _ _ | .pattern file _ _ | .root file =>
    file :: ProjectRoot.candidates cwd file s.runner.manifest s.runner.maxHops
  | .serve | .config => []

end CommandLine

inductive Ending where
  | printed (text : String)
  | failed (error : CommandError)
  | help
  | misuse

namespace Ending

def versionText : String := "vitest-lens 0.1.0\n"

/-- The number by which those who started the program know how it ended. -/
def code : Ending → Nat
  | printed _ | help => 0
  | failed _ => 1
  | misuse => 2

def usageText : String :=
  "Usage: vitest-lens COMMAND\n\n" ++
  "  serve                              answer an editor\n" ++
  "  discover FILE [--json]             list the declarations in a file\n" ++
  "  launch FILE --line N [--debug]     show how the declaration on a line is launched\n" ++
  "  pattern FILE --line N [--matches NAME]\n" ++
  "                                     show the pattern of the declaration on a line\n" ++
  "  root FILE                          show the root of the project of a file\n" ++
  "  config                             show the settings\n"

/-- How the program ends with some arguments. They are looked at before the settings are. -/
def ofArguments (w : World) (arguments : List String) : Ending :=
  match Invocation.ofArguments arguments with
  | .version => printed versionText
  | .help => help
  | .misuse => misuse
  | .run command =>
    match Settings.load w (.ofString ".") with
    | .error error => failed (.settings error)
    | .ok s =>
      match CommandLine.report w s command with
      | .ok text => printed text
      | .error error => failed error

end Ending

end TestScout
