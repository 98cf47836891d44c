import TestScout.ProjectRoot
import TestScout.Settings.Json

/-!
Launches: what an editor is told to start so that the runner runs one declaration, and how that is
put together from the settings, the declaration and the root of its project.
-/

namespace TestScout

inductive LaunchMode where
  | run
  | debug
  deriving DecidableEq, Repr, Inhabited

namespace LaunchMode

def name : LaunchMode → String
  | run => "run"
  | debug => "debug"

def named : List (String × LaunchMode) := [("run", run), ("debug", debug)]

def read : Json.Reader LaunchMode := Json.readVariant named

def noDebug : LaunchMode → Bool
  | run => true
  | debug => false

end LaunchMode

/-- What an editor is told to start. -/
structure LaunchSpec where
  adapter : String
  request : String
  name : String
  executable : String
  program : Path
  cwd : Path
  args : List String
  env : Dict String
  attachChildren : Bool
  skipFiles : List String
  sourceMapLocations : List String
  smartStep : Bool
  console : String
  stopOnEntry : Bool
  noDebug : Bool
  justMyCode : Bool
  taskBefore : Option String
  deriving DecidableEq

namespace LaunchSpec

def readPath : Json.Reader Path := fun v => Path.ofString <$> Json.readText "path string" v

def adapterField : Json.Field String := .required "type" Json.readString

def requestField : Json.Field String := .required "request" Json.readString

def nameField : Json.Field String := .required "name" Json.readString

/-- The program that runs the script. -/
def executableField : Json.Field String := .required "runtimeExecutable" Json.readString

def programField : Json.Field Path := .required "program" readPath

def cwdField : Json.Field Path := .required "cwd" readPath

def argsField : Json.Field (List String) := .required "args" Json.readStrings

def envField : Json.Field (Dict String) := .required "env" Json.readTable

/-- Whether processes that the script starts are followed. -/
def attachChildrenField : Json.Field Bool := .required "autoAttachChildProcesses" Json.readBool

def skipFilesField : Json.Field (List String) := .required "skipFiles" Json.readStrings

def sourceMapLocationsField : Json.Field (List String) :=
  .required "resolveSourceMapLocations" Json.readStrings

/-- Whether code without a source is stepped through quickly. -/
def smartStepField : Json.Field Bool := .required "smartStep" Json.readBool

def consoleField : Json.Field String := .required "console" Json.readString

def stopOnEntryField : Json.Field Bool := .required "stopOnEntry" Json.readBool

def noDebugField : Json.Field Bool := .required "noDebug" Json.readBool

/-- Whether only the project is stepped through. -/
def justMyCodeField : Json.Field Bool := .required "justMyCode" Json.readBool

def taskBeforeField : Json.Field (Option String) :=
  .omissible "preLaunchTask" (Json.readOption Json.readString)

/-- The fields, in the order in which they are declared. -/
def slots : List Json.Slot :=
  [adapterField.slot, requestField.slot, nameField.slot, executableField.slot, programField.slot,
    cwdField.slot, argsField.slot, envField.slot, attachChildrenField.slot, skipFilesField.slot,
    sourceMapLocationsField.slot, smartStepField.slot, consoleField.slot, stopOnEntryField.slot,
    noDebugField.slot, justMyCodeField.slot, taskBeforeField.slot]

def read : Json.Reader LaunchSpec := fun v => do
  let given ← Json.readFields "LaunchSpec" slots v
  return {
    adapter := ← adapterField.of given
    request := ← requestField.of given
    name := ← nameField.of given
    executable := ← executableField.of given
    program := ← programField.of given
    cwd := ← cwdField.of given
    args := ← argsField.of given
    env := ← envField.of given
    attachChildren := ← attachChildrenField.of given
    skipFiles := ← skipFilesField.of given
    sourceMapLocations := ← sourceMapLocationsField.of given
    smartStep := ← smartStepField.of given
    console := ← consoleField.of given
    stopOnEntry := ← stopOnEntryField.of given
    noDebug := ← noDebugField.of given
    justMyCode := ← justMyCodeField.of given
    taskBefore := ← taskBeforeField.of given }

/-- A launch as JSON; there is none if a path in it is no text. -/
def toJson? (s : LaunchSpec) : Option Json := do
  let program ← s.program.toString?
  let cwd ← s.cwd.toString?
  return .obj ([
    ("type", .str s.adapter),
    ("request", .str s.request),
    ("name", .str s.name),
    ("runtimeExecutable", .str s.executable),
    ("program", .str program),
    ("cwd", .str cwd),
    ("args", .texts s.args),
    ("env", .table s.env),
    ("autoAttachChildProcesses", .bool s.attachChildren),
    ("skipFiles", .texts s.skipFiles),
    ("resolveSourceMapLocations", .texts s.sourceMapLocations),
    ("smartStep", .bool s.smartStep),
    ("console", .str s.console),
    ("stopOnEntry", .bool s.stopOnEntry),
    ("noDebug", .bool s.noDebug),
    ("justMyCode", .bool s.justMyCode)] ++
    (s.taskBefore.map fun t => ("preLaunchTask", Json.str t)).toList)

end LaunchSpec

structure StartRequest where
  configuration : LaunchSpec
  deriving DecidableEq

namespace StartRequest

def configurationField : Json.Field LaunchSpec := .required "configuration" LaunchSpec.read

def read : Json.Reader StartRequest := fun v => do
  let given ← Json.readFields "StartDebuggingParams" [configurationField.slot] v
  return ⟨← configurationField.of given⟩

/-- A request as JSON; there is none if its launch has none. -/
def toJson? (r : StartRequest) : Option Json :=
  r.configuration.toJson?.map fun c => .obj [("configuration", c)]

end StartRequest

namespace Settings

/-- The frames that are never stepped into. -/
def skippedFiles : List String := ["<node_internals>/**", "**/node_modules/**"]

/-- The directories in which source maps are not looked for. -/
def excludedSources : List String := ["!**/node_modules/**"]

def projectRoot (s : Settings) (w : World) (file : Path) : Except Failure Path :=
  ProjectRoot.resolve w file s.runner.manifest s.runner.maxHops

/-- The launch of a declaration whose project has a root. -/
def launchFrom (s : Settings) (root : Path) (d : Declaration) (mode : LaunchMode) :
    LaunchSpec where
  adapter := "node"
  request := "launch"
  name := s.launch.name
  executable := s.runner.executable
  program := ((root.join (.ofString "node_modules")).join (.ofString s.runner.package)).join
    (.ofString s.runner.entry)
  cwd := root
  args := ["run", "--root", root.display, "--testNamePattern", Pattern.build d s.launch.policy,
    d.file.display]
  env := s.launch.env
  attachChildren := s.launch.attachChildren
  skipFiles := skippedFiles ++ s.launch.skipFiles
  sourceMapLocations := (root.display ++ "/**") :: excludedSources
  smartStep := true
  console := s.launch.console
  stopOnEntry := false
  noDebug := mode.noDebug
  justMyCode := s.launch.justMyCode
  taskBefore := s.launch.taskBefore

def build (s : Settings) (w : World) (d : Declaration) (mode : LaunchMode) :
    Except Failure LaunchSpec :=
  (s.projectRoot w d.file).map fun root => s.launchFrom root d mode

end Settings

end TestScout
