import TestScout.Markers
import TestScout.Pattern

/-!
The settings: where the runner lives and how the root of a project is found, which calls count, and
what a launch looks like. Not all settings can be worked with; `fault?` says what is wrong.
-/

namespace TestScout

/-- Where the runner lives, and how the root of a project is found: the file that marks it, and how
many directories may be looked at. -/
structure RunnerSettings where
  package : String
  entry : String
  executable : String
  manifest : String
  maxHops : Nat
  deriving DecidableEq, Repr

structure LaunchSettings where
  name : String
  console : String
  policy : PatternPolicy
  justMyCode : Bool
  attachChildren : Bool
  taskBefore : Option String
  env : Dict String
  skipFiles : List String
  deriving DecidableEq

structure Settings where
  runner : RunnerSettings
  discovery : Markers
  launch : LaunchSettings
  deriving DecidableEq

inductive SettingsFault where
  | noHops
  | noManifest
  | noMarkers
  deriving DecidableEq, Repr

def SettingsFault.message : SettingsFault → String
  | .noHops => "runner.max_root_hops must be at least 1"
  | .noManifest => "runner.manifest must not be empty"
  | .noMarkers => "at least one suite or test marker is required"

namespace RunnerSettings

/-- The runner unless something else is said. -/
def builtIn : RunnerSettings := ⟨"vitest", "vitest.mjs", "node", "package.json", 20⟩

end RunnerSettings

def Markers.builtIn : Markers := ⟨["describe"], ["it", "test"]⟩

namespace LaunchSettings

def builtIn : LaunchSettings :=
  ⟨"Vitest", "integratedTerminal", .exactPath, true, true, none, Dict.empty, []⟩

end LaunchSettings

namespace Settings

def builtIn : Settings := ⟨.builtIn, .builtIn, .builtIn⟩

instance : Inhabited Settings := ⟨builtIn⟩

def fault? (s : Settings) : Option SettingsFault :=
  if s.runner.maxHops = 0 then some .noHops
  else if s.runner.manifest.isEmpty then some .noManifest
  else if s.discovery.suites.isEmpty && s.discovery.tests.isEmpty then some .noMarkers
  else none

end Settings

end TestScout
