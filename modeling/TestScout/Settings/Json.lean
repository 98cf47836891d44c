import TestScout.Settings.Basic

/-!
The settings as JSON. A section or a field that is not given is as built in.
-/

namespace TestScout

namespace RunnerSettings

def packageField : Json.Field String := .defaulting "package" Json.readString builtIn.package

def entryField : Json.Field String := .defaulting "entry" Json.readString builtIn.entry

def executableField : Json.Field String :=
  .defaulting "runtime_executable" Json.readString builtIn.executable

def manifestField : Json.Field String := .defaulting "manifest" Json.readString builtIn.manifest

def maxHopsField : Json.Field Nat := .defaulting "max_root_hops" Json.readNat builtIn.maxHops

/-- The fields, in the order in which they are declared. -/
def slots : List Json.Slot :=
  [packageField.slot, entryField.slot, executableField.slot, manifestField.slot,
    maxHopsField.slot]

def read : Json.Reader RunnerSettings := fun v => do
  let given ← Json.readFields "RunnerConfig" slots v
  return {
    package := ← packageField.of given
    entry := ← entryField.of given
    executable := ← executableField.of given
    manifest := ← manifestField.of given
    maxHops := ← maxHopsField.of given }

def toJson (s : RunnerSettings) : Json :=
  .obj [("package", .str s.package), ("entry", .str s.entry),
    ("runtime_executable", .str s.executable), ("manifest", .str s.manifest),
    ("max_root_hops", .nat s.maxHops)]

end RunnerSettings

namespace Markers

def suitesField : Json.Field (List String) :=
  .defaulting "suite_markers" Json.readStrings builtIn.suites

def testsField : Json.Field (List String) :=
  .defaulting "test_markers" Json.readStrings builtIn.tests

def slots : List Json.Slot := [suitesField.slot, testsField.slot]

def read : Json.Reader Markers := fun v => do
  let given ← Json.readFields "DiscoveryConfig" slots v
  return { suites := ← suitesField.of given, tests := ← testsField.of given }

def toJson (m : Markers) : Json :=
  .obj [("suite_markers", .texts m.suites), ("test_markers", .texts m.tests)]

end Markers

namespace LaunchSettings

def nameField : Json.Field String := .defaulting "name" Json.readString builtIn.name

def consoleField : Json.Field String := .defaulting "console" Json.readString builtIn.console

def policyField : Json.Field PatternPolicy :=
  .defaulting "pattern_policy" PatternPolicy.read builtIn.policy

def justMyCodeField : Json.Field Bool :=
  .defaulting "just_my_code" Json.readBool builtIn.justMyCode

def attachChildrenField : Json.Field Bool :=
  .defaulting "auto_attach_child_processes" Json.readBool builtIn.attachChildren

def taskBeforeField : Json.Field (Option String) :=
  .defaulting "pre_launch_task" (Json.readOption Json.readString) builtIn.taskBefore

def envField : Json.Field (Dict String) := .defaulting "env" Json.readTable builtIn.env

def skipFilesField : Json.Field (List String) :=
  .defaulting "extra_skip_files" Json.readStrings builtIn.skipFiles

def slots : List Json.Slot :=
  [nameField.slot, consoleField.slot, policyField.slot, justMyCodeField.slot,
    attachChildrenField.slot, taskBeforeField.slot, envField.slot, skipFilesField.slot]

def read : Json.Reader LaunchSettings := fun v => do
  let given ← Json.readFields "LaunchConfig" slots v
  return {
    name := ← nameField.of given
    console := ← consoleField.of given
    policy := ← policyField.of given
    justMyCode := ← justMyCodeField.of given
    attachChildren := ← attachChildrenField.of given
    taskBefore := ← taskBeforeField.of given
    env := ← envField.of given
    skipFiles := ← skipFilesField.of given }

def toJson (s : LaunchSettings) : Json :=
  .obj [("name", .str s.name), ("console", .str s.console), ("pattern_policy", .str s.policy.name),
    ("just_my_code", .bool s.justMyCode), ("auto_attach_child_processes", .bool s.attachChildren),
    ("pre_launch_task", (s.taskBefore.map Json.str).getD .null), ("env", .table s.env),
    ("extra_skip_files", .texts s.skipFiles)]

end LaunchSettings

namespace Settings

def runnerField : Json.Field RunnerSettings := .defaulting "runner" RunnerSettings.read .builtIn

def discoveryField : Json.Field Markers := .defaulting "discovery" Markers.read .builtIn

def launchField : Json.Field LaunchSettings := .defaulting "launch" LaunchSettings.read .builtIn

/-- The sections, in the order in which they are declared. -/
def slots : List Json.Slot := [runnerField.slot, discoveryField.slot, launchField.slot]

def read : Json.Reader Settings := fun v => do
  let given ← Json.readFields "Config" slots v
  return {
    runner := ← runnerField.of given
    discovery := ← discoveryField.of given
    launch := ← launchField.of given }

def toJson (s : Settings) : Json :=
  .obj [("runner", s.runner.toJson), ("discovery", s.discovery.toJson), ("launch", s.launch.toJson)]

end Settings

end TestScout
