import TestScout.Settings.Json
import TestScout.Toml.Reader

/-!
The settings as TOML, for the file that holds them. What is not there is as built in. A number of
directories that does not fit into sixty-three bits cannot be written, and then nothing is.
-/

namespace TestScout

namespace Settings

/-- The tables of the settings. The variables come last, since their table is part of another. -/
def sections (s : Settings) : List Toml.Section :=
  [⟨["runner"],
      [("package", .text s.runner.package), ("entry", .text s.runner.entry),
        ("runtime_executable", .text s.runner.executable), ("manifest", .text s.runner.manifest),
        ("max_root_hops", .nat s.runner.maxHops)]⟩,
    ⟨["discovery"],
      [("suite_markers", .texts s.discovery.suites), ("test_markers", .texts s.discovery.tests)]⟩,
    ⟨["launch"],
      [("name", .text s.launch.name), ("console", .text s.launch.console),
        ("pattern_policy", .text s.launch.policy.name), ("just_my_code", .bool s.launch.justMyCode),
        ("auto_attach_child_processes", .bool s.launch.attachChildren)] ++
      (s.launch.taskBefore.map fun t => ("pre_launch_task", Toml.Item.text t)).toList ++
      [("extra_skip_files", .texts s.launch.skipFiles)]⟩,
    ⟨["launch", "env"], s.launch.env.entries.map fun e => (e.1, .text e.2)⟩]

def toToml (s : Settings) : String :=
  if s.runner.maxHops < 0x8000000000000000 then Toml.document s.sections else ""

/-- A section as it is read: an array in its place may go on after its fields. -/
def clip (fields : Nat) : Json → Json
  | .arr items => .arr (items.take fields)
  | v => v

/-- A choice as it is read: what stands under the name of the one chosen may be anything empty. -/
def emptied : Json → Json
  | .obj [(name, .arr [])] => .obj [(name, .null)]
  | .obj [(name, .obj [])] => .obj [(name, .null)]
  | v => v

def launchSection (v : Json) : Json :=
  match clip LaunchSettings.slots.length v with
  | .obj members => .obj (members.map fun e =>
    if e.1 = LaunchSettings.policyField.name then (e.1, emptied e.2) else e)
  | .arr (name :: console :: policy :: rest) => .arr (name :: console :: emptied policy :: rest)
  | v => v

def ofTables (members : List (String × Json)) : Json :=
  .obj (members.map fun e =>
    if e.1 = runnerField.name then (e.1, clip RunnerSettings.slots.length e.2)
    else if e.1 = discoveryField.name then (e.1, clip Markers.slots.length e.2)
    else if e.1 = launchField.name then (e.1, launchSection e.2)
    else e)

/-- The settings that a text holds, if it is TOML and holds settings. -/
def ofToml? (text : String) : Option Settings := do
  let table ← Toml.ofText? text
  (read (ofTables (Toml.Value.entriesJson table.entries))).toOption

end Settings

end TestScout
