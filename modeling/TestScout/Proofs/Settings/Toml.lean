import TestScout.Proofs.Settings.Codec
import TestScout.Proofs.Toml.Document
import TestScout.Settings.Toml

/-!
Settings through their file. The tables that are read are those that were written, each with its
entries in their order; as JSON they are the sections of the settings, of which only the launch
looks different, since its variables come last and a task that is not set is not there.
-/

namespace TestScout

open Toml

lemma Dict.nodup_names {α : Type} (d : Dict α) : d.names.Nodup := by
  refine List.pairwise_map.mpr (d.rise.imp fun {a b} hlt (heq : a.1 = b.1) => ?_)
  rw [heq] at hlt
  exact String.lt_irrefl _ hlt

/-! ### Tables as JSON -/

namespace Toml.Value

lemma entriesJson_eq_map (entries : List (String × Value)) :
    entriesJson entries = entries.map fun e => (e.1, e.2.toJson) := by
  induction entries with
  | nil => rfl
  | cons e entries ih => rw [entriesJson, ih, List.map_cons]

lemma listJson_map_str (items : List String) :
    listJson (items.map .str) = items.map Json.str := by
  induction items with
  | nil => rfl
  | cons s items ih => rw [List.map_cons, listJson, ih, List.map_cons, toJson]

end Toml.Value

def Toml.Item.json : Item → Json
  | .text s => .str s
  | .nat n => .nat n
  | .bool b => .bool b
  | .texts items => .texts items

lemma Toml.Item.toJson_value (item : Item) : item.value.toJson = item.json := by
  match item with
  | .text s => simp [value, Value.toJson, json]
  | .nat n => simp [value, Value.toJson, json, Json.nat]
  | .bool b => simp [value, Value.toJson, json]
  | .texts items => simp [value, Value.toJson, json, Json.texts, Value.listJson_map_str]

lemma Toml.Table.entriesJson_filled (entries : List (String × Item)) :
    Value.entriesJson (filled entries).entries = entries.map fun e => (e.1, e.2.json) := by
  simp [filled, append, opened, Value.entriesJson_eq_map, Toml.Item.toJson_value]

lemma Toml.Table.entriesJson_push (t sub : Table) (key : String) :
    Value.entriesJson (t.push key sub).entries =
      Value.entriesJson t.entries ++ [(key, .obj (Value.entriesJson sub.entries))] := by
  simp [push, append, Value.entriesJson_eq_map, value, Value.toJson]

/-! ### The sections -/

/-- The members of the launch as the file gives them. -/
def LaunchSettings.fileMembers (s : LaunchSettings) : List (String × Json) :=
  [("name", .str s.name), ("console", .str s.console), ("pattern_policy", .str s.policy.name),
    ("just_my_code", .bool s.justMyCode),
    ("auto_attach_child_processes", .bool s.attachChildren)] ++
  (s.taskBefore.map fun t => ("pre_launch_task", Json.str t)).toList ++
  [("extra_skip_files", .texts s.skipFiles), ("env", .table s.env)]

lemma LaunchSettings.read_fileMembers (s : LaunchSettings) :
    read (.obj s.fileMembers) = .ok s := by
  obtain ⟨name, console, policy, justMyCode, attachChildren, taskBefore, env, skipFiles⟩ := s
  have hpolicy := PatternPolicy.read_name policy
  have henv := Json.readTable_table env
  have hskip := Json.readStrings_texts skipFiles
  cases taskBefore with
  | none =>
      exact read_obj (Json.means_defaulting rfl rfl) (Json.means_defaulting rfl rfl)
        (Json.means_defaulting rfl hpolicy) (Json.means_defaulting rfl rfl)
        (Json.means_defaulting rfl rfl) (Json.means_absent rfl) (Json.means_defaulting rfl henv)
        (Json.means_defaulting rfl hskip)
  | some task =>
      exact read_obj (Json.means_defaulting rfl rfl) (Json.means_defaulting rfl rfl)
        (Json.means_defaulting rfl hpolicy) (Json.means_defaulting rfl rfl)
        (Json.means_defaulting rfl rfl) (Json.means_defaulting rfl rfl)
        (Json.means_defaulting rfl henv) (Json.means_defaulting rfl hskip)

namespace Settings

def fileMembers (s : Settings) : List (String × Json) :=
  [("runner", s.runner.toJson), ("discovery", s.discovery.toJson),
    ("launch", .obj s.launch.fileMembers)]

lemma ofTables_fileMembers (s : Settings) : ofTables s.fileMembers = .obj s.fileMembers := by
  obtain ⟨runner, discovery, name, console, policy, justMyCode, attachChildren, taskBefore, env,
    skipFiles⟩ := s
  cases taskBefore <;> rfl

lemma read_fileMembers {s : Settings} (h : s.runner.maxHops < 0x8000000000000000) :
    read (.obj s.fileMembers) = .ok s :=
  read_obj (Json.means_defaulting rfl (RunnerSettings.read_toJson (by omega)))
    (Json.means_defaulting rfl (Markers.read_toJson _))
    (Json.means_defaulting rfl (LaunchSettings.read_fileMembers _))

/-- The tables of a file: that of the runner, that of the markers, and that of the launch with the
one of the variables in it. -/
def fileTables (runner discovery launch env : List (String × Item)) : Table :=
  ((Document.start.root.push "runner" (.filled runner)).push "discovery"
    (.filled discovery)).push "launch" ((Table.filled launch).push "env" (.filled env))

lemma foldlM_add? {runner discovery launch env : List (String × Item)}
    (hrunner : (runner.map (·.1)).Nodup) (hdiscovery : (discovery.map (·.1)).Nodup)
    (hlaunch : ("env" :: launch.map (·.1)).Nodup) (henv : (env.map (·.1)).Nodup) :
    [Section.mk ["runner"] runner, ⟨["discovery"], discovery⟩, ⟨["launch"], launch⟩,
        ⟨["launch", "env"], env⟩].foldlM Section.add? Document.start.root =
      some (fileTables runner discovery launch env) := by
  rw [List.nodup_cons] at hlaunch
  let first := Document.start.root.push "runner" (.filled runner)
  let second := first.push "discovery" (.filled discovery)
  have hfirst : Section.add? Document.start.root ⟨["runner"], runner⟩ = some first :=
    Section.add?_absent rfl hrunner
  have hsecond : Section.add? first ⟨["discovery"], discovery⟩ = some second :=
    Section.add?_absent rfl hdiscovery
  have hthird : Section.add? second ⟨["launch"], launch⟩ =
      some (second.push "launch" (.filled launch)) :=
    Section.add?_absent rfl hlaunch.2
  have hlast : Section.add? (second.push "launch" (.filled launch)) ⟨["launch", "env"], env⟩ =
      some (fileTables runner discovery launch env) := by
    rw [Section.add?_push rfl _ (by simp),
      Section.add?_absent (Table.get?_filled_eq_none hlaunch.1) henv]
    rfl
  simp only [List.foldlM_cons, List.foldlM_nil, hfirst, hsecond, hthird, hlast,
    Option.bind_eq_bind, Option.bind_some, pure]

lemma entriesJson_fileTables (runner discovery launch env : List (String × Item)) :
    Value.entriesJson (fileTables runner discovery launch env).entries =
      [("runner", .obj (runner.map fun e => (e.1, e.2.json))),
        ("discovery", .obj (discovery.map fun e => (e.1, e.2.json))),
        ("launch", .obj (launch.map (fun e => (e.1, e.2.json)) ++
          [("env", .obj (env.map fun e => (e.1, e.2.json)))]))] := by
  have hstart : Value.entriesJson Document.start.root.entries = [] := rfl
  simp [fileTables, Table.entriesJson_push, Table.entriesJson_filled, hstart]

/-- Only the number of directories could be too large to be written. -/
lemma fits_sections {s : Settings} (h : s.runner.maxHops < 0x8000000000000000) :
    ∀ sec ∈ s.sections, sec.Fits := by
  have htask : ∀ e ∈ (s.launch.taskBefore.map fun t => ("pre_launch_task", Item.text t)).toList,
      e.2.Fits := by
    cases s.launch.taskBefore <;> simp
  have henv : ∀ e ∈ s.launch.env.entries.map fun e => (e.1, Item.text e.2), e.2.Fits := by
    intro e he
    obtain ⟨v, -, rfl⟩ := List.mem_map.mp he
    exact Item.fits_text v.2
  simp only [sections, Section.Fits, List.forall_mem_cons, List.forall_mem_append,
    List.not_mem_nil, false_implies, implies_true, Item.fits_text, Item.fits_nat, Item.fits_bool,
    Item.fits_texts, h, and_true, true_and]
  exact ⟨by decide, by decide, ⟨by decide, by decide, htask⟩, by decide, by decide, henv⟩

lemma ofText?_toToml {s : Settings} (h : s.runner.maxHops < 0x8000000000000000) :
    (ofText? s.toToml).map (fun t => Value.entriesJson t.entries) = some s.fileMembers := by
  have henv : ((s.launch.env.entries.map fun e => (e.1, Item.text e.2)).map (·.1)).Nodup := by
    rw [List.map_map]
    exact s.launch.env.nodup_names
  have hadd : s.sections.foldlM Section.add? Document.start.root = some _ :=
    foldlM_add? (by simp) (by simp) (by cases s.launch.taskBefore <;> simp) henv
  rw [toToml, if_pos h, ofText?_document (by simp [sections]) (fits_sections h) hadd,
    Option.map_some, entriesJson_fileTables, List.map_map]
  obtain ⟨runner, discovery, name, console, policy, justMyCode, attachChildren, taskBefore, env,
    skipFiles⟩ := s
  cases taskBefore <;> rfl

/-- **Round trip**: settings are read back from what is written for them, whatever texts, lists and
variables they hold. Only a number of directories beyond the integers of the format cannot be
written, and then nothing is. -/
theorem toToml_round_trip (s : Settings) :
    (s.runner.maxHops ≤ 0x7FFFFFFFFFFFFFFF → ofToml? s.toToml = some s) ∧
      (0x7FFFFFFFFFFFFFFF < s.runner.maxHops → s.toToml = "") := by
  constructor
  · intro hle
    have h : s.runner.maxHops < 0x8000000000000000 := by omega
    obtain ⟨table, htable, hmembers⟩ := Option.map_eq_some_iff.mp (ofText?_toToml h)
    rw [ofToml?, htable]
    change (read (ofTables (Value.entriesJson table.entries))).toOption = some s
    rw [hmembers, ofTables_fileMembers, read_fileMembers h]
    rfl
  · intro hlt
    rw [toToml, if_neg (by omega)]

end Settings

end TestScout
