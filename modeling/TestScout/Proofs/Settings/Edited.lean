import Mathlib.Data.List.Nodup
import TestScout.Proofs.Settings.Codec

/-!
Settings of which only a part is written. From the JSON that settings are written as, sections and
fields may be taken out and members with other names may be put in, among the sections and in every
section. It is still read, as the settings with what was taken out as it is built in: a field is
looked for under its name, and what stands under any other name is passed over.
-/

namespace TestScout

namespace Json

variable {α : Type} {gone : String → Bool} {whole members : List (String × Json)}

/-- An object some of whose members are gone, by their names, and which has others under names that
no member had before. The order does not matter. -/
inductive Edited (gone : String → Bool) : Json → Json → Prop
  | object {whole members : List (String × Json)} (more : List (String × Json))
      (new : ∀ e ∈ more, e.1 ∉ whole.map (·.1))
      (same : members.Perm (whole.filter (fun e => !gone e.1) ++ more)) :
      Edited gone (.obj whole) (.obj members)

lemma edited_nothing (members : List (String × Json)) :
    Edited (fun _ => false) (.obj members) (.obj members) := by
  refine .object [] (fun e he => absurd he List.not_mem_nil) ?_
  rw [Bool.not_false, List.filter_true, List.append_nil]

lemma Edited.exists_members {v : Json} (h : Edited gone (.obj whole) v) :
    ∃ members, v = .obj members := by
  cases h
  exact ⟨_, rfl⟩

lemma Edited.mem_iff {name : String} {v w : Json} (h : Edited gone (.obj whole) (.obj members))
    (nodup : (whole.map (·.1)).Nodup) (hv : (name, v) ∈ whole) :
    (name, w) ∈ members ↔ gone name = false ∧ w = v := by
  obtain ⟨more, new, same⟩ := h
  rw [same.mem_iff, List.mem_append, List.mem_filter]
  constructor
  · rintro (⟨hw, hkept⟩ | hnew)
    · have heq := List.inj_on_of_nodup_map nodup hw hv rfl
      exact ⟨by simpa using hkept, congrArg Prod.snd heq⟩
    · exact absurd (List.mem_map_of_mem hv) (new (name, w) hnew)
  · rintro ⟨hkept, rfl⟩
    exact Or.inl ⟨hv, by simpa using hkept⟩

lemma mem_of_lookup {name : String} {v : Json} (h : members.lookup name = some v) :
    (name, v) ∈ members := by
  obtain ⟨before, after, rfl, -⟩ := List.lookup_eq_some_iff.mp h
  exact List.mem_append_right _ List.mem_cons_self

lemma Edited.lookup {name : String} {v : Json} (h : Edited gone (.obj whole) (.obj members))
    (nodup : (whole.map (·.1)).Nodup) (hv : whole.lookup name = some v) :
    members.lookup name = if gone name then none else some v := by
  have hmem (w : Json) := h.mem_iff (w := w) nodup (mem_of_lookup hv)
  cases hlookup : members.lookup name with
  | some w =>
      obtain ⟨hkept, rfl⟩ := (hmem w).mp (mem_of_lookup hlookup)
      rw [hkept, if_neg Bool.false_ne_true]
  | none =>
      split
      · rfl
      · next hkept =>
        have hleft := (hmem v).mpr ⟨Bool.eq_false_iff.mpr hkept, rfl⟩
        exact absurd (List.lookup_eq_none_iff.mp hlookup _ hleft) (by simp)

/-- A field means what it meant before, and is as built in if it is gone. -/
lemma Edited.means {name : String} {read : Reader α} {default a : α} {v : Json}
    (h : Edited gone (.obj whole) (.obj members)) (nodup : (whole.map (·.1)).Nodup)
    (hv : whole.lookup name = some v) (hread : read v = .ok a) :
    (Field.defaulting name read default).Means members (if gone name then default else a) := by
  have hlookup := h.lookup nodup hv
  split
  · next hgone =>
    rw [if_pos hgone] at hlookup
    exact means_absent hlookup
  · next hkept =>
    rw [if_neg hkept] at hlookup
    exact means_defaulting hlookup hread

end Json

open Json

variable {gone : String → Bool} {v : Json}

namespace RunnerSettings

/-- The settings of the runner, with the fields that are gone as built in. -/
def without (gone : String → Bool) (s : RunnerSettings) : RunnerSettings where
  package := if gone "package" then builtIn.package else s.package
  entry := if gone "entry" then builtIn.entry else s.entry
  executable := if gone "runtime_executable" then builtIn.executable else s.executable
  manifest := if gone "manifest" then builtIn.manifest else s.manifest
  maxHops := if gone "max_root_hops" then builtIn.maxHops else s.maxHops

lemma read_edited {s : RunnerSettings} (hhops : s.maxHops < 0x10000000000000000)
    (h : Json.Edited gone s.toJson v) : read v = .ok (s.without gone) := by
  obtain ⟨members, rfl⟩ := h.exists_members
  have nodup : (slots.map (·.name)).Nodup := by decide
  exact read_obj (h.means nodup rfl rfl) (h.means nodup rfl rfl) (h.means nodup rfl rfl)
    (h.means nodup rfl rfl) (h.means nodup rfl (readNat_nat hhops))

end RunnerSettings

namespace Markers

def without (gone : String → Bool) (m : Markers) : Markers where
  suites := if gone "suite_markers" then builtIn.suites else m.suites
  tests := if gone "test_markers" then builtIn.tests else m.tests

lemma read_edited {m : Markers} (h : Json.Edited gone m.toJson v) :
    read v = .ok (m.without gone) := by
  obtain ⟨members, rfl⟩ := h.exists_members
  have nodup : (slots.map (·.name)).Nodup := by decide
  exact read_obj (h.means nodup rfl (readStrings_texts _))
    (h.means nodup rfl (readStrings_texts _))

end Markers

namespace LaunchSettings

def without (gone : String → Bool) (s : LaunchSettings) : LaunchSettings where
  name := if gone "name" then builtIn.name else s.name
  console := if gone "console" then builtIn.console else s.console
  policy := if gone "pattern_policy" then builtIn.policy else s.policy
  justMyCode := if gone "just_my_code" then builtIn.justMyCode else s.justMyCode
  attachChildren :=
    if gone "auto_attach_child_processes" then builtIn.attachChildren else s.attachChildren
  taskBefore := if gone "pre_launch_task" then builtIn.taskBefore else s.taskBefore
  env := if gone "env" then builtIn.env else s.env
  skipFiles := if gone "extra_skip_files" then builtIn.skipFiles else s.skipFiles

/-- A task that is not there is written as `null`, and `null` is read as no task. -/
lemma readOption_task (task : Option String) :
    readOption readString ((task.map Json.str).getD .null) = .ok task := by
  cases task <;> rfl

lemma read_edited {s : LaunchSettings} (h : Json.Edited gone s.toJson v) :
    read v = .ok (s.without gone) := by
  obtain ⟨members, rfl⟩ := h.exists_members
  have nodup : (slots.map (·.name)).Nodup := by decide
  exact read_obj (h.means nodup rfl rfl) (h.means nodup rfl rfl)
    (h.means nodup rfl (PatternPolicy.read_name _)) (h.means nodup rfl rfl)
    (h.means nodup rfl rfl) (h.means nodup rfl (readOption_task _))
    (h.means nodup rfl (readTable_table _)) (h.means nodup rfl (readStrings_texts _))

end LaunchSettings

namespace Settings

/-- What is left out of written settings: whole sections, and fields of sections. -/
structure Omission where
  sections : String → Bool
  fields : String → String → Bool

/-- The settings with what is left out as it is built in. -/
def without (o : Omission) (s : Settings) : Settings where
  runner := if o.sections "runner" then .builtIn else s.runner.without (o.fields "runner")
  discovery :=
    if o.sections "discovery" then .builtIn else s.discovery.without (o.fields "discovery")
  launch := if o.sections "launch" then .builtIn else s.launch.without (o.fields "launch")

inductive Edited (o : Omission) (s : Settings) : Json → Prop
  | sections {runner discovery launch v : Json}
      (runners : Json.Edited (o.fields "runner") s.runner.toJson runner)
      (markers : Json.Edited (o.fields "discovery") s.discovery.toJson discovery)
      (launches : Json.Edited (o.fields "launch") s.launch.toJson launch)
      (edited : Json.Edited o.sections
        (.obj [("runner", runner), ("discovery", discovery), ("launch", launch)]) v) :
      Edited o s v

lemma read_of_edited {o : Omission} {s : Settings} (hhops : s.runner.maxHops < 0x10000000000000000)
    (h : Edited o s v) : read v = .ok (s.without o) := by
  obtain ⟨runners, markers, launches, edited⟩ := h
  obtain ⟨members, rfl⟩ := edited.exists_members
  have nodup : (slots.map (·.name)).Nodup := by decide
  exact read_obj (edited.means nodup rfl (RunnerSettings.read_edited hhops runners))
    (edited.means nodup rfl (Markers.read_edited markers))
    (edited.means nodup rfl (LaunchSettings.read_edited launches))

def Omission.none : Omission := ⟨fun _ => false, fun _ _ => false⟩

lemma edited_toJson (s : Settings) : Edited .none s s.toJson :=
  .sections (edited_nothing _) (edited_nothing _) (edited_nothing _) (edited_nothing _)

/-- **Written settings**: whatever is left out of the JSON of settings, and whatever is added under
other names, it is read as the settings with what is left out as it is built in. In particular the
JSON of settings is read as the settings. -/
theorem edited_read (s : Settings) (hhops : s.runner.maxHops < 0x10000000000000000) :
    (∀ o v, Edited o s v → read v = .ok (s.without o)) ∧ read s.toJson = .ok s :=
  ⟨fun _ _ => read_of_edited hhops, read_of_edited hhops (edited_toJson s)⟩

/-- Settings with something of their own in every section. -/
def sampleSettings : Settings where
  runner := { RunnerSettings.builtIn with entry := "main.mjs", maxHops := 3 }
  discovery := ⟨["suite"], ["spec"]⟩
  launch := { LaunchSettings.builtIn with
    console := "internalConsole", taskBefore := some "build", env := .ofList [("console", "1")] }

/-- The section of the markers and two fields of the others. -/
def sampleOmission : Omission where
  sections := (· == "discovery")
  fields sec field := (sec, field) ∈ [("runner", "entry"), ("launch", "console")]

/-- The sections that are left of these settings, and two members of other names. -/
def sampleSections : List (String × Json) :=
  [("runner", .obj [("package", .str "vitest"), ("runtime_executable", .str "node"),
      ("manifest", .str "package.json"), ("max_root_hops", .nat 3), ("colour", .bool true)]),
    ("launch", .obj [("name", .str "Vitest"), ("pattern_policy", .str "exact-path"),
      ("just_my_code", .bool true), ("auto_attach_child_processes", .bool true),
      ("pre_launch_task", .str "build"), ("env", .obj [("console", .str "1")]),
      ("extra_skip_files", .arr [])]),
    ("entry", .str "none")]

/-- These sections, in whatever order, are read as settings; a variable that has the name of a field
is not taken for one. -/
theorem sampleSections_read :
    sampleSettings.runner.maxHops < 0x10000000000000000 ∧
      Edited sampleOmission sampleSettings (.obj sampleSections.reverse) ∧
      read (.obj sampleSections.reverse) = .ok
        ⟨{ RunnerSettings.builtIn with maxHops := 3 }, .builtIn,
          { LaunchSettings.builtIn with
            taskBefore := some "build", env := .ofList [("console", "1")] }⟩ := by
  have hhops : sampleSettings.runner.maxHops < 0x10000000000000000 := by decide
  have hedited : Edited sampleOmission sampleSettings (.obj sampleSections.reverse) :=
    .sections (.object [("colour", .bool true)] (by simp) .rfl) (.object [] (by simp) .rfl)
      (.object [] (by simp) .rfl)
      (.object [("entry", .str "none")] (by simp) (List.reverse_perm sampleSections))
  exact ⟨hhops, hedited, (edited_read sampleSettings hhops).1 _ _ hedited⟩

end Settings

end TestScout
