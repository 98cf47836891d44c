import TestScout.Proofs.Json.Printed
import TestScout.Proofs.Json.Reading
import TestScout.Proofs.Launch

/-!
A launch through JSON and back. A launch is read from an object just when the object says of every
field what it is, and the JSON form of a launch says of every field what it is in that launch; so
the form is read as the launch, and no two launches have the same form. The task that comes first is
the one field that a form may leave out. A form that is printed is read back as it was.
-/

namespace TestScout

open Json

namespace LaunchSpec

variable {s : LaunchSpec} {members : List (String × Json)}

/-! ### What an object says -/

structure Said (s : LaunchSpec) (members : List (String × Json)) : Prop where
  adapter : adapterField.Means members s.adapter
  request : requestField.Means members s.request
  name : nameField.Means members s.name
  executable : executableField.Means members s.executable
  program : programField.Means members s.program
  cwd : cwdField.Means members s.cwd
  args : argsField.Means members s.args
  env : envField.Means members s.env
  attachChildren : attachChildrenField.Means members s.attachChildren
  skipFiles : skipFilesField.Means members s.skipFiles
  sourceMapLocations : sourceMapLocationsField.Means members s.sourceMapLocations
  smartStep : smartStepField.Means members s.smartStep
  console : consoleField.Means members s.console
  stopOnEntry : stopOnEntryField.Means members s.stopOnEntry
  noDebug : noDebugField.Means members s.noDebug
  justMyCode : justMyCodeField.Means members s.justMyCode
  taskBefore : taskBeforeField.Means members s.taskBefore

lemma Said.passes (h : s.Said members) : ∀ slot ∈ slots, slot.Passes members := by
  simp [slots, h.adapter.1, h.request.1, h.name.1, h.executable.1, h.program.1, h.cwd.1, h.args.1,
    h.env.1, h.attachChildren.1, h.skipFiles.1, h.sourceMapLocations.1, h.smartStep.1, h.console.1,
    h.stopOnEntry.1, h.noDebug.1, h.justMyCode.1, h.taskBefore.1]

lemma Said.read_eq (h : s.Said members) : read (.obj members) = .ok s := by
  rw [read, bind_of_ok (readFields_obj h.passes), bind_of_ok h.adapter.2, bind_of_ok h.request.2,
    bind_of_ok h.name.2, bind_of_ok h.executable.2, bind_of_ok h.program.2, bind_of_ok h.cwd.2,
    bind_of_ok h.args.2, bind_of_ok h.env.2, bind_of_ok h.attachChildren.2,
    bind_of_ok h.skipFiles.2, bind_of_ok h.sourceMapLocations.2, bind_of_ok h.smartStep.2,
    bind_of_ok h.console.2, bind_of_ok h.stopOnEntry.2, bind_of_ok h.noDebug.2,
    bind_of_ok h.justMyCode.2, bind_of_ok h.taskBefore.2]
  rfl

/-- A launch is read from an object just when that says of every field what it is. -/
theorem read_obj_eq_ok_iff : read (.obj members) = .ok s ↔ s.Said members := by
  refine ⟨fun h => ?_, Said.read_eq⟩
  have hnames : (slots.map (·.name)).Nodup := by decide
  obtain ⟨given, hgiven, h⟩ := exists_of_bind_ok h
  obtain ⟨adapter, hadapter, h⟩ := exists_of_bind_ok h
  obtain ⟨request, hrequest, h⟩ := exists_of_bind_ok h
  obtain ⟨name, hname, h⟩ := exists_of_bind_ok h
  obtain ⟨executable, hexecutable, h⟩ := exists_of_bind_ok h
  obtain ⟨program, hprogram, h⟩ := exists_of_bind_ok h
  obtain ⟨cwd, hcwd, h⟩ := exists_of_bind_ok h
  obtain ⟨args, hargs, h⟩ := exists_of_bind_ok h
  obtain ⟨env, henv, h⟩ := exists_of_bind_ok h
  obtain ⟨attachChildren, hattachChildren, h⟩ := exists_of_bind_ok h
  obtain ⟨skipFiles, hskipFiles, h⟩ := exists_of_bind_ok h
  obtain ⟨sourceMapLocations, hsourceMapLocations, h⟩ := exists_of_bind_ok h
  obtain ⟨smartStep, hsmartStep, h⟩ := exists_of_bind_ok h
  obtain ⟨console, hconsole, h⟩ := exists_of_bind_ok h
  obtain ⟨stopOnEntry, hstopOnEntry, h⟩ := exists_of_bind_ok h
  obtain ⟨noDebug, hnoDebug, h⟩ := exists_of_bind_ok h
  obtain ⟨justMyCode, hjustMyCode, h⟩ := exists_of_bind_ok h
  obtain ⟨taskBefore, htaskBefore, h⟩ := exists_of_bind_ok h
  obtain rfl := Except.ok.inj h
  obtain ⟨members, hlists, hpass, rfl⟩ := (readFields_eq_ok_iff hnames).mp hgiven
  cases hlists
  have hslot {α : Type} {f : Json.Field α} (hf : f.slot ∈ slots) : f.slot.Passes members :=
    hpass _ hf
  exact ⟨⟨hslot (by simp [slots]), hadapter⟩, ⟨hslot (by simp [slots]), hrequest⟩,
    ⟨hslot (by simp [slots]), hname⟩, ⟨hslot (by simp [slots]), hexecutable⟩,
    ⟨hslot (by simp [slots]), hprogram⟩, ⟨hslot (by simp [slots]), hcwd⟩,
    ⟨hslot (by simp [slots]), hargs⟩, ⟨hslot (by simp [slots]), henv⟩,
    ⟨hslot (by simp [slots]), hattachChildren⟩, ⟨hslot (by simp [slots]), hskipFiles⟩,
    ⟨hslot (by simp [slots]), hsourceMapLocations⟩, ⟨hslot (by simp [slots]), hsmartStep⟩,
    ⟨hslot (by simp [slots]), hconsole⟩, ⟨hslot (by simp [slots]), hstopOnEntry⟩,
    ⟨hslot (by simp [slots]), hnoDebug⟩, ⟨hslot (by simp [slots]), hjustMyCode⟩,
    ⟨hslot (by simp [slots]), htaskBefore⟩⟩

lemma means_taskBefore_iff {task : Option String} :
    taskBeforeField.Means members task ↔
      members.lookup "preLaunchTask" = task.map .str ∨
        members.lookup "preLaunchTask" = some .null ∧ task = none := by
  rw [taskBeforeField, means_omissible_iff]
  simp only [readOption_string_eq_ok_iff]
  cases task with
  | none => simp [or_comm]
  | some t => simp

lemma Said.without_task (h : s.Said members) {others : List (String × Json)}
    (agree : ∀ name ≠ "preLaunchTask", others.lookup name = members.lookup name)
    (unset : others.lookup "preLaunchTask" = none ∨ others.lookup "preLaunchTask" = some .null) :
    { s with taskBefore := none }.Said others where
  adapter := h.adapter.congr (agree _ (by decide))
  request := h.request.congr (agree _ (by decide))
  name := h.name.congr (agree _ (by decide))
  executable := h.executable.congr (agree _ (by decide))
  program := h.program.congr (agree _ (by decide))
  cwd := h.cwd.congr (agree _ (by decide))
  args := h.args.congr (agree _ (by decide))
  env := h.env.congr (agree _ (by decide))
  attachChildren := h.attachChildren.congr (agree _ (by decide))
  skipFiles := h.skipFiles.congr (agree _ (by decide))
  sourceMapLocations := h.sourceMapLocations.congr (agree _ (by decide))
  smartStep := h.smartStep.congr (agree _ (by decide))
  console := h.console.congr (agree _ (by decide))
  stopOnEntry := h.stopOnEntry.congr (agree _ (by decide))
  noDebug := h.noDebug.congr (agree _ (by decide))
  justMyCode := h.justMyCode.congr (agree _ (by decide))
  taskBefore := means_taskBefore_iff.mpr (unset.imp id fun hnull => ⟨hnull, rfl⟩)

/-! ### The form of a launch -/

lemma readPath_str {p : Path} {text : String} (h : p.toString? = some text) :
    readPath (.str text) = .ok p := by
  rw [← Path.ofString_of_toString? h]
  rfl

def allMembers (s : LaunchSpec) (program cwd : String) : List (String × Json) :=
  s.membersBefore program cwd ++ ("noDebug", .bool s.noDebug) :: s.membersAfter

lemma lookup_allMembers_task (s : LaunchSpec) (program cwd : String) :
    (s.allMembers program cwd).lookup "preLaunchTask" = s.taskBefore.map .str := by
  unfold allMembers membersBefore membersAfter
  cases s.taskBefore <;> rfl

lemma said_allMembers {program cwd : String} (hprogram : s.program.toString? = some program)
    (hcwd : s.cwd.toString? = some cwd) : s.Said (s.allMembers program cwd) where
  adapter := means_required_iff.mpr ⟨_, rfl, rfl⟩
  request := means_required_iff.mpr ⟨_, rfl, rfl⟩
  name := means_required_iff.mpr ⟨_, rfl, rfl⟩
  executable := means_required_iff.mpr ⟨_, rfl, rfl⟩
  program := means_required_iff.mpr ⟨_, rfl, readPath_str hprogram⟩
  cwd := means_required_iff.mpr ⟨_, rfl, readPath_str hcwd⟩
  args := means_required_iff.mpr ⟨_, rfl, readStrings_texts s.args⟩
  env := means_required_iff.mpr ⟨_, rfl, readTable_table s.env⟩
  attachChildren := means_required_iff.mpr ⟨_, rfl, rfl⟩
  skipFiles := means_required_iff.mpr ⟨_, rfl, readStrings_texts s.skipFiles⟩
  sourceMapLocations := means_required_iff.mpr ⟨_, rfl, readStrings_texts s.sourceMapLocations⟩
  smartStep := means_required_iff.mpr ⟨_, rfl, rfl⟩
  console := means_required_iff.mpr ⟨_, rfl, rfl⟩
  stopOnEntry := means_required_iff.mpr ⟨_, rfl, rfl⟩
  noDebug := means_required_iff.mpr ⟨_, rfl, rfl⟩
  justMyCode := means_required_iff.mpr ⟨_, rfl, rfl⟩
  taskBefore := means_taskBefore_iff.mpr (Or.inl (lookup_allMembers_task s program cwd))

lemma exists_members {v : Json} (h : s.toJson? = some v) :
    ∃ members, v = .obj members ∧ s.Said members ∧
      members.lookup "preLaunchTask" = s.taskBefore.map .str := by
  obtain ⟨program, hp, hrest⟩ := Option.bind_eq_some_iff.mp h
  obtain ⟨cwd, hc, -⟩ := Option.bind_eq_some_iff.mp hrest
  exact ⟨s.allMembers program cwd, Option.some.inj (h.symm.trans (toJson?_eq_some hp hc)),
    said_allMembers hp hc, lookup_allMembers_task s program cwd⟩

lemma exists_toJson?_iff :
    (∃ v, s.toJson? = some v) ↔ Text.IsText s.program.bytes ∧ Text.IsText s.cwd.bytes := by
  refine ⟨?_, fun h => exists_toJson? h.1 h.2⟩
  rintro ⟨v, h⟩
  obtain ⟨program, hp, hrest⟩ := Option.bind_eq_some_iff.mp h
  obtain ⟨cwd, hc, -⟩ := Option.bind_eq_some_iff.mp hrest
  exact ⟨Path.exists_toString?_iff.mp ⟨program, hp⟩, Path.exists_toString?_iff.mp ⟨cwd, hc⟩⟩

lemma read_of_toJson? {v : Json} (h : s.toJson? = some v) : read v = .ok s := by
  obtain ⟨members, rfl, said, -⟩ := exists_members h
  exact said.read_eq

lemma taskBefore_eq_none_iff (h : read (.obj members) = .ok s) :
    s.taskBefore = none ↔ members.lookup "preLaunchTask" = none ∨
      members.lookup "preLaunchTask" = some .null := by
  have htask := means_taskBefore_iff.mp (read_obj_eq_ok_iff.mp h).taskBefore
  cases htaskBefore : s.taskBefore with
  | none =>
      rw [htaskBefore] at htask
      exact iff_of_true rfl (htask.imp id And.left)
  | some t =>
      rw [htaskBefore] at htask
      rcases htask with hsome | ⟨-, hnone⟩
      · simp [hsome]
      · cases hnone

lemma read_without_task {v : Json} (h : s.toJson? = some v) {others : List (String × Json)}
    (agree : ∀ name ≠ "preLaunchTask", others.lookup name = v.member? name)
    (unset : others.lookup "preLaunchTask" = none ∨ others.lookup "preLaunchTask" = some .null) :
    read (.obj others) = .ok { s with taskBefore := none } := by
  obtain ⟨members, rfl, said, -⟩ := exists_members h
  exact (said.without_task agree unset).read_eq

/-! ### The form of a launch in print -/

lemma nodup_allMembers (s : LaunchSpec) (program cwd : String) :
    ((s.allMembers program cwd).map (·.1)).Nodup := by
  unfold allMembers membersBefore membersAfter
  cases s.taskBefore <;> simp

lemma kept_of_mem_allMembers {program cwd : String} :
    ∀ e ∈ s.allMembers program cwd, e.2.Kept := by
  simp only [allMembers, membersBefore, membersAfter, List.cons_append, List.nil_append,
    List.forall_mem_cons]
  refine ⟨kept_str _, kept_str _, kept_str _, kept_str _, kept_str _, kept_str _, kept_texts _,
    kept_table _, kept_bool _, kept_texts _, kept_texts _, kept_bool _, kept_str _, kept_bool _,
    kept_bool _, kept_bool _, ?_⟩
  cases s.taskBefore with
  | none => simp
  | some t => simpa using kept_str t

/-- **A launch in print**: the form of a launch has distinct names, and printed over several lines
it is read back with the same members. -/
theorem exists_printed {v : Json} (h : s.toJson? = some v) :
    ∃ members printed, v = .obj members ∧ (members.map (·.1)).Nodup ∧
      ofText? (v.pretty ++ "\n") = some (.obj printed) ∧ printed.Perm members := by
  obtain ⟨program, hp, hrest⟩ := Option.bind_eq_some_iff.mp h
  obtain ⟨cwd, hc, -⟩ := Option.bind_eq_some_iff.mp hrest
  obtain rfl : v = .obj (s.allMembers program cwd) :=
    Option.some.inj (h.symm.trans (toJson?_eq_some hp hc))
  have hnames := s.nodup_allMembers program cwd
  obtain ⟨printed, hread, hsame⟩ := exists_ofText?_pretty hnames kept_of_mem_allMembers
  exact ⟨_, printed, rfl, hnames, hread, hsame⟩

end LaunchSpec

namespace StartRequest

variable {r : StartRequest} {v : Json}

lemma exists_toJson?_iff :
    (∃ v, r.toJson? = some v) ↔
      Text.IsText r.configuration.program.bytes ∧ Text.IsText r.configuration.cwd.bytes := by
  rw [← LaunchSpec.exists_toJson?_iff]
  simp only [toJson?, Option.map_eq_some_iff]
  exact ⟨fun ⟨_, v, h, _⟩ => ⟨v, h⟩, fun ⟨v, h⟩ => ⟨_, v, h, rfl⟩⟩

lemma read_of_toJson? (h : r.toJson? = some v) : read v = .ok r := by
  obtain ⟨c, hc, rfl⟩ := Option.map_eq_some_iff.mp h
  have hgives : configurationField.Gives [("configuration", c)] r.configuration :=
    gives_required rfl (LaunchSpec.read_of_toJson? hc)
  rw [read, bind_of_ok (readFields_obj (by simp [hgives.passes])), bind_of_ok hgives.of]
  rfl

end StartRequest

/-- **Launches read back**: a launch has a JSON form just when its two paths are texts, and it is
read from that; so launches with one form are one launch. The form has a member about the task just
when there is one, and from an object without such a member, or with null in its place, a launch
without a task is read. The same holds of requests to start launches. -/
theorem launches_read_back :
    (∀ s : LaunchSpec,
      ((∃ v, s.toJson? = some v) ↔ Text.IsText s.program.bytes ∧ Text.IsText s.cwd.bytes) ∧
      ∀ v, s.toJson? = some v →
        LaunchSpec.read v = .ok s ∧
        v.member? "preLaunchTask" = s.taskBefore.map .str ∧
        (∀ t : LaunchSpec, t.toJson? = some v → t = s) ∧
        ∀ others : List (String × Json),
          (∀ name ≠ "preLaunchTask", others.lookup name = v.member? name) →
          (others.lookup "preLaunchTask" = none ∨ others.lookup "preLaunchTask" = some .null) →
          LaunchSpec.read (.obj others) = .ok { s with taskBefore := none }) ∧
    (∀ (members : List (String × Json)) (s : LaunchSpec), LaunchSpec.read (.obj members) = .ok s →
      (s.taskBefore = none ↔ members.lookup "preLaunchTask" = none ∨
        members.lookup "preLaunchTask" = some .null)) ∧
    ∀ r : StartRequest,
      ((∃ v, r.toJson? = some v) ↔
        Text.IsText r.configuration.program.bytes ∧ Text.IsText r.configuration.cwd.bytes) ∧
      ∀ v, r.toJson? = some v →
        StartRequest.read v = .ok r ∧ ∀ r' : StartRequest, r'.toJson? = some v → r' = r := by
  refine ⟨fun s => ⟨LaunchSpec.exists_toJson?_iff, fun v h => ?_⟩,
    fun members s => LaunchSpec.taskBefore_eq_none_iff,
    fun r => ⟨StartRequest.exists_toJson?_iff, fun v h => ?_⟩⟩
  · have hread := LaunchSpec.read_of_toJson? h
    obtain ⟨members, rfl, said, htask⟩ := LaunchSpec.exists_members h
    refine ⟨hread, htask, fun t ht => ?_, fun others => LaunchSpec.read_without_task h⟩
    exact Except.ok.inj ((LaunchSpec.read_of_toJson? ht).symm.trans hread)
  · have hread := StartRequest.read_of_toJson? h
    refine ⟨hread, fun r' h' => ?_⟩
    exact Except.ok.inj ((StartRequest.read_of_toJson? h').symm.trans hread)

end TestScout
