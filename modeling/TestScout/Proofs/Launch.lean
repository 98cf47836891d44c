import TestScout.Launch
import TestScout.Proofs.Path.Text

/-!
Launches of one declaration. Whether there is one depends on whether the project has a root, and on
nothing else; every path in it is put together from texts, so it can be written as JSON; and what
is run and what is debugged differ in nothing but whether the debugger stays away.
-/

namespace TestScout

/-- Two objects that differ in one member, which is true in the first and false in the second. -/
def Json.DifferIn (name : String) (v w : Json) : Prop :=
  ∃ before after, v = .obj (before ++ (name, .bool true) :: after) ∧
    w = .obj (before ++ (name, .bool false) :: after) ∧ ∀ e ∈ before ++ after, e.1 ≠ name

namespace LaunchSpec

/-- The members of a launch that are written before the one about the debugger. -/
def membersBefore (s : LaunchSpec) (program cwd : String) : List (String × Json) :=
  [("type", .str s.adapter), ("request", .str s.request), ("name", .str s.name),
    ("runtimeExecutable", .str s.executable), ("program", .str program), ("cwd", .str cwd),
    ("args", .texts s.args), ("env", .table s.env),
    ("autoAttachChildProcesses", .bool s.attachChildren), ("skipFiles", .texts s.skipFiles),
    ("resolveSourceMapLocations", .texts s.sourceMapLocations), ("smartStep", .bool s.smartStep),
    ("console", .str s.console), ("stopOnEntry", .bool s.stopOnEntry)]

def membersAfter (s : LaunchSpec) : List (String × Json) :=
  ("justMyCode", .bool s.justMyCode) ::
    (s.taskBefore.map fun t => ("preLaunchTask", Json.str t)).toList

lemma toJson?_eq_some {s : LaunchSpec} {program cwd : String}
    (hprogram : s.program.toString? = some program) (hcwd : s.cwd.toString? = some cwd) :
    s.toJson? = some (.obj (s.membersBefore program cwd ++
      ("noDebug", .bool s.noDebug) :: s.membersAfter)) := by
  unfold toJson?
  rw [hprogram, hcwd]
  rfl

lemma exists_toJson? {s : LaunchSpec} (hprogram : Text.IsText s.program.bytes)
    (hcwd : Text.IsText s.cwd.bytes) : ∃ v, s.toJson? = some v := by
  obtain ⟨program, hp⟩ := Path.exists_toString?_iff.mpr hprogram
  obtain ⟨cwd, hc⟩ := Path.exists_toString?_iff.mpr hcwd
  exact ⟨_, toJson?_eq_some hp hc⟩

lemma ne_noDebug_of_mem {s : LaunchSpec} {program cwd : String} {e : String × Json}
    (h : e ∈ s.membersBefore program cwd ++ s.membersAfter) : e.1 ≠ "noDebug" := by
  have hnames : e.1 ∈ (s.membersBefore program cwd ++ s.membersAfter).map (·.1) :=
    List.mem_map_of_mem h
  intro heq
  rw [heq] at hnames
  unfold membersBefore membersAfter at hnames
  cases htask : s.taskBefore <;> simp [htask] at hnames

/-- A launch without the debugger and the same launch with it differ in one member. -/
theorem differIn_noDebug {s : LaunchSpec} {v : Json} (hv : s.toJson? = some v)
    (hn : s.noDebug = true) :
    ∃ w, { s with noDebug := false }.toJson? = some w ∧ Json.DifferIn "noDebug" v w := by
  obtain ⟨program, hp, hrest⟩ := Option.bind_eq_some_iff.mp hv
  obtain ⟨cwd, hc, -⟩ := Option.bind_eq_some_iff.mp hrest
  rw [toJson?_eq_some hp hc, hn] at hv
  exact ⟨_, toJson?_eq_some hp hc, s.membersBefore program cwd, s.membersAfter,
    (Option.some.inj hv).symm, rfl, fun e he => ne_noDebug_of_mem he⟩

end LaunchSpec

namespace Settings

variable {s : Settings} {w : World} {d : Declaration} {mode : LaunchMode}

lemma isText_launchFrom (s : Settings) (d : Declaration) (mode : LaunchMode) {root : Path}
    (h : Text.IsText root.bytes) :
    Text.IsText (s.launchFrom root d mode).program.bytes ∧
      Text.IsText (s.launchFrom root d mode).cwd.bytes :=
  ⟨Path.isText_join (Path.isText_join (Path.isText_join h (Path.isText_ofString _))
    (Path.isText_ofString _)) (Path.isText_ofString _), h⟩

/-- A declaration cannot be launched for want of a root, and for no other reason. -/
theorem error_of_build {f : Failure} (h : s.build w d mode = .error f) :
    ∃ lastTried, f = .rootNotFound (d.file.absolutize w.cwd) lastTried := by
  unfold build at h
  cases hroot : s.projectRoot w d.file with
  | ok root => rw [hroot] at h; cases h
  | error g =>
      rw [hroot] at h
      obtain rfl : g = f := Except.error.inj h
      exact ProjectRoot.error_of_resolve hroot

/-- A launch of a declaration in a file whose whole path is a text can be written as JSON. -/
theorem toJson?_of_build {spec : LaunchSpec} (h : Text.IsText (d.file.absolutize w.cwd).bytes)
    (hspec : s.build w d mode = .ok spec) :
    ∃ v, spec.toJson? = some v := by
  unfold build at hspec
  cases hroot : s.projectRoot w d.file with
  | error f => rw [hroot] at hspec; cases hspec
  | ok root =>
      rw [hroot] at hspec
      obtain rfl : s.launchFrom root d mode = spec := Except.ok.inj hspec
      have htext := s.isText_launchFrom d mode (ProjectRoot.isText_of_resolve h hroot)
      exact LaunchSpec.exists_toJson? htext.1 htext.2

/-- Running and debugging a declaration fail alike, or differ in whether the debugger stays away. -/
theorem build_run_or_debug (s : Settings) (w : World) (d : Declaration) :
    (∃ f, s.build w d .run = .error f ∧ s.build w d .debug = .error f) ∨
      ∃ spec : LaunchSpec, spec.noDebug = true ∧ s.build w d .run = .ok spec ∧
        s.build w d .debug = .ok { spec with noDebug := false } := by
  unfold build
  cases s.projectRoot w d.file with
  | error f => exact Or.inl ⟨f, rfl, rfl⟩
  | ok root => exact Or.inr ⟨s.launchFrom root d .run, rfl, rfl, rfl⟩

end Settings

end TestScout
