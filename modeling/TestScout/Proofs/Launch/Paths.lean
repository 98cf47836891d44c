import TestScout.Proofs.Launch
import TestScout.Proofs.ProjectRoot.Enclosing

/-!
The paths in a launch. A launch names the root of the project three times, as the directory that the
runner starts in, as an argument, and before the files that have source maps. It names the file of
the declaration as the declaration does. A relative path stands for a file in the directory that the
root was looked for from, but the runner reads it in the root: unless that is the same directory, it
is sent to another file.
-/

namespace TestScout

open Text
open TestScout.Path (dotDot)

namespace LaunchSpec

/-- The arguments of a launch give `root` as the root of the project and `file` as the file, and the
first files that have source maps are those below `root`. -/
def Names (spec : LaunchSpec) (root file : String) : Prop :=
  ∃ pattern, spec.args = ["run", "--root", root, "--testNamePattern", pattern, file] ∧
    spec.sourceMapLocations.head? = some (root ++ "/**")

end LaunchSpec

namespace Path

variable {p p' file : Path}

/-- From two directories a path has the same `f` just when it is absolute, or when the directories
agree as `same` asks of them where it is joined to both. -/
lemma absolutize_eq_iff {β : Type} (f : Path → β) {same : Prop}
    (h : file.isAbsolute = false → (f (p.join file) = f (p'.join file) ↔ same)) :
    f (file.absolutize p) = f (file.absolutize p') ↔ file.isAbsolute = true ∨ same := by
  cases hfile : file.isAbsolute
  · rw [absolutize, absolutize, if_neg (by simp [hfile]), if_neg (by simp [hfile]), h hfile]
    simp
  · rw [absolutize_of_isAbsolute hfile, absolutize_of_isAbsolute hfile]
    simp

lemma names_absolutize_iff (hp : p.isAbsolute = true) (hp' : p'.isAbsolute = true) :
    (file.absolutize p).names = (file.absolutize p').names ↔
      file.isAbsolute = true ∨ p.names = p'.names :=
  absolutize_eq_iff names fun hrelative => by
    rw [names_join hp hrelative, names_join hp' hrelative, List.append_left_inj]

lemma resolved_absolutize (hp : p.isAbsolute = true) (hp' : p'.isAbsolute = true)
    (h : p.resolved = p'.resolved) :
    (file.absolutize p).resolved = (file.absolutize p').resolved := by
  unfold absolutize
  split
  · rfl
  · next hfile =>
    have hrelative := Bool.eq_false_iff.mpr hfile
    rw [resolved_join hp hrelative, resolved_join hp' hrelative, h]

lemma resolved_absolutize_iff (hp : p.isAbsolute = true) (hp' : p'.isAbsolute = true)
    (hdown : dotDot ∉ file.names) :
    (file.absolutize p).resolved = (file.absolutize p').resolved ↔
      file.isAbsolute = true ∨ p.resolved = p'.resolved :=
  absolutize_eq_iff resolved fun hrelative => by
    rw [resolved_join hp hrelative, resolved_join hp' hrelative, foldl_enter_of_not_mem hdown,
      foldl_enter_of_not_mem hdown, List.append_left_inj]

end Path

namespace ProjectRoot

lemma isAbsolute_of_resolve {w : World} {file root : Path} {manifest : String} {hops : ℕ}
    (absolute : w.cwd.isAbsolute = true) (found : resolve w file manifest hops = .ok root) :
    root.isAbsolute = true := by
  obtain ⟨i, -, hroot, -⟩ := exists_of_resolve found
  exact (of_getElem?_chain (isAbsolute_directoryOf absolute file) hroot).1

end ProjectRoot

namespace Settings

variable {s : Settings} {w : World} {d : Declaration} {root : Path}

lemma build_of_projectRoot (h : s.projectRoot w d.file = .ok root) (mode : LaunchMode) :
    s.build w d mode = .ok (s.launchFrom root d mode) := by
  rw [build, h]
  rfl

lemma build_of_error {f : Failure} (h : s.projectRoot w d.file = .error f) (mode : LaunchMode) :
    s.build w d mode = .error f := by
  rw [build, h]
  rfl

lemma names_launchFrom (s : Settings) (root : Path) (d : Declaration) (mode : LaunchMode) :
    (s.launchFrom root d mode).Names root.display d.file.display :=
  ⟨_, rfl, rfl⟩

/-- **The paths in a launch**: there is a launch just when the project has a root, and otherwise the
failure is that of the search. The launch starts in the root, and what it says of the root is the
root if that is a text at all, as it is where the whole path of the file is one. What it says of the
file is what the declaration says. Read in the root, this is the path that the root was looked for
from if the declaration has an absolute path or the root is the working directory, and in no other
case; as for the places that the two paths lead to, it is enough that the root leads to the place of
the working directory, and where the declaration has no `..` in its path there is no other case
either. -/
theorem build_names_project_and_file (absolute : w.cwd.isAbsolute = true)
    (text : IsText d.file.bytes) (s : Settings) (mode : LaunchMode) :
    (∀ f, s.projectRoot w d.file = .error f → s.build w d mode = .error f) ∧
      ∀ root, s.projectRoot w d.file = .ok root →
        ∃ spec rootText fileText, s.build w d mode = .ok spec ∧ spec.cwd = root ∧
          spec.Names rootText fileText ∧
          let whole := d.file.absolutize w.cwd
          let meant := (Path.ofString fileText).absolutize spec.cwd
          (.ofString rootText = root ↔ IsText root.bytes) ∧
          (IsText whole.bytes → IsText root.bytes) ∧
          (d.file.isAbsolute = true → meant = whole) ∧
          (meant.names = whole.names ↔ d.file.isAbsolute = true ∨ root.names = w.cwd.names) ∧
          (root.resolved = w.cwd.resolved → meant.resolved = whole.resolved) ∧
          (dotDot ∉ d.file.names →
            (meant.resolved = whole.resolved ↔
              d.file.isAbsolute = true ∨ root.resolved = w.cwd.resolved)) := by
  refine ⟨fun f hf => build_of_error hf mode, fun root hroot => ?_⟩
  have habsolute : root.isAbsolute = true := ProjectRoot.isAbsolute_of_resolve absolute hroot
  refine ⟨s.launchFrom root d mode, root.display, d.file.display, build_of_projectRoot hroot mode,
    rfl, s.names_launchFrom root d mode, ?_⟩
  intro whole meant
  have hmeant : meant = d.file.absolutize root := by
    rw [← Path.ofString_display_iff.mpr text]
    rfl
  rw [hmeant]
  refine ⟨Path.ofString_display_iff, fun h => ProjectRoot.isText_of_resolve h hroot, fun h => ?_,
    Path.names_absolutize_iff habsolute absolute, Path.resolved_absolutize habsolute absolute,
    Path.resolved_absolutize_iff habsolute absolute⟩
  exact (Path.absolutize_of_isAbsolute h root).trans (Path.absolutize_of_isAbsolute h w.cwd).symm

/-- A package below the working directory, with a test in it. -/
def nestedPackage : World where
  files := ⟨.dir [(toBytes "t", .dir [
    (toBytes "src", .dir [(toBytes "package.json", .file []), (toBytes "a.test.ts", .file [])])])]⟩
  cwd := .ofString "/t"
  vars := fun _ => none

/-- The test, under its path from the working directory. -/
def nestedTest : Declaration := ⟨.test, .ofString "src/a.test.ts", ⟨3, 6⟩, "B", []⟩

lemma projectRoot_nestedTest :
    builtIn.projectRoot nestedPackage nestedTest.file = .ok (.ofString "/t/src") := by
  have hdirectory : ProjectRoot.directoryOf (nestedTest.file.absolutize nestedPackage.cwd) =
      .ofString "/t/src" := by decide +kernel
  have hholds : nestedPackage.has ((Path.ofString "/t/src").join (.ofString "package.json")) =
      true := by cbv
  have hsearch : ProjectRoot.search nestedPackage nestedTest.file "package.json" 20 =
      ⟨.ofString "/t/src", true, [.ofString "/t/src"]⟩ := by
    rw [ProjectRoot.search, hdirectory]
    exact ProjectRoot.climb_of_holds hholds
  exact ProjectRoot.resolve_of_found hsearch

/-- The launch of this test starts in the package and sends the runner to a file that is not there,
while the file of the test is. -/
theorem build_misses_nestedTest :
    ∃ spec, builtIn.build nestedPackage nestedTest .run = .ok spec ∧
      spec.cwd = .ofString "/t/src" ∧ spec.Names "/t/src" "src/a.test.ts" ∧
      (Path.ofString "src/a.test.ts").absolutize spec.cwd = .ofString "/t/src/src/a.test.ts" ∧
      nestedPackage.has (.ofString "/t/src/src/a.test.ts") = false ∧
      nestedTest.file.absolutize nestedPackage.cwd = .ofString "/t/src/a.test.ts" ∧
      nestedPackage.has (.ofString "/t/src/a.test.ts") = true := by
  have hnames := names_launchFrom builtIn (.ofString "/t/src") nestedTest .run
  rw [Path.display_ofString, nestedTest, Path.display_ofString] at hnames
  refine ⟨_, build_of_projectRoot projectRoot_nestedTest .run, rfl, hnames, ?_, ?_, ?_, ?_⟩
  · decide +kernel
  · cbv
  · decide +kernel
  · cbv

/-- It is the root that tells the two files apart, since it is not the working directory. -/
theorem nestedTest_read_elsewhere :
    nestedPackage.cwd.isAbsolute = true ∧ IsText nestedTest.file.bytes ∧
      builtIn.projectRoot nestedPackage nestedTest.file = .ok (.ofString "/t/src") ∧
      ∃ spec rootText fileText, builtIn.build nestedPackage nestedTest .debug = .ok spec ∧
        spec.Names rootText fileText ∧ .ofString rootText = Path.ofString "/t/src" ∧
        ((Path.ofString fileText).absolutize spec.cwd).resolved ≠
          (nestedTest.file.absolutize nestedPackage.cwd).resolved := by
  have absolute : nestedPackage.cwd.isAbsolute = true := by decide
  have text : IsText nestedTest.file.bytes := isText_toBytes _
  refine ⟨absolute, text, projectRoot_nestedTest, ?_⟩
  obtain ⟨spec, rootText, fileText, hspec, -, hnames, hroot, -, -, -, -, hplaces⟩ :=
    (build_names_project_and_file absolute text builtIn .debug).2 _ projectRoot_nestedTest
  refine ⟨spec, rootText, fileText, hspec, hnames, hroot.mpr (isText_toBytes _), fun h => ?_⟩
  have hdown : dotDot ∉ nestedTest.file.names := by decide +kernel
  have hnot : ¬ (nestedTest.file.isAbsolute = true ∨
      (Path.ofString "/t/src").resolved = nestedPackage.cwd.resolved) := by decide +kernel
  exact hnot ((hplaces hdown).mp h)

end Settings

end TestScout
