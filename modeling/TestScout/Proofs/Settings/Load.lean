import Mathlib.Tactic.Lemma
import TestScout.Settings.Load

/-!
Where loaded settings come from. For a directory one source is chosen, and what that source holds,
under the variables, is what is loaded. Whatever is wrong with it is reported, never made good by
another source; and a source that is not chosen says nothing.
-/

namespace TestScout

namespace Settings

inductive Source where
  | file (path : Path)
  | builtIn

namespace Source

/-- The source that counts for a directory: its own file if there is one, otherwise the file of the
user if it is known where that would be and there is one, otherwise what is built in. -/
inductive Chosen (w : World) (dir : Path) : Source → Prop where
  | own (here : w.has (dir.join fileName) = true) : Chosen w dir (.file (dir.join fileName))
  | users (notHere : w.has (dir.join fileName) = false) {user : Path}
      (known : userDirectory? w = some user) (there : w.has (user.join userFileName) = true) :
      Chosen w dir (.file (user.join userFileName))
  | builtIn (notHere : w.has (dir.join fileName) = false)
      (notThere : ∀ user, userDirectory? w = some user →
        w.has (user.join userFileName) = false) : Chosen w dir .builtIn

/-- The settings that a source holds, before the variables are looked at. -/
def Holds (w : World) : Source → Settings → Prop
  | file path, s => ∃ text, w.readText path = .ok text ∧ ofToml? text = some s
  | builtIn, s => s = Settings.builtIn

def load (w : World) : Source → Except SettingsError Settings
  | file path => ofFile w path
  | builtIn => Settings.builtIn.finish w

variable {w : World} {dir : Path} {source other : Source}

lemma exists_chosen (w : World) (dir : Path) : ∃ source, Chosen w dir source := by
  cases hhere : w.has (dir.join fileName) with
  | true => exact ⟨_, .own hhere⟩
  | false =>
      cases huser : userDirectory? w with
      | none => exact ⟨_, .builtIn hhere (by simp [huser])⟩
      | some user =>
          cases hthere : w.has (user.join userFileName) with
          | true => exact ⟨_, .users hhere huser hthere⟩
          | false => exact ⟨_, .builtIn hhere (by simp [huser, hthere])⟩

lemma Chosen.source?_eq (h : Chosen w dir source) :
    source? w dir = match source with
      | .file path => some path
      | .builtIn => none := by
  cases h with
  | own here => simp [source?, places, here]
  | users notHere known there => simp [source?, places, notHere, known, there]
  | builtIn notHere notThere =>
      cases huser : userDirectory? w with
      | none => simp [source?, places, notHere, huser]
      | some user => simp [source?, places, notHere, huser, notThere user huser]

lemma Chosen.unique (h : Chosen w dir source) (hother : Chosen w dir other) : other = source := by
  have heq := h.source?_eq.symm.trans hother.source?_eq
  cases source <;> cases other <;> simp_all

/-- **One source**: what is loaded for a directory is loaded from the source chosen for it. -/
theorem Chosen.load_eq (h : Chosen w dir source) : Settings.load w dir = source.load w := by
  rw [Settings.load, h.source?_eq]
  cases source <;> rfl

end Source

/-! ### What becomes of what a source holds -/

lemma fault?_eq_none_iff {c : Settings} :
    c.fault? = none ↔ 1 ≤ c.runner.maxHops ∧ c.runner.manifest ≠ "" ∧
      (c.discovery.suites ≠ [] ∨ c.discovery.tests ≠ []) := by
  unfold fault?
  split
  · next h => simp [h]
  · next hhops =>
    split
    · next h => simp [String.isEmpty_iff.mp h]
    · next hmanifest =>
      have hname : c.runner.manifest ≠ "" := fun e => hmanifest (String.isEmpty_iff.mpr e)
      have hone : 1 ≤ c.runner.maxHops := Nat.one_le_iff_ne_zero.mpr hhops
      cases hs : c.discovery.suites <;> cases ht : c.discovery.tests <;> simp [hname, hone]

lemma finish_eq_ok_iff {w : World} {s c : Settings} :
    s.finish w = .ok c ↔ c = s.override w.vars ∧ c.fault? = none := by
  unfold finish
  cases hfault : (s.override w.vars).fault? with
  | some fault =>
      simp only [hfault, reduceCtorEq, false_iff, not_and]
      rintro rfl
      simp [hfault]
  | none =>
      simp only [hfault, Except.ok.injEq]
      constructor
      · rintro rfl
        exact ⟨rfl, hfault⟩
      · rintro ⟨rfl, -⟩
        rfl

lemma finish_eq_error_iff {w : World} {s : Settings} {e : SettingsError} :
    s.finish w = .error e ↔ ∃ fault, e = .invalid fault ∧
      (s.override w.vars).fault? = some fault := by
  unfold finish
  cases hfault : (s.override w.vars).fault? <;> simp [hfault, eq_comm]

namespace Source

variable {w : World} {source : Source}

/-- **Success**: settings come from a source just when it holds settings and these, under the
variables, can be worked with. -/
theorem load_eq_ok_iff {c : Settings} : source.load w = .ok c ↔
    ∃ s, source.Holds w s ∧ c = s.override w.vars ∧ c.fault? = none := by
  cases source with
  | builtIn => simp [load, Holds, finish_eq_ok_iff]
  | file path =>
      simp only [load, ofFile, Holds]
      cases htext : w.readText path with
      | error fault => simp
      | ok text =>
          cases hread : ofToml? text with
          | none => simp [hread]
          | some s => simp [hread, finish_eq_ok_iff]

/-- **Failure**: no settings come from a source just when its file cannot be read, or is not a file
of settings, or what it holds cannot be worked with under the variables. -/
theorem load_eq_error_iff {e : SettingsError} : source.load w = .error e ↔
    (∃ path fault, source = file path ∧ w.readText path = .error fault ∧ e = .unreadable fault) ∨
    (∃ path text, source = file path ∧ w.readText path = .ok text ∧ ofToml? text = none ∧
      e = .malformed) ∨
    ∃ s fault, source.Holds w s ∧ (s.override w.vars).fault? = some fault ∧ e = .invalid fault := by
  cases source with
  | builtIn => simp [load, Holds, finish_eq_error_iff, and_comm]
  | file path =>
      simp only [load, ofFile, Holds, file.injEq]
      cases htext : w.readText path with
      | error fault => simp [htext, eq_comm]
      | ok text =>
          cases hread : ofToml? text with
          | none => simp [htext, hread, eq_comm]
          | some s => simp [htext, hread, finish_eq_error_iff, and_comm]

end Source

/-! ### What has no say -/

/-- The variables that only say where the file of the user would be. -/
def placeVariables : List String := ["XDG_CONFIG_HOME", "HOME"]

lemma override_congr {var var' : String → Option String}
    (h : ∀ name, name ∉ placeVariables → var' name = var name) (s : Settings) :
    s.override var' = s.override var := by
  unfold override
  rw [h "VITEST_LENS_RUNNER_PACKAGE" (by decide), h "VITEST_LENS_RUNNER_ENTRY" (by decide),
    h "VITEST_LENS_RUNTIME_EXECUTABLE" (by decide), h "VITEST_LENS_MAX_ROOT_HOPS" (by decide),
    h "VITEST_LENS_CONSOLE" (by decide), h "VITEST_LENS_PATTERN_POLICY" (by decide)]

lemma ofFile_congr {w w' : World} {file : Path}
    (hlookup : w'.files.lookup (w'.place file) = w.files.lookup (w.place file))
    (hvars : ∀ name, name ∉ placeVariables → w'.vars name = w.vars name) :
    ofFile w' file = ofFile w file := by
  have hread : w'.readText file = w.readText file := by
    unfold World.readText World.readBytes
    rw [hlookup]
  have hfinish (s : Settings) : s.finish w' = s.finish w := by
    unfold finish
    rw [override_congr hvars]
  unfold ofFile
  rw [hread]
  simp only [hfinish]

/-- **The file of a directory silences the rest**: in worlds in which it is there and is the same,
the same settings are loaded, whatever the user has and wherever that is looked for. -/
theorem load_congr {w w' : World} {dir : Path} {entry : Entry}
    (here : w.files.lookup (w.place (dir.join fileName)) = .ok entry)
    (here' : w'.files.lookup (w'.place (dir.join fileName)) = .ok entry)
    (hvars : ∀ name, name ∉ placeVariables → w'.vars name = w.vars name) :
    load w' dir = load w dir := by
  have hchosen : Source.Chosen w dir (.file (dir.join fileName)) := .own (by simp [World.has, here])
  have hchosen' : Source.Chosen w' dir (.file (dir.join fileName)) :=
    .own (by simp [World.has, here'])
  rw [hchosen.load_eq, hchosen'.load_eq]
  exact ofFile_congr (here'.trans here.symm) hvars

/-! ### Loading -/

/-- A number of directories among the variables counts, whatever the source says of it. -/
lemma maxHops_override {s : Settings} {var : String → Option String} {n : Nat}
    (h : (var "VITEST_LENS_MAX_ROOT_HOPS").bind Text.word? = some n) :
    (s.override var).runner.maxHops = n := by
  simp only [override, h, Option.getD_some]

/-- **Loading**: for every directory exactly one source is chosen. What is loaded is what that
source holds, under the variables, if it can be worked with; if the source cannot be read or holds
no settings, or if these cannot be worked with, that is the error, and no other source is looked at.
So a number of directories among the variables makes up for one in the source that cannot be worked
with, and spoils one that can; and as long as the directory has a file of its own, that of the user
has no say. -/
theorem load_from_chosen_source (w : World) (dir : Path) :
    ∃ source, (∀ other, Source.Chosen w dir other ↔ other = source) ∧
      (∀ c, load w dir = .ok c ↔
        ∃ s, source.Holds w s ∧ c = s.override w.vars ∧ c.fault? = none) ∧
      (∀ e, load w dir = .error e ↔
        (∃ path fault, source = .file path ∧ w.readText path = .error fault ∧
          e = .unreadable fault) ∨
        (∃ path text, source = .file path ∧ w.readText path = .ok text ∧ ofToml? text = none ∧
          e = .malformed) ∨
        ∃ s fault, source.Holds w s ∧ (s.override w.vars).fault? = some fault ∧
          e = .invalid fault) ∧
      (∀ c, load w dir = .ok c → 1 ≤ c.runner.maxHops ∧ c.runner.manifest ≠ "" ∧
        (c.discovery.suites ≠ [] ∨ c.discovery.tests ≠ [])) ∧
      (∀ s n, source.Holds w s →
        (w.vars "VITEST_LENS_MAX_ROOT_HOPS").bind Text.word? = some n →
        (n = 0 → load w dir = .error (.invalid .noHops)) ∧
        (n ≠ 0 → s.runner.manifest ≠ "" → s.discovery.suites ≠ [] ∨ s.discovery.tests ≠ [] →
          ∃ c, load w dir = .ok c ∧ c.runner.maxHops = n)) ∧
      ∀ w' entry, w.files.lookup (w.place (dir.join fileName)) = .ok entry →
        w'.files.lookup (w'.place (dir.join fileName)) = .ok entry →
        (∀ name, name ∉ placeVariables → w'.vars name = w.vars name) →
        load w' dir = load w dir := by
  obtain ⟨source, hchosen⟩ := Source.exists_chosen w dir
  have hok (c : Settings) := hchosen.load_eq ▸ source.load_eq_ok_iff (w := w) (c := c)
  have herror (e : SettingsError) := hchosen.load_eq ▸ source.load_eq_error_iff (w := w) (e := e)
  refine ⟨source, fun other => ⟨hchosen.unique, ?_⟩, hok, herror, fun c hc => ?_,
    fun s n hs hn => ⟨?_, fun hpos hmanifest hmarkers => ?_⟩,
    fun w' entry here here' hvars => load_congr here here' hvars⟩
  · rintro rfl
    exact hchosen
  · obtain ⟨s, -, -, hfault⟩ := (hok c).mp hc
    exact fault?_eq_none_iff.mp hfault
  · rintro rfl
    refine (herror _).mpr (Or.inr (Or.inr ⟨s, .noHops, hs, ?_, rfl⟩))
    exact if_pos (maxHops_override hn)
  · refine ⟨s.override w.vars, (hok _).mpr ⟨s, hs, rfl, ?_⟩, maxHops_override hn⟩
    refine fault?_eq_none_iff.mpr ⟨?_, hmanifest, hmarkers⟩
    rw [maxHops_override hn]
    exact Nat.one_le_iff_ne_zero.mpr hpos

end Settings

end TestScout
