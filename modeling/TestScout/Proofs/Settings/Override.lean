import TestScout.Proofs.Text.Numeral
import TestScout.Settings.Load

/-!
What the variables of the environment make of settings. Each of six variables is about one field and
has the last word on it where it makes sense: four are taken as they are, one has to spell a number
and one a policy. No other field is touched. So it changes nothing to look at the same variables
again, and of two sets of variables looked at one after the other the later counts wherever it makes
sense.
-/

namespace TestScout

inductive PatternPolicy.Spelled : String → PatternPolicy → Prop
  | loose : Spelled "loose" .loose
  | exactPath : Spelled "exact-path" .exactPath

lemma PatternPolicy.ofName?_eq_some_iff {text : String} {p : PatternPolicy} :
    ofName? text = some p ↔ Spelled text p := by
  constructor
  · intro h
    rw [ofName?, named, List.lookup_cons] at h
    split at h
    · next hloose =>
      obtain rfl := Option.some.inj h
      rw [beq_iff_eq.mp hloose]
      exact .loose
    · rw [List.lookup_cons] at h
      split at h
      · next hexact =>
        obtain rfl := Option.some.inj h
        rw [beq_iff_eq.mp hexact]
        exact .exactPath
      · cases h
  · rintro ⟨⟩ <;> rfl

namespace Settings

/-! ### One field -/

section Field

variable {α : Type} {Tells : String → α → Prop} {read : String → Option α} {given : Option String}
  {old new : α}

/-- What a field becomes under what its variable is given: the value that this tells, or what it was
if this tells none. -/
inductive Settled (Tells : String → α → Prop) : Option String → α → α → Prop
  | set {text : String} {old value : α} (told : Tells text value) :
      Settled Tells (some text) old value
  | kept {given : Option String} {old : α}
      (silent : ∀ text, given = some text → ∀ value, ¬ Tells text value) :
      Settled Tells given old old

lemma settled_iff (hread : ∀ text value, read text = some value ↔ Tells text value) :
    Settled Tells given old new ↔ (given.bind read).getD old = new := by
  constructor
  · rintro (told | silent)
    · rw [Option.bind_some, (hread _ _).mpr told, Option.getD_some]
    · have hnone : given.bind read = none := by
        refine Option.bind_eq_none_iff.mpr fun text htext => ?_
        refine Option.eq_none_iff_forall_ne_some.mpr fun value hvalue => ?_
        exact silent text htext value ((hread _ _).mp hvalue)
      rw [hnone, Option.getD_none]
  · rintro rfl
    cases hvalue : given.bind read with
    | none =>
        refine .kept fun text htext value told => ?_
        have hsome := (hread _ _).mpr told
        rw [Option.bind_eq_none_iff.mp hvalue text htext] at hsome
        cases hsome
    | some value =>
        obtain ⟨text, rfl, htext⟩ := Option.bind_eq_some_iff.mp hvalue
        exact .set ((hread _ _).mp htext)

lemma Settled.again (h : Settled Tells given old new) : Settled Tells given new new := by
  cases h with
  | set told => exact .set told
  | kept silent => exact .kept silent

end Field

/-! ### Six variables -/

def Taken (text value : String) : Prop := value = text

/-- A text is a number of directories, if it spells one that fits. -/
def Counts (text : String) (n : ℕ) : Prop := Text.Spells text n ∧ n < 2 ^ 64

/-- The settings that variables make of others. Each field that a variable is about is settled by
that variable alone, and the others are as they were. -/
structure Overridden (var : String → Option String) (s c : Settings) : Prop where
  package : Settled Taken (var "VITEST_LENS_RUNNER_PACKAGE") s.runner.package c.runner.package
  entry : Settled Taken (var "VITEST_LENS_RUNNER_ENTRY") s.runner.entry c.runner.entry
  executable : Settled Taken (var "VITEST_LENS_RUNTIME_EXECUTABLE") s.runner.executable
    c.runner.executable
  maxHops : Settled Counts (var "VITEST_LENS_MAX_ROOT_HOPS") s.runner.maxHops c.runner.maxHops
  console : Settled Taken (var "VITEST_LENS_CONSOLE") s.launch.console c.launch.console
  policy : Settled PatternPolicy.Spelled (var "VITEST_LENS_PATTERN_POLICY") s.launch.policy
    c.launch.policy
  manifest : c.runner.manifest = s.runner.manifest
  discovery : c.discovery = s.discovery
  launch : c.launch = { s.launch with console := c.launch.console, policy := c.launch.policy }

variable {s c : Settings} {var : String → Option String}

lemma settled_taken_iff {given : Option String} {old new : String} :
    Settled Taken given old new ↔ given.getD old = new := by
  have hread (text value : String) : some text = some value ↔ Taken text value :=
    Option.some_inj.trans eq_comm
  rw [settled_iff hread, Option.bind_fun_some]

lemma settled_counts_iff {given : Option String} {old new : ℕ} :
    Settled Counts given old new ↔ (given.bind Text.word?).getD old = new :=
  settled_iff fun _ _ => Text.word?_eq_some_iff

lemma settled_spelled_iff {given : Option String} {old new : PatternPolicy} :
    Settled PatternPolicy.Spelled given old new ↔
      (given.bind PatternPolicy.ofName?).getD old = new :=
  settled_iff fun _ _ => PatternPolicy.ofName?_eq_some_iff

/-- The settings that variables make of others are the only ones that are settled so. -/
theorem override_eq_iff : s.override var = c ↔ Overridden var s c := by
  constructor
  · rintro rfl
    exact {
      package := settled_taken_iff.mpr rfl
      entry := settled_taken_iff.mpr rfl
      executable := settled_taken_iff.mpr rfl
      maxHops := settled_counts_iff.mpr rfl
      console := settled_taken_iff.mpr rfl
      policy := settled_spelled_iff.mpr rfl
      manifest := rfl
      discovery := rfl
      launch := rfl }
  · intro h
    have hlaunch := h.launch
    rw [← settled_taken_iff.mp h.console, ← settled_spelled_iff.mp h.policy] at hlaunch
    obtain ⟨⟨package, entry, executable, manifest, maxHops⟩, discovery, launch⟩ := c
    obtain rfl : _ = package := settled_taken_iff.mp h.package
    obtain rfl : _ = entry := settled_taken_iff.mp h.entry
    obtain rfl : _ = executable := settled_taken_iff.mp h.executable
    obtain rfl : _ = maxHops := settled_counts_iff.mp h.maxHops
    obtain rfl : manifest = _ := h.manifest
    obtain rfl : discovery = _ := h.discovery
    obtain rfl : launch = _ := hlaunch
    rfl

/-! ### Two sets of variables -/

def Sensible (name text : String) : Prop :=
  (name = "VITEST_LENS_MAX_ROOT_HOPS" → ∃ n, Counts text n) ∧
    (name = "VITEST_LENS_PATTERN_POLICY" → ∃ p, PatternPolicy.Spelled text p)

instance (name text : String) : Decidable (Sensible name text) :=
  decidable_of_iff
    ((name = "VITEST_LENS_MAX_ROOT_HOPS" → (Text.word? text).isSome = true) ∧
      (name = "VITEST_LENS_PATTERN_POLICY" → (PatternPolicy.ofName? text).isSome = true))
    (by simp only [Sensible, Counts, Option.isSome_iff_exists, Text.word?_eq_some_iff,
      PatternPolicy.ofName?_eq_some_iff])

/-- Variables of which the later ones count wherever what they are given makes sense. -/
def layered (var later : String → Option String) (name : String) : Option String :=
  ((later name).filter fun text => Sensible name text).or (var name)

lemma Settled.later {α : Type} {Tells : String → α → Prop} {later : String → Option String}
    {name : String} {old mid new : α} (hsensible : ∀ text, Sensible name text ↔ ∃ a, Tells text a)
    (h : Settled Tells (var name) old mid) (hlater : Settled Tells (later name) mid new) :
    Settled Tells (layered var later name) old new := by
  unfold layered
  generalize later name = given at hlater
  cases hlater with
  | @set text _ _ told =>
      have hsome : (some text).filter (fun text => Sensible name text) = some text :=
        Option.filter_some_pos (by simpa using (hsensible text).mpr ⟨new, told⟩)
      rw [hsome, Option.some_or]
      exact .set told
  | kept silent =>
      have hnone : given.filter (fun text => Sensible name text) = none := by
        refine Option.filter_eq_none_iff.mpr fun text htext hdecide => ?_
        obtain ⟨a, told⟩ := (hsensible text).mp (by simpa using hdecide)
        exact silent text htext a told
      rw [hnone, Option.none_or]
      exact h

/-- Variables looked at after others: what they say of a field counts, and the others count on the
rest. -/
lemma Overridden.later {later : String → Option String} {mid : Settings}
    (h : Overridden var s mid) (hlater : Overridden later mid c) :
    Overridden (layered var later) s c := by
  have hany {name : String} (hhops : name ≠ "VITEST_LENS_MAX_ROOT_HOPS")
      (hpolicy : name ≠ "VITEST_LENS_PATTERN_POLICY") (text : String) :
      Sensible name text ↔ ∃ value, Taken text value :=
    ⟨fun _ => ⟨text, rfl⟩, fun _ => ⟨fun h => absurd h hhops, fun h => absurd h hpolicy⟩⟩
  have hhops (text : String) :
      Sensible "VITEST_LENS_MAX_ROOT_HOPS" text ↔ ∃ n, Counts text n :=
    ⟨fun h => h.1 rfl, fun h => ⟨fun _ => h, fun h => absurd h (by decide)⟩⟩
  have hpolicy (text : String) :
      Sensible "VITEST_LENS_PATTERN_POLICY" text ↔ ∃ p, PatternPolicy.Spelled text p :=
    ⟨fun h => h.2 rfl, fun h => ⟨fun h => absurd h (by decide), fun _ => h⟩⟩
  exact {
    package := h.package.later (hany (by decide) (by decide)) hlater.package
    entry := h.entry.later (hany (by decide) (by decide)) hlater.entry
    executable := h.executable.later (hany (by decide) (by decide)) hlater.executable
    maxHops := h.maxHops.later hhops hlater.maxHops
    console := h.console.later (hany (by decide) (by decide)) hlater.console
    policy := h.policy.later hpolicy hlater.policy
    manifest := hlater.manifest.trans h.manifest
    discovery := hlater.discovery.trans h.discovery
    launch := by rw [hlater.launch, h.launch] }

lemma Overridden.again (h : Overridden var s c) : Overridden var c c where
  package := h.package.again
  entry := h.entry.again
  executable := h.executable.again
  maxHops := h.maxHops.again
  console := h.console.again
  policy := h.policy.again
  manifest := rfl
  discovery := rfl
  launch := rfl

/-- **Variables**: what they make of settings is settled field by field, each of six fields by a
variable of its own and the others not at all. The same variables make nothing else of the result,
and other variables make of it what both make of the settings at once, where of two things that are
given for one variable the later counts if it makes sense. -/
theorem override_settles (s : Settings) (var : String → Option String) :
    (∀ c, s.override var = c ↔ Overridden var s c) ∧
      (s.override var).override var = s.override var ∧
      ∀ later, (s.override var).override later = s.override (layered var later) := by
  have h : Overridden var s (s.override var) := override_eq_iff.mp rfl
  refine ⟨fun c => override_eq_iff, override_eq_iff.mpr h.again, fun later => ?_⟩
  have hlater : Overridden later (s.override var) ((s.override var).override later) :=
    override_eq_iff.mp rfl
  exact (override_eq_iff.mpr (h.later hlater)).symm

end Settings

end TestScout
