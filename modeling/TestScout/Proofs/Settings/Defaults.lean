import Mathlib.Data.List.Forall2
import TestScout.Proofs.Registry
import TestScout.Proofs.Settings.Codec

/-!
What settings are where nothing is said of them. Settings are read section by section and field by
field; whatever is given for the others, a field for which nothing is given is as built in, and so
is every field of a section for which nothing is given.
-/

namespace TestScout

namespace Json

variable {α : Type} {given : Given}

/-- What a value gives for a field of a record: the member of an object under its name, or the
element of an array in its place. -/
def given? (slots : List Slot) (v : Json) (name : String) : Option Json :=
  match v with
  | .obj members => members.lookup name
  | .arr items => ((slots.map (·.name)).zip items).lookup name
  | _ => none

lemma eq_given?_of_readFields {record : String} {slots : List Slot} {v : Json}
    (h : readFields record slots v = .ok given) : given = given? slots v := by
  unfold readFields at h
  cases v with
  | obj members =>
      simp only at h
      split at h
      · cases h
      · exact (Except.ok.inj h).symm
  | arr items =>
      simp only at h
      split at h
      · cases h
      · exact (Except.ok.inj h).symm
  | _ => cases h

lemma eq_default_of_absent {name : String} {read : Reader α} {default a : α}
    (h : (Field.defaulting name read default).of given = .ok a) (habsent : given name = none) :
    a = default := by
  simp only [Field.of, Field.defaulting, habsent] at h
  exact (Except.ok.inj h).symm

/-- Two records whose members may differ only where something is given have the same member where
nothing is. -/
lemma given?_eq_of_absent {slots : List Slot} {members members' : List (String × Json)}
    (h : List.Forall₂ (fun e e' => e.1 = e'.1 ∧ (given e.1 = none → e.2 = e'.2)) members members')
    {field : String} (habsent : given field = none) :
    given? slots (.obj members) field = given? slots (.obj members') field := by
  induction h with
  | nil => rfl
  | @cons e e' rest rest' hhead _ ih =>
      obtain ⟨k, v⟩ := e
      obtain ⟨k', v'⟩ := e'
      obtain ⟨rfl, hsame⟩ : k = k' ∧ (given k = none → v = v') := hhead
      simp only [given?] at ih ⊢
      rw [lookup_cons_if, lookup_cons_if, ih]
      split
      · next hk =>
        subst hk
        rw [hsame habsent]
      · rfl

end Json

open Json

namespace RunnerSettings

lemma toJson_of_absent {v : Json} {s : RunnerSettings} {field : String} (h : read v = .ok s)
    (habsent : given? slots v field = none) :
    given? slots s.toJson field = given? slots builtIn.toJson field := by
  obtain ⟨given, hgiven, h⟩ := exists_of_bind_ok h
  obtain ⟨package, hpackage, h⟩ := exists_of_bind_ok h
  obtain ⟨entry, hentry, h⟩ := exists_of_bind_ok h
  obtain ⟨executable, hexecutable, h⟩ := exists_of_bind_ok h
  obtain ⟨manifest, hmanifest, h⟩ := exists_of_bind_ok h
  obtain ⟨maxHops, hmaxHops, h⟩ := exists_of_bind_ok h
  obtain rfl := Except.ok.inj h
  obtain rfl := eq_given?_of_readFields hgiven
  refine given?_eq_of_absent ?_ habsent
  refine .cons ⟨rfl, fun hn => ?_⟩ <| .cons ⟨rfl, fun hn => ?_⟩ <|
    .cons ⟨rfl, fun hn => ?_⟩ <| .cons ⟨rfl, fun hn => ?_⟩ <| .cons ⟨rfl, fun hn => ?_⟩ .nil
  · exact congrArg Json.str (eq_default_of_absent hpackage hn)
  · exact congrArg Json.str (eq_default_of_absent hentry hn)
  · exact congrArg Json.str (eq_default_of_absent hexecutable hn)
  · exact congrArg Json.str (eq_default_of_absent hmanifest hn)
  · exact congrArg Json.nat (eq_default_of_absent hmaxHops hn)

end RunnerSettings

namespace Markers

lemma toJson_of_absent {v : Json} {m : Markers} {field : String} (h : read v = .ok m)
    (habsent : given? slots v field = none) :
    given? slots m.toJson field = given? slots builtIn.toJson field := by
  obtain ⟨given, hgiven, h⟩ := exists_of_bind_ok h
  obtain ⟨suites, hsuites, h⟩ := exists_of_bind_ok h
  obtain ⟨tests, htests, h⟩ := exists_of_bind_ok h
  obtain rfl := Except.ok.inj h
  obtain rfl := eq_given?_of_readFields hgiven
  refine given?_eq_of_absent ?_ habsent
  refine .cons ⟨rfl, fun hn => ?_⟩ <| .cons ⟨rfl, fun hn => ?_⟩ .nil
  · exact congrArg Json.texts (eq_default_of_absent hsuites hn)
  · exact congrArg Json.texts (eq_default_of_absent htests hn)

end Markers

namespace LaunchSettings

lemma toJson_of_absent {v : Json} {s : LaunchSettings} {field : String} (h : read v = .ok s)
    (habsent : given? slots v field = none) :
    given? slots s.toJson field = given? slots builtIn.toJson field := by
  obtain ⟨given, hgiven, h⟩ := exists_of_bind_ok h
  obtain ⟨name, hname, h⟩ := exists_of_bind_ok h
  obtain ⟨console, hconsole, h⟩ := exists_of_bind_ok h
  obtain ⟨policy, hpolicy, h⟩ := exists_of_bind_ok h
  obtain ⟨justMyCode, hcode, h⟩ := exists_of_bind_ok h
  obtain ⟨attachChildren, hchildren, h⟩ := exists_of_bind_ok h
  obtain ⟨taskBefore, htask, h⟩ := exists_of_bind_ok h
  obtain ⟨env, henv, h⟩ := exists_of_bind_ok h
  obtain ⟨skipFiles, hskip, h⟩ := exists_of_bind_ok h
  obtain rfl := Except.ok.inj h
  obtain rfl := eq_given?_of_readFields hgiven
  refine given?_eq_of_absent ?_ habsent
  refine .cons ⟨rfl, fun hn => ?_⟩ <| .cons ⟨rfl, fun hn => ?_⟩ <|
    .cons ⟨rfl, fun hn => ?_⟩ <| .cons ⟨rfl, fun hn => ?_⟩ <| .cons ⟨rfl, fun hn => ?_⟩ <|
    .cons ⟨rfl, fun hn => ?_⟩ <| .cons ⟨rfl, fun hn => ?_⟩ <| .cons ⟨rfl, fun hn => ?_⟩ .nil
  · exact congrArg Json.str (eq_default_of_absent hname hn)
  · exact congrArg Json.str (eq_default_of_absent hconsole hn)
  · exact congrArg (fun p => Json.str p.name) (eq_default_of_absent hpolicy hn)
  · exact congrArg Json.bool (eq_default_of_absent hcode hn)
  · exact congrArg Json.bool (eq_default_of_absent hchildren hn)
  · exact congrArg (fun t => (t.map Json.str).getD .null) (eq_default_of_absent htask hn)
  · exact congrArg Json.table (eq_default_of_absent henv hn)
  · exact congrArg Json.texts (eq_default_of_absent hskip hn)

end LaunchSettings

namespace Settings

def layout : List (String × List Slot) :=
  [("runner", RunnerSettings.slots), ("discovery", Markers.slots), ("launch", LaunchSettings.slots)]

/-- What a value gives for a field of a section of the settings. -/
def given? (v : Json) (sec field : String) : Option Json := do
  let fields ← layout.lookup sec
  let part ← Json.given? slots v sec
  Json.given? fields part field

lemma section_of_absent {α : Type} {name field : String} {read : Reader α} {default a : α}
    {toJson : α → Json} {slots : List Slot} {given : Given}
    (hread : ∀ part a, read part = .ok a → Json.given? slots part field = none →
      Json.given? slots (toJson a) field = Json.given? slots (toJson default) field)
    (h : (Field.defaulting name read default).of given = .ok a)
    (habsent : ((given name).bind fun part => Json.given? slots part field) = none) :
    Json.given? slots (toJson a) field = Json.given? slots (toJson default) field := by
  -- nothing is given for the field if the section says nothing of it, or is not there itself
  cases hpart : given name with
  | none => rw [eq_default_of_absent h hpart]
  | some part =>
      rw [hpart, Option.bind_some] at habsent
      simp only [Field.of, Field.defaulting, hpart] at h
      exact hread part a h habsent

/-- **Defaults**: settings that are read are as built in at every field for which nothing is
given. -/
theorem toJson_of_absent {v : Json} {c : Settings} {sec field : String} (h : read v = .ok c)
    (habsent : given? v sec field = none) :
    given? c.toJson sec field = given? builtIn.toJson sec field := by
  obtain ⟨given, hgiven, h⟩ := exists_of_bind_ok h
  obtain ⟨runner, hrunner, h⟩ := exists_of_bind_ok h
  obtain ⟨discovery, hdiscovery, h⟩ := exists_of_bind_ok h
  obtain ⟨launch, hlaunch, h⟩ := exists_of_bind_ok h
  obtain rfl := Except.ok.inj h
  obtain rfl := eq_given?_of_readFields hgiven
  by_cases hsec : sec = "runner"
  · subst hsec
    exact section_of_absent (fun _ _ => RunnerSettings.toJson_of_absent) hrunner habsent
  · by_cases hsec' : sec = "discovery"
    · subst hsec'
      exact section_of_absent (fun _ _ => Markers.toJson_of_absent) hdiscovery habsent
    · by_cases hsec'' : sec = "launch"
      · subst hsec''
        exact section_of_absent (fun _ _ => LaunchSettings.toJson_of_absent) hlaunch habsent
      · have hlayout : layout.lookup sec = none := by
          rw [layout, lookup_cons_if, lookup_cons_if, lookup_cons_if, if_neg hsec, if_neg hsec',
            if_neg hsec'']
          rfl
        simp [given?, hlayout]

end Settings

end TestScout
