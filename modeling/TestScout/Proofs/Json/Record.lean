import Mathlib.Tactic.Lemma
import TestScout.Json.Decode

/-!
Reading records back. Of the members of an object only those under the names of fields are looked
at, so an object is read field by field as soon as no field is at fault; the order in which faults
are looked for only matters when there is one.
-/

namespace TestScout.Json

variable {α : Type} {members : List (String × Json)}

/-- A step that succeeds hands on what it gives; the steps themselves stay closed. -/
lemma bind_of_ok {ε β γ : Type} {x : Except ε β} {b : β} {f : β → Except ε γ} (h : x = .ok b) :
    (x >>= f) = f b := by
  rw [h]; rfl

lemma exists_of_bind_ok {ε β γ : Type} {x : Except ε β} {f : β → Except ε γ} {c : γ}
    (h : (x >>= f) = .ok c) : ∃ b, x = .ok b ∧ f b = .ok c := by
  cases x with
  | error e => cases h
  | ok b => exact ⟨b, rfl, h⟩

/-- The members have nothing under the name of a field that cannot be read. -/
def Slot.Passes (s : Slot) (members : List (String × Json)) : Prop :=
  ∀ v, members.lookup s.name = some v → s.fault v = none

def Field.Gives (f : Field α) (members : List (String × Json)) (a : α) : Prop :=
  ∃ v, members.lookup f.name = some v ∧ f.read v = .ok a

lemma gives_required {name : String} {read : Reader α} {v : Json} {a : α}
    (hv : members.lookup name = some v) (hread : read v = .ok a) :
    (Field.required name read).Gives members a := ⟨v, hv, hread⟩

lemma gives_defaulting {name : String} {read : Reader α} {default a : α} {v : Json}
    (hv : members.lookup name = some v) (hread : read v = .ok a) :
    (Field.defaulting name read default).Gives members a := ⟨v, hv, hread⟩

lemma Field.Gives.passes {f : Field α} {a : α} (h : f.Gives members a) :
    f.slot.Passes members := by
  obtain ⟨v, hv, hread⟩ := h
  intro w hw
  obtain rfl : v = w := Option.some.inj (hv.symm.trans hw)
  simp only [Field.slot, hread]

lemma Field.Gives.of {f : Field α} {a : α} (h : f.Gives members a) :
    f.of (fun name => members.lookup name) = .ok a := by
  obtain ⟨v, hv, hread⟩ := h
  rw [Field.of, hv]
  exact hread

/-- The members say what a field is: they give it a value, or leave out what has one of its own. -/
def Field.Means (f : Field α) (members : List (String × Json)) (a : α) : Prop :=
  f.slot.Passes members ∧ f.of (fun name => members.lookup name) = .ok a

lemma means_defaulting {name : String} {read : Reader α} {default a : α} {v : Json}
    (hv : members.lookup name = some v) (hread : read v = .ok a) :
    (Field.defaulting name read default).Means members a :=
  ⟨(gives_defaulting hv hread).passes, (gives_defaulting hv hread).of⟩

lemma means_absent {name : String} {read : Reader α} {default : α}
    (h : members.lookup name = none) :
    (Field.defaulting name read default).Means members default := by
  refine ⟨fun v hv => ?_, ?_⟩
  · rw [Field.slot, Field.defaulting, h] at hv
    exact absurd hv (by simp)
  · rw [Field.of, Field.defaulting, h]

lemma memberFault?_eq_none_iff {slots : List Slot} :
    memberFault? slots members = none ↔ ∀ s ∈ slots, s.Passes members := by
  unfold memberFault? Slot.Passes
  simp only [List.findSome?_eq_none_iff, List.mem_mergeSort, Option.bind_eq_none_iff]

/-- An object none of whose members is at fault gives its members as fields. -/
theorem readFields_obj {record : String} {slots : List Slot}
    (h : ∀ s ∈ slots, s.Passes members) :
    readFields record slots (.obj members) = .ok fun name => members.lookup name := by
  rw [readFields, memberFault?_eq_none_iff.mpr h]

/-! ### Values -/

lemma readNat_nat {n : Nat} (h : n < 0x10000000000000000) : readNat (nat n) = .ok n := by
  have hn : (0 ≤ (n : Int) && (n : Int) < 0x10000000000000000) = true := by
    simp only [Bool.and_eq_true, decide_eq_true_eq]
    omega
  rw [nat, readNat, if_pos hn, Int.toNat_natCast]

lemma readList_map {β : Type} {read : Reader α} {write : β → Json} {get : β → α}
    (h : ∀ b, read (write b) = .ok (get b)) (bs : List β) :
    readList read (.arr (bs.map write)) = .ok (bs.map get) := by
  rw [readList]
  induction bs with
  | nil => rfl
  | cons b bs ih =>
      rw [List.map_cons, List.mapM_cons, h, ih]
      rfl

lemma readStrings_texts (ss : List String) : readStrings (texts ss) = .ok ss := by
  have h := @readList_map String String readString Json.str id (fun _ => rfl) ss
  rwa [List.map_id] at h

lemma ordered_table (d : Dict String) :
    ordered (d.entries.map fun e => (e.1, .str e.2)) = d.entries.map fun e => (e.1, .str e.2) := by
  refine List.mergeSort_of_pairwise (List.pairwise_map.mpr (d.rise.imp fun h => ?_))
  exact decide_eq_true (String.not_lt.mp (String.lt_asymm h))

lemma insertEntry_last {k : String} {v : α} {entries : List (String × α)}
    (h : ∀ e ∈ entries, e.1 < k) : insertEntry k v entries = entries ++ [(k, v)] := by
  induction entries with
  | nil => rfl
  | cons e entries ih =>
      obtain ⟨k', v'⟩ := e
      have hlt : k' < k := h (k', v') List.mem_cons_self
      have hne : k ≠ k' := by
        rintro rfl
        exact String.lt_irrefl _ hlt
      rw [insertEntry, if_neg (String.lt_asymm hlt), if_neg hne,
        ih fun e he => h e (List.mem_cons_of_mem _ he), List.cons_append]

lemma entries_foldl_insert {entries : List (String × α)} (d : Dict α)
    (h : NamesRise (d.entries ++ entries)) :
    (entries.foldl (fun d e => d.insert e.1 e.2) d).entries = d.entries ++ entries := by
  induction entries generalizing d with
  | nil => simp
  | cons e entries ih =>
      have hlast : (d.insert e.1 e.2).entries = d.entries ++ [e] :=
        insertEntry_last fun e' he' => (List.pairwise_append.mp h).2.2 e' he' e List.mem_cons_self
      rw [List.foldl_cons, ih _ (by rw [hlast]; simpa using h), hlast]
      simp

lemma ofList_entries (d : Dict α) : Dict.ofList d.entries = d := by
  have h : (Dict.ofList d.entries).entries = d.entries := entries_foldl_insert Dict.empty d.rise
  obtain ⟨entries, rise⟩ := d
  generalize Dict.ofList entries = other at h
  obtain ⟨other, rise'⟩ := other
  cases h
  rfl

lemma mapM_entries {read : String × Json → Except DecodeError (String × String)}
    (h : ∀ k s, read (k, .str s) = .ok (k, s)) (entries : List (String × String)) :
    (entries.map fun e => (e.1, Json.str e.2)).mapM read = .ok entries := by
  induction entries with
  | nil => rfl
  | cons e entries ih =>
      rw [List.map_cons, List.mapM_cons, h, ih]
      rfl

lemma readTable_table (d : Dict String) : readTable (table d) = .ok d := by
  rw [table, readTable, ordered_table]
  refine (bind_of_ok (mapM_entries (fun _ _ => rfl) d.entries)).trans ?_
  rw [ofList_entries]
  rfl

end TestScout.Json
