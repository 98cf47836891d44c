import TestScout.Proofs.Json.Record

/-!
What is read. A value lists members for the fields of a record: an object by their names, an array
by their places, in which case fields at the end may be missing if they are optional. The record is
read just when none of these members is at fault, and each field is then what its member is read as,
or what it is without one.
-/

namespace TestScout.Json

variable {α : Type} {members : List (String × Json)}

/-! ### Values -/

lemma readText_eq_ok_iff {wanted s : String} {v : Json} :
    readText wanted v = .ok s ↔ v = .str s := by
  cases v <;> simp [readText]

lemma readNat_eq_ok_iff {v : Json} {n : Nat} :
    readNat v = .ok n ↔ v = .nat n ∧ n < 0x10000000000000000 := by
  constructor
  · intro h
    cases v with
    | int i =>
        simp only [readNat] at h
        split at h
        · next hrange =>
          rw [Bool.and_eq_true, decide_eq_true_eq, decide_eq_true_eq] at hrange
          obtain rfl := Except.ok.inj h
          refine ⟨?_, by omega⟩
          rw [nat, Int.toNat_of_nonneg hrange.1]
        · cases h
    | _ => cases h
  · rintro ⟨rfl, h⟩
    exact readNat_nat h

lemma readStrings_eq_ok_iff {v : Json} {ss : List String} :
    readStrings v = .ok ss ↔ v = .texts ss := by
  constructor
  · intro h
    cases v with
    | arr items =>
        refine congrArg Json.arr ?_
        change items.mapM readString = .ok ss at h
        induction items generalizing ss with
        | nil =>
            obtain rfl := Except.ok.inj h
            rfl
        | cons item items ih =>
            rw [List.mapM_cons] at h
            obtain ⟨s, hs, h⟩ := exists_of_bind_ok h
            obtain ⟨rest, hrest, h⟩ := exists_of_bind_ok h
            obtain rfl := Except.ok.inj h
            obtain rfl := readText_eq_ok_iff.mp hs
            rw [ih hrest, List.map_cons]
    | _ => cases h
  · rintro rfl
    exact readStrings_texts ss

lemma readOption_string_eq_ok_iff {v : Json} {a : Option String} :
    readOption readString v = .ok a ↔ v = (a.map .str).getD .null := by
  cases v <;> cases a <;> simp [readOption, readString, readText, Functor.map, Except.map]

/-! ### Fields -/

lemma means_required_iff {name : String} {read : Reader α} {a : α} :
    (Field.required name read).Means members a ↔
      ∃ v, members.lookup name = some v ∧ read v = .ok a := by
  constructor
  · rintro ⟨-, h⟩
    simp only [Field.of, Field.required] at h
    cases hv : members.lookup name with
    | some v => exact ⟨v, rfl, by simpa only [hv] using h⟩
    | none =>
        simp only [hv] at h
        cases h
  · rintro ⟨v, hv, hread⟩
    exact ⟨(gives_required hv hread).passes, (gives_required hv hread).of⟩

lemma means_defaulting_iff {name : String} {read : Reader α} {default a : α} :
    (Field.defaulting name read default).Means members a ↔
      (∃ v, members.lookup name = some v ∧ read v = .ok a) ∨
        members.lookup name = none ∧ a = default := by
  constructor
  · rintro ⟨-, h⟩
    simp only [Field.of, Field.defaulting] at h
    cases hv : members.lookup name with
    | some v => exact Or.inl ⟨v, rfl, by simpa only [hv] using h⟩
    | none =>
        simp only [hv] at h
        exact Or.inr ⟨rfl, (Except.ok.inj h).symm⟩
  · rintro (⟨v, hv, hread⟩ | ⟨hnone, rfl⟩)
    · exact means_defaulting hv hread
    · exact means_absent hnone

lemma means_omissible_iff {name : String} {read : Reader (Option α)} {a : Option α} :
    (Field.omissible name read).Means members a ↔
      (∃ v, members.lookup name = some v ∧ read v = .ok a) ∨
        members.lookup name = none ∧ a = none := by
  change (Field.defaulting name read none).Means members a ↔ _
  exact means_defaulting_iff

lemma Field.Means.congr {f : Field α} {a : α} {others : List (String × Json)}
    (h : f.Means members a) (agree : others.lookup f.name = members.lookup f.name) :
    f.Means others a := by
  obtain ⟨hpass, hof⟩ := h
  refine ⟨fun v hv => hpass v (agree.symm.trans hv), ?_⟩
  rw [← hof]
  simp only [Field.of, agree]

/-! ### Records -/

inductive Lists (slots : List Slot) : Json → List (String × Json) → Prop
  | object (members : List (String × Json)) : Lists slots (.obj members) members
  | array {items : List Json} (few : items.length ≤ slots.length)
      (enough : ∀ s ∈ slots.drop items.length, s.optional = true) :
      Lists slots (.arr items) ((slots.map (·.name)).zip items)

lemma elementFault?_eq_none_iff {record : String} {fields length i : Nat} {slots : List Slot}
    {items : List Json} :
    elementFault? record fields length i slots items = none ↔
      items.length ≤ slots.length ∧ (∀ s ∈ slots.drop items.length, s.optional = true) ∧
        ∀ e ∈ slots.zip items, e.1.fault e.2 = none := by
  induction slots generalizing i items with
  | nil =>
      cases items with
      | nil => simp [elementFault?]
      | cons v items => simp [elementFault?]
  | cons s slots ih =>
      cases items with
      | nil =>
          rw [elementFault?]
          split
          · next hs => rw [ih]; simp [hs]
          · next hs => simp [hs]
      | cons v items =>
          rw [elementFault?]
          split
          · next e he => simp [he]
          · next he => rw [ih]; simp [he]

/-- Members listed by their places are found by their names. -/
lemma passes_zip_iff {slots : List Slot} (h : (slots.map (·.name)).Nodup) {items : List Json} :
    (∀ s ∈ slots, s.Passes ((slots.map (·.name)).zip items)) ↔
      ∀ e ∈ slots.zip items, e.1.fault e.2 = none := by
  induction slots generalizing items with
  | nil => simp
  | cons s slots ih =>
      cases items with
      | nil => simp [Slot.Passes]
      | cons v items =>
          rw [List.map_cons, List.nodup_cons] at h
          have hself : s.Passes ((s.name, v) :: (slots.map (·.name)).zip items) ↔
              s.fault v = none := by
            simp [Slot.Passes]
          have hother : ∀ s' ∈ slots,
              s'.Passes ((s.name, v) :: (slots.map (·.name)).zip items) ↔
                s'.Passes ((slots.map (·.name)).zip items) := by
            intro s' hs'
            have hne : (s'.name == s.name) = false := by
              refine beq_false_of_ne fun e => h.1 ?_
              rw [← e]
              exact List.mem_map_of_mem hs'
            simp [Slot.Passes, List.lookup_cons, hne]
          rw [List.map_cons, List.zip_cons_cons, List.zip_cons_cons, List.forall_mem_cons,
            List.forall_mem_cons, hself, ← ih h.2]
          exact and_congr_right fun _ => forall₂_congr hother

/-- **Records**: a record is read from a value just when no member that the value lists for its
fields is at fault. -/
theorem readFields_eq_ok_iff {record : String} {slots : List Slot}
    (h : (slots.map (·.name)).Nodup) {v : Json} {given : Given} :
    readFields record slots v = .ok given ↔
      ∃ members, Lists slots v members ∧ (∀ s ∈ slots, s.Passes members) ∧
        given = fun name => members.lookup name := by
  constructor
  · intro hread
    unfold readFields at hread
    split at hread
    · next members =>
      split at hread
      · cases hread
      · next hfault =>
        exact ⟨members, .object members, memberFault?_eq_none_iff.mp hfault,
          (Except.ok.inj hread).symm⟩
    · next items =>
      split at hread
      · cases hread
      · next hfault =>
        obtain ⟨few, enough, hpass⟩ := elementFault?_eq_none_iff.mp hfault
        exact ⟨_, .array few enough, (passes_zip_iff h).mpr hpass, (Except.ok.inj hread).symm⟩
    · cases hread
  · rintro ⟨members, hlists, hpass, rfl⟩
    cases hlists with
    | object => exact readFields_obj hpass
    | array few enough =>
        rw [readFields, elementFault?_eq_none_iff.mpr ⟨few, enough, (passes_zip_iff h).mp hpass⟩]

end TestScout.Json
