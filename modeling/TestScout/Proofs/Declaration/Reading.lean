import TestScout.Proofs.Declaration.Codec
import TestScout.Proofs.Json.Reading

/-!
What declarations are read from. The forms of a declaration as JSON are spelled out here, shape by
shape, without the reader: an object with its fields, whatever else is in it, or an array of them,
either of which may leave out the names around it. A value is read as a declaration just when it is
such a form with a kind that there is; a form with any other kind is refused for its kind, and every
other value for what it is.
-/

namespace TestScout

open Json

/-! ### Kinds -/

namespace DeclarationKind

/-- The texts that name a kind. -/
def spellings : List String := ["suite", "describe", "test", "it"]

def words : DeclarationKind → List String
  | suite => ["suite", "describe"]
  | test => ["test", "it"]

lemma ofText_eq_ok_iff {text : String} {k : DeclarationKind} :
    ofText text = .ok k ↔ text ∈ k.words := by
  unfold ofText
  cases k with
  | suite => split <;> simp_all [words]
  | test => split <;> simp_all [words]

lemma ofText_eq_error_iff {text : String} {f : Failure} :
    ofText text = .error f ↔ text ∉ spellings ∧ f = .invalidKind text := by
  unfold ofText spellings
  split <;> simp_all [eq_comm]

end DeclarationKind

/-! ### Forms -/

inductive Span.Form (s : Span) : Json → Prop
  | object {members : List (String × Json)} (start : members.lookup "start" = some (.nat s.start))
      (stop : members.lookup "end" = some (.nat s.stop)) (small : s.Small) : Form s (.obj members)
  | array (small : s.Small) : Form s (.arr [.nat s.start, .nat s.stop])

structure Unsorted where
  kind : String
  file : String
  span : Span
  name : String
  ancestors : List String

namespace Unsorted

/-- The declaration, when its kind is known. -/
def sort (u : Unsorted) (k : DeclarationKind) : Declaration :=
  ⟨k, .ofString u.file, u.span, u.name, u.ancestors⟩

inductive Form (u : Unsorted) : Json → Prop
  | object {members : List (String × Json)} {span : Json}
      (kind : members.lookup "kind" = some (.str u.kind))
      (file : members.lookup "sourceFile" = some (.str u.file))
      (at_ : members.lookup "span" = some span) (form : u.span.Form span)
      (name : members.lookup "name" = some (.str u.name))
      (ancestors : members.lookup "ancestorNames" = some (.texts u.ancestors) ∨
        members.lookup "ancestorNames" = none ∧ u.ancestors = []) : Form u (.obj members)
  | array {span : Json} (form : u.span.Form span) :
      Form u (.arr [.str u.kind, .str u.file, span, .str u.name, .texts u.ancestors])
  | short {span : Json} (form : u.span.Form span) (ancestors : u.ancestors = []) :
      Form u (.arr [.str u.kind, .str u.file, span, .str u.name])

lemma Form.small {u : Unsorted} {v : Json} (h : u.Form v) : u.span.Small := by
  have hspan {span : Json} (h : u.span.Form span) : u.span.Small := by
    cases h <;> assumption
  cases h with
  | object _ _ _ hform => exact hspan hform
  | array hform => exact hspan hform
  | short hform => exact hspan hform

end Unsorted

/-! ### Stretches -/

namespace Span

def slots : List Slot := [startField.slot, stopField.slot]

lemma read_eq_ok_iff_means {v : Json} {s : Span} :
    read v = .ok s ↔ ∃ members, Lists slots v members ∧ startField.Means members s.start ∧
      stopField.Means members s.stop := by
  have hnames : (slots.map (·.name)).Nodup := by decide
  constructor
  · intro h
    obtain ⟨given, hgiven, h⟩ := exists_of_bind_ok h
    obtain ⟨start, hstart, h⟩ := exists_of_bind_ok h
    obtain ⟨stop, hstop, h⟩ := exists_of_bind_ok h
    obtain rfl := Except.ok.inj h
    obtain ⟨members, hlists, hpass, rfl⟩ := (readFields_eq_ok_iff hnames).mp hgiven
    exact ⟨members, hlists, ⟨hpass startField.slot (by simp [slots]), hstart⟩,
      ⟨hpass stopField.slot (by simp [slots]), hstop⟩⟩
  · rintro ⟨members, hlists, hstart, hstop⟩
    have hpass : ∀ s ∈ slots, s.Passes members := by simp [slots, hstart.1, hstop.1]
    rw [read, ← slots, bind_of_ok ((readFields_eq_ok_iff hnames).mpr ⟨members, hlists, hpass, rfl⟩),
      bind_of_ok hstart.2, bind_of_ok hstop.2]
    rfl

/-- Both ends of a stretch have to be there. -/
lemma exists_of_lists_array {items : List Json} {members : List (String × Json)}
    (h : Lists slots (.arr items) members) :
    ∃ start stop, items = [start, stop] ∧ members = [("start", start), ("end", stop)] := by
  cases h with
  | array few enough =>
      rcases items with _ | ⟨start, _ | ⟨stop, _ | _⟩⟩
      · exact absurd (enough startField.slot (by simp [slots])) (by decide)
      · exact absurd (enough stopField.slot (by simp [slots])) (by decide)
      · exact ⟨start, stop, rfl, rfl⟩
      · exact absurd few (by simp [slots])

lemma read_eq_ok_iff {v : Json} {s : Span} : read v = .ok s ↔ s.Form v := by
  rw [read_eq_ok_iff_means]
  constructor
  · rintro ⟨members, hlists, hstart, hstop⟩
    obtain ⟨a, ha, hread⟩ := means_required_iff.mp hstart
    obtain ⟨b, hb, hread'⟩ := means_required_iff.mp hstop
    obtain ⟨rfl, hsmall⟩ := readNat_eq_ok_iff.mp hread
    obtain ⟨rfl, hsmall'⟩ := readNat_eq_ok_iff.mp hread'
    cases v with
    | obj _ =>
        cases hlists
        exact .object ha hb ⟨hsmall, hsmall'⟩
    | arr items =>
        obtain ⟨start, stop, rfl, rfl⟩ := exists_of_lists_array hlists
        obtain rfl := Option.some.inj ha
        obtain rfl := Option.some.inj hb
        exact .array ⟨hsmall, hsmall'⟩
    | _ => cases hlists
  · intro h
    cases h with
    | object hstart hstop small =>
        exact ⟨_, .object _, means_required_iff.mpr ⟨_, hstart, readNat_nat small.1⟩,
          means_required_iff.mpr ⟨_, hstop, readNat_nat small.2⟩⟩
    | array small =>
        exact ⟨_, .array (by simp [slots]) (by simp [slots]),
          means_required_iff.mpr ⟨_, rfl, readNat_nat small.1⟩,
          means_required_iff.mpr ⟨_, rfl, readNat_nat small.2⟩⟩

end Span

/-! ### Declarations -/

namespace Unsorted

structure Said (u : Unsorted) (members : List (String × Json)) : Prop where
  kind : Declaration.kindField.Means members u.kind
  file : Declaration.fileField.Means members u.file
  span : Declaration.spanField.Means members u.span
  name : Declaration.nameField.Means members u.name
  ancestors : Declaration.ancestorsField.Means members u.ancestors

variable {u : Unsorted} {members : List (String × Json)}

lemma said_iff : u.Said members ↔
    members.lookup "kind" = some (.str u.kind) ∧
    members.lookup "sourceFile" = some (.str u.file) ∧
    (∃ span, members.lookup "span" = some span ∧ u.span.Form span) ∧
    members.lookup "name" = some (.str u.name) ∧
    (members.lookup "ancestorNames" = some (.texts u.ancestors) ∨
      members.lookup "ancestorNames" = none ∧ u.ancestors = []) := by
  constructor
  · rintro ⟨hkind, hfile, hspan, hname, hancestors⟩
    obtain ⟨a, ha, hread⟩ := means_required_iff.mp hkind
    obtain rfl := readText_eq_ok_iff.mp hread
    obtain ⟨b, hb, hread⟩ := means_required_iff.mp hfile
    obtain rfl := readText_eq_ok_iff.mp hread
    obtain ⟨c, hc, hread⟩ := means_required_iff.mp hspan
    obtain ⟨d, hd, hread'⟩ := means_required_iff.mp hname
    obtain rfl := readText_eq_ok_iff.mp hread'
    refine ⟨ha, hb, ⟨c, hc, Span.read_eq_ok_iff.mp hread⟩, hd, ?_⟩
    rcases means_defaulting_iff.mp hancestors with ⟨e, he, hread⟩ | hnone
    · obtain rfl := readStrings_eq_ok_iff.mp hread
      exact Or.inl he
    · exact Or.inr hnone
  · rintro ⟨hkind, hfile, ⟨c, hspan, hform⟩, hname, hancestors⟩
    refine ⟨means_required_iff.mpr ⟨_, hkind, rfl⟩, means_required_iff.mpr ⟨_, hfile, rfl⟩,
      means_required_iff.mpr ⟨c, hspan, Span.read_eq_ok_iff.mpr hform⟩,
      means_required_iff.mpr ⟨_, hname, rfl⟩, means_defaulting_iff.mpr ?_⟩
    exact hancestors.imp (fun h => ⟨_, h, readStrings_texts u.ancestors⟩) id

end Unsorted

namespace Declaration

variable {v : Json} {kind : String} {make : DeclarationKind → Declaration}

lemma readWithKind_eq_ok_iff_said :
    readWithKind v = .ok (kind, make) ↔
      ∃ (members : List (String × Json)) (u : Unsorted), Lists slots v members ∧
        u.Said members ∧ kind = u.kind ∧ make = u.sort := by
  have hnames : (slots.map (·.name)).Nodup := by decide
  constructor
  · intro h
    obtain ⟨given, hgiven, h⟩ := exists_of_bind_ok h
    obtain ⟨kind', hkind, h⟩ := exists_of_bind_ok h
    obtain ⟨file, hfile, h⟩ := exists_of_bind_ok h
    obtain ⟨span, hspan, h⟩ := exists_of_bind_ok h
    obtain ⟨name, hname, h⟩ := exists_of_bind_ok h
    obtain ⟨ancestors, hancestors, h⟩ := exists_of_bind_ok h
    obtain ⟨rfl, rfl⟩ := Prod.mk.inj (Except.ok.inj h)
    obtain ⟨members, hlists, hpass, rfl⟩ := (readFields_eq_ok_iff hnames).mp hgiven
    refine ⟨members, ⟨kind', file, span, name, ancestors⟩, hlists, ?_, rfl, rfl⟩
    exact ⟨⟨hpass kindField.slot (by simp [slots]), hkind⟩,
      ⟨hpass fileField.slot (by simp [slots]), hfile⟩,
      ⟨hpass spanField.slot (by simp [slots]), hspan⟩,
      ⟨hpass nameField.slot (by simp [slots]), hname⟩,
      ⟨hpass ancestorsField.slot (by simp [slots]), hancestors⟩⟩
  · rintro ⟨members, u, hlists, said, rfl, rfl⟩
    have hpass : ∀ s ∈ slots, s.Passes members := by
      simp [slots, said.kind.1, said.file.1, said.span.1, said.name.1, said.ancestors.1]
    rw [readWithKind,
      bind_of_ok ((readFields_eq_ok_iff hnames).mpr ⟨members, hlists, hpass, rfl⟩),
      bind_of_ok said.kind.2, bind_of_ok said.file.2, bind_of_ok said.span.2,
      bind_of_ok said.name.2, bind_of_ok said.ancestors.2]
    rfl

lemma exists_of_lists_array {items : List Json} {members : List (String × Json)}
    (h : Lists slots (.arr items) members) :
    ∃ (kind file span name : Json) (ancestors : Option Json),
      items = [kind, file, span, name] ++ ancestors.toList ∧
      members = [("kind", kind), ("sourceFile", file), ("span", span), ("name", name)] ++
        (ancestors.map fun v => ("ancestorNames", v)).toList := by
  cases h with
  | array few enough =>
      rcases items with _ | ⟨kind, _ | ⟨file, _ | ⟨span, _ | ⟨name, _ | ⟨ancestors, _ | _⟩⟩⟩⟩⟩
      · exact absurd (enough kindField.slot (by simp [slots])) (by decide)
      · exact absurd (enough fileField.slot (by simp [slots])) (by decide)
      · exact absurd (enough spanField.slot (by simp [slots])) (by decide)
      · exact absurd (enough nameField.slot (by simp [slots])) (by decide)
      · exact ⟨kind, file, span, name, none, rfl, rfl⟩
      · exact ⟨kind, file, span, name, some ancestors, rfl, rfl⟩
      · exact absurd few (by simp [slots])

lemma exists_lists_iff {u : Unsorted} :
    (∃ members, Lists slots v members ∧ u.Said members) ↔ u.Form v := by
  constructor
  · rintro ⟨members, hlists, said⟩
    obtain ⟨hkind, hfile, ⟨c, hspan, hform⟩, hname, hancestors⟩ := Unsorted.said_iff.mp said
    cases v with
    | obj _ =>
        cases hlists
        exact .object hkind hfile hspan hform hname hancestors
    | arr items =>
        obtain ⟨kind, file, span, name, ancestors, rfl, rfl⟩ := exists_of_lists_array hlists
        obtain rfl := Option.some.inj hkind
        obtain rfl := Option.some.inj hfile
        obtain rfl := Option.some.inj hspan
        obtain rfl := Option.some.inj hname
        rcases ancestors with _ | ancestors <;> rcases hancestors with hsome | ⟨hnone, hempty⟩
        · cases hsome
        · exact .short hform hempty
        · obtain rfl := Option.some.inj hsome
          exact .array hform
        · cases hnone
    | _ => cases hlists
  · intro h
    cases h with
    | object hkind hfile hspan hform hname hancestors =>
        exact ⟨_, .object _,
          Unsorted.said_iff.mpr ⟨hkind, hfile, ⟨_, hspan, hform⟩, hname, hancestors⟩⟩
    | array hform =>
        exact ⟨_, .array (by simp [slots]) (by simp [slots]),
          Unsorted.said_iff.mpr ⟨rfl, rfl, ⟨_, rfl, hform⟩, rfl, Or.inl rfl⟩⟩
    | short hform hempty =>
        refine ⟨_, .array (by simp [slots]) (fun s hs => ?_),
          Unsorted.said_iff.mpr ⟨rfl, rfl, ⟨_, rfl, hform⟩, rfl, Or.inr ⟨rfl, hempty⟩⟩⟩
        obtain rfl := List.mem_singleton.mp hs
        rfl

lemma readWithKind_eq_ok_iff :
    readWithKind v = .ok (kind, make) ↔
      ∃ u : Unsorted, u.Form v ∧ kind = u.kind ∧ make = u.sort := by
  rw [readWithKind_eq_ok_iff_said]
  constructor
  · rintro ⟨members, u, hlists, said, hrest⟩
    exact ⟨u, exists_lists_iff.mp ⟨members, hlists, said⟩, hrest⟩
  · rintro ⟨u, hform, hrest⟩
    obtain ⟨members, hlists, said⟩ := exists_lists_iff.mpr hform
    exact ⟨members, u, hlists, said, hrest⟩

lemma ofJson_of_error {fault : DecodeError} (h : readWithKind v = .error fault) :
    ofJson v = .error (.invalidArgument (.malformed fault)) := by
  rw [ofJson, h]

lemma ofJson_of_named {k : DeclarationKind} (h : readWithKind v = .ok (kind, make))
    (hkind : DeclarationKind.ofText kind = .ok k) : ofJson v = .ok (make k) := by
  rw [ofJson, h]
  simp only [hkind]
  rfl

lemma ofJson_of_unnamed {f : Failure} (h : readWithKind v = .ok (kind, make))
    (hkind : DeclarationKind.ofText kind = .error f) : ofJson v = .error f := by
  rw [ofJson, h]
  simp only [hkind]
  rfl

variable {u : Unsorted}

lemma ofJson_of_words (h : u.Form v) {k : DeclarationKind} (hkind : u.kind ∈ k.words) :
    ofJson v = .ok (u.sort k) :=
  ofJson_of_named (readWithKind_eq_ok_iff.mpr ⟨u, h, rfl, rfl⟩)
    (DeclarationKind.ofText_eq_ok_iff.mpr hkind)

lemma ofJson_of_not_mem (h : u.Form v) (hkind : u.kind ∉ DeclarationKind.spellings) :
    ofJson v = .error (.invalidKind u.kind) :=
  ofJson_of_unnamed (readWithKind_eq_ok_iff.mpr ⟨u, h, rfl, rfl⟩)
    (DeclarationKind.ofText_eq_error_iff.mpr ⟨hkind, rfl⟩)

lemma ofJson_of_formless (h : ¬ ∃ u : Unsorted, u.Form v) :
    ∃ fault, ofJson v = .error (.invalidArgument fault) := by
  cases hread : readWithKind v with
  | error fault => exact ⟨_, ofJson_of_error hread⟩
  | ok r =>
      obtain ⟨kind, make⟩ := r
      obtain ⟨u, hform, -⟩ := readWithKind_eq_ok_iff.mp hread
      exact absurd ⟨u, hform⟩ h

/-- A value is a form with a kind that there is, a form with another kind, or no form. -/
lemma form_cases (v : Json) :
    (∃ (u : Unsorted) (k : DeclarationKind), u.Form v ∧ u.kind ∈ k.words) ∨
      (∃ u : Unsorted, u.Form v ∧ u.kind ∉ DeclarationKind.spellings) ∨
        ¬ ∃ u : Unsorted, u.Form v := by
  by_cases h : ∃ u : Unsorted, u.Form v
  · obtain ⟨u, hform⟩ := h
    cases hkind : DeclarationKind.ofText u.kind with
    | ok k => exact Or.inl ⟨u, k, hform, DeclarationKind.ofText_eq_ok_iff.mp hkind⟩
    | error f =>
        exact Or.inr (Or.inl ⟨u, hform, (DeclarationKind.ofText_eq_error_iff.mp hkind).1⟩)
  · exact Or.inr (Or.inr h)

lemma ofJson_eq_ok_iff {d : Declaration} :
    ofJson v = .ok d ↔ ∃ u : Unsorted, u.Form v ∧ u.kind ∈ d.kind.words ∧ d = u.sort d.kind := by
  constructor
  · intro h
    rcases form_cases v with ⟨u, k, hform, hkind⟩ | ⟨u, hform, hkind⟩ | hnone
    · obtain rfl := Except.ok.inj ((ofJson_of_words hform hkind).symm.trans h)
      exact ⟨u, hform, hkind, rfl⟩
    · cases (ofJson_of_not_mem hform hkind).symm.trans h
    · obtain ⟨fault, hfault⟩ := ofJson_of_formless hnone
      cases hfault.symm.trans h
  · rintro ⟨u, hform, hkind, hd⟩
    rw [hd]
    exact ofJson_of_words hform hkind

lemma ofJson_eq_invalidKind_iff {k : String} :
    ofJson v = .error (.invalidKind k) ↔
      ∃ u : Unsorted, u.Form v ∧ u.kind = k ∧ k ∉ DeclarationKind.spellings := by
  constructor
  · intro h
    rcases form_cases v with ⟨u, k', hform, hkind⟩ | ⟨u, hform, hkind⟩ | hnone
    · cases (ofJson_of_words hform hkind).symm.trans h
    · obtain ⟨⟩ := (ofJson_of_not_mem hform hkind).symm.trans h
      exact ⟨u, hform, rfl, hkind⟩
    · obtain ⟨fault, hfault⟩ := ofJson_of_formless hnone
      cases hfault.symm.trans h
  · rintro ⟨u, hform, rfl, hkind⟩
    exact ofJson_of_not_mem hform hkind

lemma ofJson_eq_invalidArgument_iff :
    (∃ fault, ofJson v = .error (.invalidArgument fault)) ↔ ¬ ∃ u : Unsorted, u.Form v := by
  constructor
  · rintro ⟨fault, h⟩ hform
    rcases form_cases v with ⟨u, k, hform, hkind⟩ | ⟨u, hform, hkind⟩ | hnone
    · cases (ofJson_of_words hform hkind).symm.trans h
    · cases (ofJson_of_not_mem hform hkind).symm.trans h
    · exact hnone hform
  · exact ofJson_of_formless

/-! ### Back and forth -/

lemma exists_toJson_iff {d : Declaration} :
    (∃ v, d.toJson = .ok v) ↔ Text.IsText d.file.bytes := by
  rw [← Path.exists_toString?_iff]
  constructor
  · rintro ⟨v, h⟩
    unfold toJson at h
    split at h
    · cases h
    · next file hfile => exact ⟨file, hfile⟩
  · rintro ⟨file, hfile⟩
    exact ⟨_, toJson_eq hfile⟩

lemma toJson_of_not_isText {d : Declaration} (h : ¬ Text.IsText d.file.bytes) :
    d.toJson = .error (.invalidArgument (.notEncodable d.file)) := by
  unfold toJson
  split
  · rfl
  · next file hfile => exact absurd (Path.exists_toString?_iff.mp ⟨file, hfile⟩) h

lemma ofJson_of_toJson {d : Declaration} (h : d.toJson = .ok v) (small : d.span.Small) :
    ofJson v = .ok d := by
  obtain ⟨file, hfile⟩ := Path.exists_toString?_iff.mpr (exists_toJson_iff.mp ⟨v, h⟩)
  obtain rfl := Except.ok.inj ((toJson_eq hfile).symm.trans h)
  exact ofJson_members hfile small

/-- **Back and forth**: a declaration has a JSON form just when its path is a text, and as long as
its offsets are small it is read from that. A value is read as a declaration just when it spells out
one with a kind that there is, and then the declaration has a JSON form from which it is read, too.
What spells out a declaration with any other kind is refused for its kind; any other value is
refused as an argument. -/
theorem read_back_and_forth :
    (∀ d : Declaration,
      ((∃ v, d.toJson = .ok v) ↔ Text.IsText d.file.bytes) ∧
      (¬ Text.IsText d.file.bytes → ∃ fault, d.toJson = .error (.invalidArgument fault)) ∧
      (d.span.Small → ∀ v, d.toJson = .ok v → ofJson v = .ok d)) ∧
    ∀ v : Json,
      (∀ d, ofJson v = .ok d ↔
        ∃ u : Unsorted, u.Form v ∧ u.kind ∈ d.kind.words ∧ d = u.sort d.kind) ∧
      (∀ d, ofJson v = .ok d → ∃ w, d.toJson = .ok w ∧ ofJson w = .ok d) ∧
      (∀ k, ofJson v = .error (.invalidKind k) ↔
        ∃ u : Unsorted, u.Form v ∧ u.kind = k ∧ k ∉ DeclarationKind.spellings) ∧
      ((∃ fault, ofJson v = .error (.invalidArgument fault)) ↔ ¬ ∃ u : Unsorted, u.Form v) := by
  refine ⟨fun d => ⟨exists_toJson_iff, fun h => ⟨_, toJson_of_not_isText h⟩,
    fun small v h => ofJson_of_toJson h small⟩, fun v => ⟨fun d => ofJson_eq_ok_iff, fun d h => ?_,
    fun k => ofJson_eq_invalidKind_iff, ofJson_eq_invalidArgument_iff⟩⟩
  obtain ⟨u, hform, -, hd⟩ := ofJson_eq_ok_iff.mp h
  have htext : Text.IsText d.file.bytes := by
    rw [hd]
    exact Path.isText_ofString u.file
  have small : d.span.Small := by
    rw [hd]
    exact hform.small
  obtain ⟨w, hw⟩ := exists_toJson_iff.mpr htext
  exact ⟨w, hw, ofJson_of_toJson hw small⟩

end Declaration

end TestScout
