import TestScout.Declaration
import TestScout.Proofs.Json.Record
import TestScout.Proofs.Path.Text

/-!
A declaration through JSON and back. What an editor is given for a declaration is read as the same
declaration, as long as its path is a text and its offsets are as small as those of any text held
in memory.
-/

namespace TestScout

open Json

namespace Span

/-- The offsets of a stretch are as small as those of texts in memory. -/
def Small (s : Span) : Prop := s.start < 0x10000000000000000 ∧ s.stop < 0x10000000000000000

lemma read_toJson {s : Span} (h : s.Small) : Span.read s.toJson = .ok s := by
  have hstart : startField.Gives [("start", .nat s.start), ("end", .nat s.stop)] s.start :=
    gives_required rfl (readNat_nat h.1)
  have hstop : stopField.Gives [("start", .nat s.start), ("end", .nat s.stop)] s.stop :=
    gives_required rfl (readNat_nat h.2)
  unfold read toJson
  rw [bind_of_ok (readFields_obj (by simp [hstart.passes, hstop.passes])), bind_of_ok hstart.of,
    bind_of_ok hstop.of]
  rfl

end Span

namespace Declaration

def members (d : Declaration) (file : String) : List (String × Json) :=
  [("kind", .str d.kind.name), ("sourceFile", .str file), ("span", d.span.toJson),
    ("name", .str d.name), ("ancestorNames", .texts d.ancestors)]

lemma toJson_eq {d : Declaration} {file : String} (h : d.file.toString? = some file) :
    d.toJson = .ok (.obj (d.members file)) := by
  rw [toJson, h]
  rfl

/-- A declaration is read from an object that gives its fields; the names around it may be left
out. -/
lemma readWithKind_obj {members : List (String × Json)} {kind file name : String} {span : Span}
    {ancestors : List String} (hkind : kindField.Gives members kind)
    (hfile : fileField.Gives members file) (hspan : spanField.Gives members span)
    (hname : nameField.Gives members name) (hancestors : ancestorsField.Means members ancestors) :
    readWithKind (.obj members) =
      .ok (kind, fun k => ⟨k, .ofString file, span, name, ancestors⟩) := by
  have hpass : ∀ s ∈ slots, s.Passes members := by
    simp [slots, hkind.passes, hfile.passes, hspan.passes, hname.passes, hancestors.1]
  rw [readWithKind, bind_of_ok (readFields_obj hpass), bind_of_ok hkind.of, bind_of_ok hfile.of,
    bind_of_ok hspan.of, bind_of_ok hname.of, bind_of_ok hancestors.2]
  rfl

lemma readWithKind_members {d : Declaration} {file : String} (h : d.span.Small) :
    readWithKind (.obj (d.members file)) =
      .ok (d.kind.name, fun k => ⟨k, .ofString file, d.span, d.name, d.ancestors⟩) :=
  readWithKind_obj (gives_required rfl rfl) (gives_required rfl rfl)
    (gives_required rfl (Span.read_toJson h)) (gives_required rfl rfl)
    (means_defaulting rfl (readStrings_texts d.ancestors))

lemma isText_of_readWithKind {v : Json} {kind : String} {make : DeclarationKind → Declaration}
    (h : readWithKind v = .ok (kind, make)) (k : DeclarationKind) :
    Text.IsText (make k).file.bytes := by
  obtain ⟨given, -, h⟩ := exists_of_bind_ok h
  obtain ⟨kind', -, h⟩ := exists_of_bind_ok h
  obtain ⟨file, -, h⟩ := exists_of_bind_ok h
  obtain ⟨span, -, h⟩ := exists_of_bind_ok h
  obtain ⟨name, -, h⟩ := exists_of_bind_ok h
  obtain ⟨ancestors, -, h⟩ := exists_of_bind_ok h
  cases h
  exact Path.isText_ofString file

/-- **Round trip**: a declaration with a path that is a text is read back from its JSON form. -/
theorem ofJson_members {d : Declaration} {file : String} (hfile : d.file.toString? = some file)
    (hspan : d.span.Small) : ofJson (.obj (d.members file)) = .ok d := by
  rw [ofJson, readWithKind_members hspan]
  simp only [DeclarationKind.ofText_name, Except.map, Path.ofString_of_toString? hfile]

end Declaration

end TestScout
