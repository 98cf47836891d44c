import Mathlib.Order.Bounds.Basic
import Mathlib.Tactic.Lemma
import TestScout.Position

/-!
Where a text can be cut. The offsets at which a text can be cut are the byte counts of its
beginnings; the characters that fit into some bytes are the longest beginning that does, and end
at the last place before which the text can be cut.
-/

namespace TestScout

namespace Text

lemma byteCount_append (a b : List Char) : byteCount (a ++ b) = byteCount a + byteCount b := by
  induction a with
  | nil => exact (Nat.zero_add _).symm
  | cons c a ih => rw [List.cons_append, byteCount, byteCount, ih, Nat.add_assoc]

lemma byteCount_reverse (cs : List Char) : byteCount cs.reverse = byteCount cs := by
  induction cs with
  | nil => rfl
  | cons c cs ih =>
      rw [List.reverse_cons, byteCount_append, ih, byteCount, byteCount, byteCount, Nat.add_zero,
        Nat.add_comm]

lemma byteCount_le_of_prefix {a b : List Char} (h : a <+: b) : byteCount a ≤ byteCount b := by
  obtain ⟨rest, rfl⟩ := h
  rw [byteCount_append]
  exact Nat.le_add_right _ _

lemma length_le_byteCount (cs : List Char) : cs.length ≤ byteCount cs := by
  induction cs with
  | nil => exact Nat.le_refl _
  | cons c cs ih =>
      have hpos := c.utf8Size_pos
      rw [List.length_cons, byteCount]
      omega

lemma utf8ByteSize_ofList (cs : List Char) : (String.ofList cs).utf8ByteSize = byteCount cs := by
  induction cs with
  | nil => rfl
  | cons c cs ih =>
      rw [String.ofList_cons, String.utf8ByteSize_append, String.utf8ByteSize_singleton, ih,
        byteCount]

lemma byteCount_toList (text : String) : byteCount text.toList = text.utf8ByteSize := by
  rw [← utf8ByteSize_ofList, String.ofList_toList]

/-- The text can be cut at an offset: between two characters, or at an end. -/
def Boundary (text : String) (offset : Nat) : Prop := (⟨offset⟩ : String.Pos.Raw).IsValid text

instance (text : String) (offset : Nat) : Decidable (Boundary text offset) :=
  decidable_of_iff ((⟨offset⟩ : String.Pos.Raw).isValid text = true)
    String.Pos.Raw.isValid_eq_true_iff

variable {text : String} {offset : Nat}

lemma boundary_iff :
    Boundary text offset ↔ ∃ front, front <+: text.toList ∧ byteCount front = offset := by
  unfold Boundary
  rw [String.Pos.Raw.isValid_iff_exists_append]
  constructor
  · rintro ⟨front, rest, rfl, hoffset⟩
    rw [String.toList_append]
    refine ⟨front.toList, List.prefix_append _ _, ?_⟩
    rw [byteCount_toList]
    exact (congrArg String.Pos.Raw.byteIdx hoffset).symm
  · rintro ⟨front, ⟨rest, hrest⟩, rfl⟩
    refine ⟨.ofList front, .ofList rest, ?_, ?_⟩
    · rw [← String.ofList_append, hrest, String.ofList_toList]
    · exact String.Pos.Raw.ext (utf8ByteSize_ofList front).symm

lemma Boundary.le_size (h : Boundary text offset) : offset ≤ text.utf8ByteSize := by
  obtain ⟨front, hfront, rfl⟩ := boundary_iff.mp h
  exact byteCount_toList text ▸ byteCount_le_of_prefix hfront

lemma exists_pos_of_boundary (h : Boundary text offset) :
    ∃ p, text.pos? ⟨offset⟩ = some p ∧ p.offset.byteIdx = offset := by
  unfold Boundary at h
  refine ⟨text.pos ⟨offset⟩ h, ?_, rfl⟩
  unfold String.pos? String.Slice.pos?
  rw [dif_pos (String.Pos.Raw.isValidForSlice_eq_true_iff.mpr h.toSlice)]
  rfl

lemma text?_of_toList {front part rest : List Char} (h : text.toList = front ++ part ++ rest) :
    Span.text? ⟨byteCount front, byteCount (front ++ part)⟩ text = some (String.ofList part) := by
  have hfirst : Boundary text (byteCount front) :=
    boundary_iff.mpr ⟨front, ⟨part ++ rest, by rw [h, List.append_assoc]⟩, rfl⟩
  have hlast : Boundary text (byteCount (front ++ part)) :=
    boundary_iff.mpr ⟨front ++ part, ⟨rest, h.symm⟩, rfl⟩
  obtain ⟨a, ha, hstart⟩ := exists_pos_of_boundary hfirst
  obtain ⟨b, hb, hstop⟩ := exists_pos_of_boundary hlast
  have hbytes : text.toByteArray = (String.ofList front).toByteArray ++
      ((String.ofList part).toByteArray ++ (String.ofList rest).toByteArray) := by
    rw [← @String.ofList_toList text, h]
    simp only [String.ofList_append, String.toByteArray_append, ByteArray.append_assoc]
  have hfront : byteCount front = (String.ofList front).toByteArray.size + 0 := by
    rw [Nat.add_zero, String.size_toByteArray, utf8ByteSize_ofList]
  have hpart : byteCount (front ++ part) =
      (String.ofList front).toByteArray.size + (String.ofList part).toByteArray.size := by
    rw [byteCount_append, String.size_toByteArray, String.size_toByteArray, utf8ByteSize_ofList,
      utf8ByteSize_ofList]
  unfold Span.text?
  rw [ha, hb]
  refine congrArg some (String.toByteArray_inj.mp ?_)
  rw [String.toByteArray_extract, hstart, hstop, hbytes, hfront, hpart,
    ByteArray.extract_append_size_add, ByteArray.extract_append_eq_left rfl]

end Text

namespace LineTable

open Text

/-! ### The characters that fit -/

lemma fitting_prefix_self (n : Nat) (cs : List Char) : fitting n cs <+: cs := by
  induction cs generalizing n with
  | nil => exact List.prefix_rfl
  | cons c cs ih =>
      rw [fitting]
      split
      · exact List.cons_prefix_cons.mpr ⟨rfl, ih _⟩
      · exact List.nil_prefix

lemma not_mem_fitting {c : Char} {cs : List Char} (h : c ∉ cs) (n : Nat) : c ∉ fitting n cs :=
  fun hc => h ((fitting_prefix_self n cs).subset hc)

lemma byteCount_fitting_le (n : Nat) (cs : List Char) : byteCount (fitting n cs) ≤ n := by
  induction cs generalizing n with
  | nil => exact Nat.zero_le n
  | cons c cs ih =>
      rw [fitting]
      split
      · have hrest := ih (n - c.utf8Size)
        rw [byteCount]
        omega
      · exact Nat.zero_le n

lemma fitting_append_of_le {n : Nat} {front : List Char} (h : byteCount front ≤ n)
    (rest : List Char) :
    fitting n (front ++ rest) = front ++ fitting (n - byteCount front) rest := by
  induction front generalizing n with
  | nil => rfl
  | cons c front ih =>
      rw [byteCount] at h
      rw [List.cons_append, fitting, if_pos (by omega), ih (by omega), byteCount,
        Nat.sub_add_eq, List.cons_append]

lemma fitting_append_cons (front : List Char) (c : Char) (m : Nat) (rest : List Char) :
    fitting (byteCount front + c.utf8Size + m) (front ++ c :: rest) =
      front ++ c :: fitting m rest := by
  have hrest : byteCount front + c.utf8Size + m - byteCount front = c.utf8Size + m := by omega
  rw [fitting_append_of_le (by omega), hrest, fitting, if_pos (Nat.le_add_right _ _),
    Nat.add_sub_cancel_left]

lemma fitting_zero (cs : List Char) : fitting 0 cs = [] := by
  cases cs with
  | nil => rfl
  | cons c cs => exact if_neg (Nat.not_le.mpr c.utf8Size_pos)

lemma fitting_append_of_ge {n : Nat} {front : List Char} (h : n ≤ byteCount front)
    (rest : List Char) : fitting n (front ++ rest) = fitting n front := by
  induction front generalizing n with
  | nil =>
      obtain rfl := Nat.le_zero.mp h
      rw [fitting_zero, fitting_zero]
  | cons c front ih =>
      rw [byteCount] at h
      rw [List.cons_append, fitting, fitting]
      split
      · rw [ih (by omega)]
      · rfl

lemma prefix_fitting {n : Nat} {front cs : List Char} (hfront : front <+: cs)
    (h : byteCount front ≤ n) : front <+: fitting n cs := by
  obtain ⟨rest, rfl⟩ := hfront
  rw [fitting_append_of_le h]
  exact List.prefix_append _ _

lemma fitting_of_prefix {front cs : List Char} (h : front <+: cs) :
    fitting (byteCount front) cs = front := by
  obtain ⟨rest, rfl⟩ := h
  rw [fitting_append_of_le le_rfl, Nat.sub_self, fitting_zero, List.append_nil]

lemma fitting_prefix_fitting {n m : Nat} (h : n ≤ m) (cs : List Char) :
    fitting n cs <+: fitting m cs :=
  prefix_fitting (fitting_prefix_self n cs) ((byteCount_fitting_le n cs).trans h)

/-- What fits ends at the last place, up to an offset, at which the text can be cut. -/
lemma isGreatest_fitting (text : String) (offset : Nat) :
    IsGreatest {b | Boundary text b ∧ b ≤ min offset text.utf8ByteSize}
      (byteCount (fitting offset text.toList)) := by
  have hboundary : Boundary text (byteCount (fitting offset text.toList)) :=
    boundary_iff.mpr ⟨_, fitting_prefix_self offset text.toList, rfl⟩
  refine ⟨⟨hboundary, le_min (byteCount_fitting_le _ _) hboundary.le_size⟩, ?_⟩
  rintro b ⟨hb, hle⟩
  obtain ⟨front, hfront, rfl⟩ := boundary_iff.mp hb
  exact byteCount_le_of_prefix (prefix_fitting hfront (hle.trans (min_le_left _ _)))

end LineTable

end TestScout
