import TestScout.Proofs.Literal.WholeEscape
import TestScout.Proofs.Text.Boundary

/-!
Cooking makes a body shorter. An escape stands for one character at most, and that takes no more
bytes than the escape has after its backslash. So a body that has an escape, which is a backslash
with something after it, is shortened by each of its escapes, and one that has none stays as it is.
-/

namespace TestScout.Literal

open Text

variable {cs : List Char} {c : Char} {n : ℕ}

/-! ### One escape -/

lemma le_byteCount_take (h : n ≤ cs.length) : n ≤ byteCount (cs.take n) := by
  have hle := length_le_byteCount (cs.take n)
  rwa [List.length_take, Nat.min_eq_left h] at hle

lemma toNat_coded (scalar : n.isValidChar) : (coded n scalar).toNat = n := rfl

lemma utf8Size_le_three (h : c.toNat < 0x10000) : c.utf8Size ≤ 3 := by
  have hle : c.toNat ≤ 0xFFFF := by omega
  unfold Char.utf8Size
  dsimp only
  split_ifs with h1 h2 h3
  · decide
  · decide
  · decide
  · rw [UInt32.le_iff_toNat_le] at h3
    exact absurd hle h3

/-- One character at most is written for some others, and no more bytes than they take. -/
structure Charged (written value : List Char) : Prop where
  length : value.length ≤ 1
  bytes : byteCount value ≤ byteCount written

lemma Charged.nil (written : List Char) : Charged written [] := ⟨Nat.zero_le _, Nat.zero_le _⟩

lemma Charged.singleton {written : List Char} (h : c.utf8Size ≤ byteCount written) :
    Charged written [c] := ⟨Nat.le_refl _, h⟩

lemma Charged.letter {letter : Char} (written : List Char) (h : c.utf8Size ≤ letter.utf8Size) :
    Charged (letter :: written) [c] :=
  .singleton (h.trans (Nat.le_add_right _ _))

lemma charged_byte? (h : byte? cs = some c) : Charged ('x' :: cs.take 2) [c] := by
  obtain ⟨ds, rest, two, rfl, rfl⟩ := byte?_eq_some_iff.mp h
  have hlt := number_lt ds
  rw [two] at hlt
  have hsize := utf8Size_le_three (c := coded (number ds) (isValidChar_of_two two))
    (by rw [toNat_coded]; omega)
  have htake : 2 ≤ byteCount ((ds.map HexDigit.char ++ rest).take 2) :=
    le_byteCount_take (by simp [two])
  have hletter := Char.utf8Size_pos 'x'
  refine .singleton ?_
  rw [byteCount]
  omega

/-- No character takes more than four bytes, and no escape has less than three characters. -/
lemma charged_unicode? (h : unicode? cs = some (c, n)) : Charged ('u' :: cs.take n) [c] := by
  obtain ⟨hthree, hn⟩ := unicode?_bounds h
  have hfour := c.utf8Size_le_four
  have htake := le_byteCount_take hn
  have hletter := Char.utf8Size_pos 'u'
  refine .singleton ?_
  rw [byteCount]
  omega

lemma charged_escape (c : Char) (cs : List Char) :
    Charged (c :: cs.take (escape c cs).2) (escape c cs).1 := by
  unfold escape
  split
  -- the zero
  case h_7 => split <;> exact .letter _ (by decide)
  -- the ends of lines
  case h_8 | h_9 | h_10 | h_11 => exact .nil _
  case h_12 =>
    cases hbyte : byte? cs with
    | none => exact .letter _ (by decide)
    | some v => exact charged_byte? hbyte
  case h_13 =>
    cases hunicode : unicode? cs with
    | none => exact .letter _ (by decide)
    | some v => exact charged_unicode? hunicode
  -- a character that stands for itself
  case h_14 => exact .letter _ (Nat.le_refl _)
  all_goals exact .letter _ (by decide)

/-! ### A whole body -/

structure Shorter (a b : List Char) : Prop where
  length : a.length < b.length
  bytes : byteCount a < byteCount b

/-- A body stays as it is, or it has an escape and gets shorter. -/
def Shortened (cs : List Char) : Prop :=
  '\\' ∈ cs.dropLast ∧ Shorter (cookChars cs) cs ∨ '\\' ∉ cs.dropLast ∧ cookChars cs = cs

lemma Shortened.length_le (h : Shortened cs) : (cookChars cs).length ≤ cs.length := by
  obtain ⟨-, hshorter⟩ | ⟨-, heq⟩ := h
  · exact hshorter.length.le
  · rw [heq]

lemma Shortened.byteCount_le (h : Shortened cs) : byteCount (cookChars cs) ≤ byteCount cs := by
  obtain ⟨-, hshorter⟩ | ⟨-, heq⟩ := h
  · exact hshorter.bytes.le
  · rw [heq]

lemma Shortened.shorter (h : Shortened cs) (hescape : '\\' ∈ cs.dropLast) :
    Shorter (cookChars cs) cs :=
  (h.resolve_right fun hplain => hplain.1 hescape).2

lemma Shortened.eq_self_iff (h : Shortened cs) : cookChars cs = cs ↔ '\\' ∉ cs.dropLast := by
  constructor
  · intro hcook hescape
    exact absurd (congrArg List.length hcook) (h.shorter hescape).length.ne
  · intro hplain
    exact (h.resolve_left fun hshorter => hplain hshorter.1).2

lemma shortened_escape (h : Shortened (cs.drop (escape c cs).2)) : Shortened ('\\' :: c :: cs) := by
  obtain ⟨hlength, hbytes⟩ := charged_escape c cs
  have hescape : '\\' ∈ ('\\' :: c :: cs).dropLast := List.mem_cons_self
  have hrest := h.length_le
  have hrestBytes := h.byteCount_le
  have hsplit := byteCount_append (cs.take (escape c cs).2) (cs.drop (escape c cs).2)
  rw [List.take_append_drop] at hsplit
  rw [List.length_drop] at hrest
  rw [byteCount] at hbytes
  refine .inl ⟨hescape, ?length, ?bytes⟩
  case length =>
    rw [cookChars_escape, List.length_append, List.length_cons, List.length_cons]
    omega
  case bytes =>
    have hbackslash := Char.utf8Size_pos '\\'
    rw [cookChars_escape, byteCount_append, byteCount, byteCount]
    omega

lemma shortened_raw (hc : c ≠ '\\') (h : Shortened cs) : Shortened (c :: cs) := by
  have hmem : '\\' ∈ (c :: cs).dropLast ↔ '\\' ∈ cs.dropLast := by
    cases cs with
    | nil => exact Iff.rfl
    | cons d cs => rw [List.dropLast_cons_cons, List.mem_cons, or_iff_right hc.symm]
  unfold Shortened
  rw [hmem, cookChars_raw hc]
  obtain ⟨hescape, hlength, hbytes⟩ | ⟨hplain, heq⟩ := h
  · exact .inl ⟨hescape, Nat.succ_lt_succ hlength, Nat.add_lt_add_left hbytes _⟩
  · exact .inr ⟨hplain, by rw [heq]⟩

theorem shortened (cs : List Char) : Shortened cs := by
  induction cs using cookChars.induct with
  | case1 => exact .inr ⟨List.not_mem_nil, by rw [cookChars]⟩
  | case2 => exact .inr ⟨List.not_mem_nil, by rw [cookChars]⟩
  | case3 c cs ih => exact shortened_escape ih
  | case4 c cs hlast hescape ih =>
      refine shortened_raw ?_ ih
      rintro rfl
      cases cs with
      | nil => exact hlast rfl rfl
      | cons d cs => exact hescape d cs rfl rfl

/-- **Cooking shortens**: a body stands for no more characters than it is written with, and no more
bytes. It stands for itself just where no backslash has anything after it, and where one has, the
body is strictly longer than what it stands for in both measures. -/
theorem cook_shortens (raw : String) :
    (cook raw).length ≤ raw.length ∧ (cook raw).utf8ByteSize ≤ raw.utf8ByteSize ∧
      (cook raw = raw ↔ '\\' ∉ raw.toList.dropLast) ∧
      ('\\' ∈ raw.toList.dropLast →
        (cook raw).length < raw.length ∧ (cook raw).utf8ByteSize < raw.utf8ByteSize) := by
  have h := shortened raw.toList
  have hself : cook raw = raw ↔ cookChars raw.toList = raw.toList := by
    rw [cook, ← String.toList_inj, String.toList_ofList]
  have hlength : (cook raw).length = (cookChars raw.toList).length := String.length_ofList
  have hbytes : (cook raw).utf8ByteSize = byteCount (cookChars raw.toList) := utf8ByteSize_ofList _
  rw [hself, hlength, hbytes, ← String.length_toList, ← byteCount_toList]
  refine ⟨h.length_le, h.byteCount_le, h.eq_self_iff, fun hescape => ?_⟩
  exact ⟨(h.shorter hescape).length, (h.shorter hescape).bytes⟩

end TestScout.Literal
