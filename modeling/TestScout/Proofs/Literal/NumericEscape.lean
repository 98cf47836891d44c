import TestScout.Literal
import TestScout.Proofs.Text.HexDigit

/-!
Escapes that spell a character by its number: two digits, four, four and four, or any number of
digits in braces. What such an escape stands for is told from its digits and, for the first half of
a pair, from whether the other half follows.
-/

namespace TestScout.Literal

open Text

variable {cs rest : List Char} {ds high low : List HexDigit} {n : ℕ}

/-- A unit that is half of a pair. -/
def IsSurrogate (n : ℕ) : Prop := 0xD800 ≤ n ∧ n < 0xE000

instance (n : ℕ) : Decidable (IsSurrogate n) := inferInstanceAs (Decidable (_ ∧ _))

lemma isHighUnit_iff : isHighUnit n = true ↔ 0xD800 ≤ n ∧ n < 0xDC00 := by
  rw [isHighUnit, Bool.and_eq_true, decide_eq_true_eq, decide_eq_true_eq]

lemma isLowUnit_iff : isLowUnit n = true ↔ 0xDC00 ≤ n ∧ n < 0xE000 := by
  rw [isLowUnit, Bool.and_eq_true, decide_eq_true_eq, decide_eq_true_eq]

def coded (n : ℕ) (scalar : n.isValidChar) : Char := Char.ofNatAux n scalar

lemma ofNat_eq_coded (scalar : n.isValidChar) : Char.ofNat n = coded n scalar := dif_pos scalar

lemma charOf?_of_isValidChar (scalar : n.isValidChar) : charOf? n = some (coded n scalar) := by
  rw [charOf?, if_pos scalar, ofNat_eq_coded scalar]

lemma charOf?_of_isSurrogate (h : IsSurrogate n) : charOf? n = none := by
  refine if_neg ?_
  rintro (hsmall | hlarge)
  · exact absurd h.1 (by omega)
  · exact absurd h.2 (by omega)

lemma isValidChar_of_two (two : ds.length = 2) : (number ds).isValidChar := by
  have hlt := number_lt ds
  rw [two] at hlt
  unfold Nat.isValidChar
  omega

lemma isValidChar_of_four (four : ds.length = 4) (h : ¬ IsSurrogate (number ds)) :
    (number ds).isValidChar := by
  have hlt := number_lt ds
  rw [four] at hlt
  unfold IsSurrogate at h
  unfold Nat.isValidChar
  omega

lemma isValidChar_pairValue {high low : ℕ} (begins : isHighUnit high = true)
    (ends : isLowUnit low = true) : (pairValue high low).isValidChar := by
  rw [isHighUnit_iff] at begins
  rw [isLowUnit_iff] at ends
  unfold pairValue Nat.isValidChar
  omega

lemma hexFront?_digits (h : ds.length = n) :
    hexFront? n (ds.map HexDigit.char ++ rest) = some (number ds) :=
  hexFront?_eq_some_iff.mpr ⟨ds, rest, h, rfl, rfl⟩

lemma byte?_digits (two : ds.length = 2) :
    byte? (ds.map HexDigit.char ++ rest) = some (coded (number ds) (isValidChar_of_two two)) := by
  rw [byte?, hexFront?_digits two, Option.map_some, ofNat_eq_coded (isValidChar_of_two two)]

theorem lowEscape?_eq_some_iff :
    lowEscape? cs = some n ↔ ∃ (low : List HexDigit) (rest : List Char),
      cs = '\\' :: 'u' :: (low.map HexDigit.char ++ rest) ∧ low.length = 4 ∧
        number low = n ∧ isLowUnit n = true := by
  unfold lowEscape?
  split
  · next rest =>
    rw [Option.filter_eq_some_iff, hexFront?_eq_some_iff]
    constructor
    · rintro ⟨⟨low, more, four, rfl, hn⟩, hlow⟩
      exact ⟨low, more, rfl, four, hn, hlow⟩
    · rintro ⟨low, more, heq, four, hn, hlow⟩
      injection heq with _ heq
      injection heq with _ heq
      exact ⟨⟨low, more, four, heq, hn⟩, hlow⟩
  · next hnot =>
    constructor
    · rintro ⟨⟩
    · rintro ⟨low, more, rfl, -⟩
      exact absurd rfl (hnot _)

theorem lowEscape?_eq_none_iff :
    lowEscape? cs = none ↔ ∀ low : List HexDigit, low.length = 4 → isLowUnit (number low) = true →
      ¬ '\\' :: 'u' :: low.map HexDigit.char <+: cs := by
  rw [Option.eq_none_iff_forall_ne_some]
  constructor
  · rintro h low four ends ⟨rest, rfl⟩
    exact h (number low) (lowEscape?_eq_some_iff.mpr ⟨low, rest, rfl, four, rfl, ends⟩)
  · intro h n hn
    obtain ⟨low, rest, rfl, four, rfl, ends⟩ := lowEscape?_eq_some_iff.mp hn
    exact h low four ends ⟨rest, rfl⟩

lemma fourDigits?_single (four : ds.length = 4) (h : isHighUnit (number ds) = false) :
    fourDigits? (ds.map HexDigit.char ++ rest) =
      some ((charOf? (number ds)).getD '\uFFFD', 4) := by
  unfold fourDigits?
  rw [hexFront?_digits four, Option.bind_eq_bind, Option.bind_some, h,
    if_neg Bool.false_ne_true]
  rfl

lemma fourDigits?_high (four : ds.length = 4) (h : isHighUnit (number ds) = true) :
    fourDigits? (ds.map HexDigit.char ++ rest) =
      match lowEscape? rest with
      | some low => some (Char.ofNat (pairValue (number ds) low), 10)
      | none => some ('\uFFFD', 4) := by
  have hdrop : (ds.map HexDigit.char ++ rest).drop 4 = rest :=
    List.drop_left' (by rw [List.length_map, four])
  unfold fourDigits?
  rw [hdrop, hexFront?_digits four, Option.bind_eq_bind, Option.bind_some, if_pos h]
  rfl

lemma unicode?_digits (four : ds.length = 4) :
    unicode? (ds.map HexDigit.char ++ rest) = fourDigits? (ds.map HexDigit.char ++ rest) := by
  obtain ⟨d, ds, rfl⟩ := List.exists_cons_of_length_eq_add_one four
  rw [List.map_cons, List.cons_append]
  have hbrace : d.char ≠ '\x7b' := char_ne (by decide)
  unfold unicode?
  split
  · next heq => exact absurd (List.cons.inj heq).1 hbrace
  · rfl

lemma unicode?_unit (four : ds.length = 4) (single : ¬ IsSurrogate (number ds)) :
    unicode? (ds.map HexDigit.char ++ rest) =
      some (coded (number ds) (isValidChar_of_four four single), 4) := by
  have hhigh : isHighUnit (number ds) = false := by
    rw [Bool.eq_false_iff, ne_eq, isHighUnit_iff]
    unfold IsSurrogate at single
    omega
  rw [unicode?_digits four, fourDigits?_single four hhigh,
    charOf?_of_isValidChar (isValidChar_of_four four single)]
  rfl

lemma unicode?_pair (fourHigh : high.length = 4) (fourLow : low.length = 4)
    (begins : isHighUnit (number high) = true) (ends : isLowUnit (number low) = true) :
    unicode? (high.map HexDigit.char ++ '\\' :: 'u' :: (low.map HexDigit.char ++ rest)) =
      some (coded (pairValue (number high) (number low)) (isValidChar_pairValue begins ends),
        10) := by
  have hlow : lowEscape? ('\\' :: 'u' :: (low.map HexDigit.char ++ rest)) = some (number low) :=
    lowEscape?_eq_some_iff.mpr ⟨low, rest, rfl, fourLow, rfl, ends⟩
  rw [unicode?_digits fourHigh, fourDigits?_high fourHigh begins, hlow,
    ← ofNat_eq_coded]

/-- Half of a pair stays alone where the other half does not follow. -/
lemma unicode?_half (four : ds.length = 4) (half : IsSurrogate (number ds))
    (alone : isHighUnit (number ds) = true → ∀ low : List HexDigit, low.length = 4 →
      isLowUnit (number low) = true → ¬ '\\' :: 'u' :: low.map HexDigit.char <+: rest) :
    unicode? (ds.map HexDigit.char ++ rest) = some ('\uFFFD', 4) := by
  rw [unicode?_digits four]
  cases hhigh : isHighUnit (number ds) with
  | false =>
      rw [fourDigits?_single four hhigh, charOf?_of_isSurrogate half]
      rfl
  | true =>
      rw [fourDigits?_high four hhigh, lowEscape?_eq_none_iff.mpr (alone hhigh)]

lemma braced?_digits (nonempty : ds ≠ []) (scalar : (number ds).isValidChar) :
    braced? (ds.map HexDigit.char ++ '\x7d' :: rest) =
      some (coded (number ds) scalar, ds.length + 2) := by
  have hall : ∀ c ∈ ds.map HexDigit.char, (hexValue? c).isSome = true := by
    intro c hc
    obtain ⟨d, -, rfl⟩ := List.mem_map.mp hc
    rw [hexValue?_char]
    rfl
  have hclose : (hexValue? '\x7d').isSome = false := by decide
  have hdigits : (ds.map HexDigit.char ++ '\x7d' :: rest).takeWhile
      (fun c => (hexValue? c).isSome) = ds.map HexDigit.char := by
    rw [List.takeWhile_append_of_pos hall, List.takeWhile_cons, hclose, if_neg Bool.false_ne_true,
      List.append_nil]
  have hnumber : hexNumber? (ds.map HexDigit.char) = some (number ds) :=
    hexNumber?_eq_some_iff.mpr ⟨ds, rfl, rfl⟩
  rw [braced?]
  simp [hdigits, hnumber, nonempty, charOf?_of_isValidChar scalar]

end TestScout.Literal
