import Mathlib.Data.Nat.Digits.Lemmas
import TestScout.Text.Numeral

/-!
Numbers written in base ten. A text is read as a number just when it consists of digits, at least
one and with a plus sign before them or not, and the number that the digits spell fits into
sixty-four bits, however many zeros come first.
-/

namespace TestScout.Text

/-- A text spells a number: it is digits of that value, with a plus sign before them or not. -/
def Spells (text : String) (n : ℕ) : Prop :=
  ∃ ds : List Char, ds ≠ [] ∧ (∀ d ∈ ds, d.isDigit = true) ∧
    (text.toList = ds ∨ text.toList = '+' :: ds) ∧
    n = Nat.ofDigits 10 (ds.reverse.map fun d => d.toNat - '0'.toNat)

variable {ds : List Char} {text : String} {n : ℕ}

lemma decimalValue_append_singleton (ds : List Char) (d : Char) :
    decimalValue (ds ++ [d]) = decimalValue ds * 10 + (d.toNat - '0'.toNat) := by
  rw [decimalValue, List.foldl_append]
  rfl

lemma decimalValue_eq (ds : List Char) :
    decimalValue ds = Nat.ofDigits 10 (ds.reverse.map fun d => d.toNat - '0'.toNat) := by
  induction ds using List.reverseRecOn with
  | nil => rfl
  | append_singleton ds d ih =>
      rw [decimalValue_append_singleton, List.reverse_append, List.reverse_singleton,
        List.singleton_append, List.map_cons, Nat.ofDigits_cons, ih, Nat.add_comm, Nat.mul_comm]

/-! ### Digits as they are written -/

lemma isDigit_toDigits : ∀ c ∈ Nat.toDigits 10 n, isDigit c = true :=
  fun _ h => Nat.isDigit_of_mem_toDigits (by decide) (by decide) h

lemma head?_toDigits_ne_zero (h : 0 < n) : (Nat.toDigits 10 n).head? ≠ some '0' := by
  induction n using Nat.strongRecOn with
  | ind n ih =>
      rcases Nat.lt_or_ge n 10 with hn | hn
      · rw [Nat.toDigits_of_lt_base hn]
        have : ∀ d < 10, 0 < d → [d.digitChar].head? ≠ some '0' := by decide
        exact this n hn h
      · obtain ⟨d, ds, hds⟩ := List.exists_cons_of_ne_nil (@Nat.toDigits_ne_nil (n / 10) 10)
        have hfirst := ih (n / 10) (by omega) (by omega)
        rw [hds] at hfirst
        rw [Nat.toDigits_of_base_le (by decide) hn, hds]
        exact hfirst

lemma decimalValue_toDigits (n : ℕ) : decimalValue (Nat.toDigits 10 n) = n := by
  have hvalue : decimalValue = fun ds => Nat.ofDigitChars 10 ds 0 := by
    unfold decimalValue Nat.ofDigitChars
    simp only [Nat.mul_comm]
  rw [hvalue]
  exact Nat.ofDigitChars_ten_toDigits

/-! ### Texts that spell a number -/

def unsigned (text : String) : List Char :=
  match text.toList with
  | '+' :: rest => rest
  | cs => cs

lemma unsigned_eq_iff (hne : ds ≠ []) (hds : ∀ d ∈ ds, d.isDigit = true) :
    unsigned text = ds ↔ text.toList = ds ∨ text.toList = '+' :: ds := by
  unfold unsigned
  split
  · next rest htext =>
    have hplus : '+' :: rest ≠ ds := by
      rintro rfl
      exact absurd (hds '+' List.mem_cons_self) (by decide)
    simp [htext, hplus]
  · next hplus =>
    have hnot : text.toList ≠ '+' :: ds := fun h => hplus ds h
    simp [hnot]

lemma word?_eq_some_iff_unsigned :
    word? text = some n ↔ (unsigned text ≠ [] ∧ ∀ d ∈ unsigned text, d.isDigit = true) ∧
      decimalValue (unsigned text) = n ∧ n < 2 ^ 64 := by
  have hword : word? text =
      if !(unsigned text).isEmpty && (unsigned text).all Char.isDigit &&
          decimalValue (unsigned text) < 2 ^ 64 then some (decimalValue (unsigned text))
      else none := rfl
  rw [hword, Option.ite_none_right_eq_some]
  simp only [Bool.and_eq_true, Bool.not_eq_true', List.isEmpty_eq_false_iff, List.all_eq_true,
    decide_eq_true_eq, Option.some_inj]
  constructor
  · rintro ⟨⟨hdigits, hlt⟩, rfl⟩
    exact ⟨hdigits, rfl, hlt⟩
  · rintro ⟨hdigits, rfl, hlt⟩
    exact ⟨⟨hdigits, hlt⟩, rfl⟩

/-- **Numbers**: what is read is what is spelled, as long as it fits. -/
theorem word?_eq_some_iff : word? text = some n ↔ Spells text n ∧ n < 2 ^ 64 := by
  rw [word?_eq_some_iff_unsigned, ← and_assoc]
  refine and_congr_left fun _ => ?_
  constructor
  · rintro ⟨⟨hne, hdigits⟩, rfl⟩
    exact ⟨_, hne, hdigits, (unsigned_eq_iff hne hdigits).mp rfl, decimalValue_eq _⟩
  · rintro ⟨ds, hne, hdigits, htext, rfl⟩
    rw [(unsigned_eq_iff hne hdigits).mpr htext]
    exact ⟨⟨hne, hdigits⟩, decimalValue_eq ds⟩

example : word? "+00020" = some 20 ∧ word? "18446744073709551616" = none ∧ word? "-1" = none := by
  decide +kernel

end TestScout.Text
