import Mathlib.Data.Nat.Digits.Lemmas
import TestScout.Text.Hex

/-!
Numbers written in hexadecimal digits. Reading digits gives the number they spell however many there
are, and a reading that gives a number has read digits, so what can be read is just what can be
written.
-/

namespace TestScout.Text

structure HexDigit where
  value : Fin 16
  upper : Bool
  deriving DecidableEq, Repr

def HexDigit.char (d : HexDigit) : Char :=
  if d.value < 10 then Char.ofNat ('0'.toNat + d.value)
  else Char.ofNat ((if d.upper then 'A' else 'a').toNat + (d.value - 10))

/-- The number that digits spell, the last of them being the units. -/
def number (ds : List HexDigit) : ℕ := Nat.ofDigits 16 (ds.reverse.map (·.value.val))

variable {c : Char} {cs : List Char} {ds : List HexDigit} {n k : ℕ}

/-! ### One digit -/

@[simp] lemma hexValue?_char (d : HexDigit) : hexValue? d.char = some d.value.val := by
  obtain ⟨value, upper⟩ := d
  revert value upper
  decide

lemma toNat_char : ∀ (value : Fin 16) (upper : Bool),
    (HexDigit.char ⟨value, upper⟩).toNat =
      value.val + if value.val < 10 then 48 else if upper then 55 else 87 := by
  decide

lemma exists_char_of_hexValue? (h : hexValue? c = some n) :
    ∃ d : HexDigit, d.char = c ∧ d.value.val = n := by
  have hdigit (v : ℕ) (upper : Bool) (hv : v < 16)
      (hc : v + (if v < 10 then 48 else if upper then 55 else 87) = c.toNat) :
      ∃ d : HexDigit, d.char = c ∧ d.value.val = v :=
    ⟨⟨⟨v, hv⟩, upper⟩, Char.toNat_inj.mp ((toNat_char _ _).trans hc), rfl⟩
  unfold hexValue? at h
  simp only [Bool.and_eq_true, decide_eq_true_eq, Char.le_def, UInt32.le_iff_toNat_le,
    Char.toNat_val, Char.reduceToNat] at h
  split at h
  · next hc =>
    obtain rfl := Option.some.inj h
    exact hdigit _ false (by omega) (by rw [if_pos (by omega)]; omega)
  · split at h
    · next hc =>
      obtain rfl := Option.some.inj h
      refine hdigit _ false (by omega) ?_
      rw [if_neg (by omega), if_neg Bool.false_ne_true]
      omega
    · split at h
      · next hc =>
        obtain rfl := Option.some.inj h
        refine hdigit _ true (by omega) ?_
        rw [if_neg (by omega), if_pos rfl]
        omega
      · cases h

lemma char_ne {d : HexDigit} (h : hexValue? c = none) : d.char ≠ c := by
  rintro rfl
  rw [hexValue?_char] at h
  cases h

/-! ### Several digits -/

lemma number_append_singleton (ds : List HexDigit) (d : HexDigit) :
    number (ds ++ [d]) = number ds * 16 + d.value := by
  rw [number, List.reverse_append, List.reverse_singleton, List.singleton_append, List.map_cons,
    Nat.ofDigits_cons, number]
  exact Nat.add_comm _ _ |>.trans (by rw [Nat.mul_comm])

lemma number_lt (ds : List HexDigit) : number ds < 16 ^ ds.length := by
  have hlt := Nat.ofDigits_lt_base_pow_length (b := 16) (l := ds.reverse.map (·.value.val))
    (by decide) (by simp)
  simpa [number] using hlt

lemma hexNumber?_append_singleton (cs : List Char) (c : Char) :
    hexNumber? (cs ++ [c]) =
      (hexNumber? cs).bind fun n => (hexValue? c).map (n * 16 + ·) := by
  unfold hexNumber?
  rw [List.foldlM_append]
  simp

theorem hexNumber?_eq_some_iff :
    hexNumber? cs = some n ↔ ∃ ds : List HexDigit, ds.map HexDigit.char = cs ∧ number ds = n := by
  induction cs using List.reverseRecOn generalizing n with
  | nil =>
      have hnil : hexNumber? [] = some 0 := rfl
      rw [hnil]
      constructor
      · rintro ⟨⟩
        exact ⟨[], rfl, rfl⟩
      · rintro ⟨ds, hds, rfl⟩
        rw [List.map_eq_nil_iff.mp hds]
        rfl
  | append_singleton cs c ih =>
      rw [hexNumber?_append_singleton, Option.bind_eq_some_iff]
      constructor
      · rintro ⟨m, hm, hn⟩
        obtain ⟨v, hv, rfl⟩ := Option.map_eq_some_iff.mp hn
        obtain ⟨ds, rfl, rfl⟩ := ih.mp hm
        obtain ⟨d, rfl, rfl⟩ := exists_char_of_hexValue? hv
        exact ⟨ds ++ [d], by rw [List.map_append, List.map_singleton],
          number_append_singleton ds d⟩
      · rintro ⟨ds, hds, rfl⟩
        obtain ⟨ds, last, rfl, rfl, hlast⟩ := List.map_eq_append_iff.mp hds
        obtain ⟨d, rfl, rfl⟩ := List.map_eq_singleton_iff.mp hlast
        refine ⟨number ds, ih.mpr ⟨ds, rfl, rfl⟩, ?_⟩
        rw [hexValue?_char, Option.map_some, number_append_singleton]

theorem hexFront?_eq_some_iff :
    hexFront? k cs = some n ↔
      ∃ (ds : List HexDigit) (rest : List Char),
        ds.length = k ∧ cs = ds.map HexDigit.char ++ rest ∧ number ds = n := by
  unfold hexFront?
  constructor
  · intro h
    split at h
    · next hk =>
      obtain ⟨ds, hds, hn⟩ := hexNumber?_eq_some_iff.mp h
      refine ⟨ds, cs.drop k, ?_, ?_, hn⟩
      · rw [← List.length_map HexDigit.char, hds, List.length_take, Nat.min_eq_left hk]
      · rw [hds, List.take_append_drop]
    · cases h
  · rintro ⟨ds, rest, rfl, rfl, rfl⟩
    rw [if_pos (by simp), List.take_left' (List.length_map _)]
    exact hexNumber?_eq_some_iff.mpr ⟨ds, rfl, rfl⟩

end TestScout.Text
