import Mathlib.Tactic.Lemma
import TestScout.Regex.Basic

/-!
What an expression leads to, read as a relation between places: `Leads text r i j` says that `r`
leads from place `i` to place `j`. Duplicates among the places are dropped while they are
computed, which changes none of this, so each way to put expressions together has its law, and a
row of single characters leads on exactly where the text has them.
-/

namespace TestScout.Regex

variable {text : Array Char}

/-- The expression leads from one place to another. -/
def Leads (text : Array Char) (r : Regex) (i j : Nat) : Prop := j ∈ ends text r i

@[simp] lemma leads_empty {i j : Nat} : Leads text empty i j ↔ j = i := by
  simp [Leads, ends]

lemma leads_one {set : CharSet} {i j : Nat} :
    Leads text (one set) i j ↔ j = i + 1 ∧ ∃ c, text[i]? = some c ∧ set.contains c = true := by
  unfold Leads ends
  rcases text[i]? with _ | c
  · simp
  · by_cases h : set.contains c = true <;> simp [h]

lemma leads_assert {letters : CharSet} {a : Assertion} {i j : Nat} :
    Leads text (assert letters a) i j ↔
      j = i ∧ a.holds letters (before text i) text[i]? = true := by
  unfold Leads ends
  by_cases h : a.holds letters (before text i) text[i]? = true <;> simp [h]

lemma leads_seq {a b : Regex} {i j : Nat} :
    Leads text (seq a b) i j ↔ ∃ k, Leads text a i k ∧ Leads text b k j := by
  simp [Leads, ends, List.mem_flatMap]

lemma leads_alt {a b : Regex} {i j : Nat} :
    Leads text (alt a b) i j ↔ Leads text a i j ∨ Leads text b i j := by
  simp [Leads, ends]

/-! ### Rows of expressions -/

@[simp] lemma leads_all_nil {i j : Nat} : Leads text (all []) i j ↔ j = i := leads_empty

lemma leads_all_cons {r : Regex} {rs : List Regex} {i j : Nat} :
    Leads text (all (r :: rs)) i j ↔ ∃ k, Leads text r i k ∧ Leads text (all rs) k j := leads_seq

lemma leads_all_singleton {r : Regex} {i j : Nat} :
    Leads text (all [r]) i j ↔ Leads text r i j := by
  simp [leads_all_cons]

lemma leads_all_append {rs ss : List Regex} {i j : Nat} :
    Leads text (all (rs ++ ss)) i j ↔ ∃ k, Leads text (all rs) i k ∧ Leads text (all ss) k j := by
  induction rs generalizing i with
  | nil => simp
  | cons r rs ih =>
      rw [List.cons_append, leads_all_cons]
      constructor
      · rintro ⟨k, hr, hrest⟩
        obtain ⟨l, hrs, hss⟩ := ih.mp hrest
        exact ⟨l, leads_all_cons.mpr ⟨k, hr, hrs⟩, hss⟩
      · rintro ⟨l, hrs, hss⟩
        obtain ⟨k, hr, hrs⟩ := leads_all_cons.mp hrs
        exact ⟨k, hr, ih.mpr ⟨l, hrs, hss⟩⟩

/-! ### Single characters -/

/-- The expression that stands for some characters, one after another. -/
def literal (cs : List Char) : List Regex := cs.map fun c => one (.single c)

lemma leads_single {c : Char} {i j : Nat} :
    Leads text (one (.single c)) i j ↔ j = i + 1 ∧ text[i]? = some c := by
  rw [leads_one]
  constructor
  · rintro ⟨hj, d, hd, hc⟩
    rw [CharSet.contains_single, decide_eq_true_eq] at hc
    exact ⟨hj, hc ▸ hd⟩
  · rintro ⟨hj, hc⟩
    exact ⟨hj, c, hc, by simp⟩

/-- Characters lead on exactly where the text has them. -/
theorem leads_literal {cs : List Char} {i j : Nat} :
    Leads text (all (literal cs)) i j ↔ cs <+: text.toList.drop i ∧ j = i + cs.length := by
  induction cs generalizing i with
  | nil => simp [literal]
  | cons c cs ih =>
      have hstep : text[i]? = some c ∧ cs <+: text.toList.drop (i + 1) ↔
          c :: cs <+: text.toList.drop i := by
        rw [← Array.getElem?_toList, ← List.drop_drop, List.drop_one]
        rcases hd : text.toList.drop i with _ | ⟨d, ds⟩
        · have hi : text.toList[i]? = none := by
            rw [List.getElem?_eq_none_iff]; exact List.drop_eq_nil_iff.mp hd
          simp [hi]
        · have hi : text.toList[i]? = some d := by
            rw [← List.head?_drop, hd]; rfl
          simp [hi, List.cons_prefix_cons, eq_comm]
      rw [literal, List.map_cons, leads_all_cons, ← hstep]
      constructor
      · rintro ⟨k, hone, hrest⟩
        obtain ⟨rfl, hc⟩ := leads_single.mp hone
        obtain ⟨hcs, hj⟩ := ih.mp hrest
        exact ⟨⟨hc, hcs⟩, by simp only [List.length_cons]; omega⟩
      · rintro ⟨⟨hc, hcs⟩, hj⟩
        refine ⟨i + 1, leads_single.mpr ⟨rfl, hc⟩, ih.mpr ⟨hcs, ?_⟩⟩
        simp only [List.length_cons] at hj; omega

/-! ### The ends of a text -/

lemma leads_textStart {letters : CharSet} {i j : Nat} (hi : i ≤ text.size) :
    Leads text (assert letters .textStart) i j ↔ i = 0 ∧ j = 0 := by
  rw [leads_assert]
  rcases i with _ | i
  · simp [Assertion.holds, before]
  · have hget : text[i]? = some text[i] := Array.getElem?_eq_getElem (by omega)
    simp [Assertion.holds, before, hget]

lemma leads_textEnd {letters : CharSet} {i j : Nat} :
    Leads text (assert letters .textEnd) i j ↔ text.size ≤ i ∧ j = i := by
  rw [leads_assert]
  simp [Assertion.holds, and_comm]

/-- A text matches if the expression leads anywhere from some place of it. -/
theorem isMatch_iff {r : Regex} {s : String} :
    r.isMatch s = true ↔ ∃ i ≤ s.toList.length, ∃ j, Leads s.toList.toArray r i j := by
  unfold isMatch Leads
  simp only [List.any_eq_true, List.mem_range, List.size_toArray, Nat.lt_succ_iff,
    Bool.not_eq_true', List.isEmpty_eq_false_iff_exists_mem]

end TestScout.Regex
