import Mathlib.Data.Prod.Lex
import Mathlib.Order.Interval.Set.Basic
import Mathlib.Order.Monotone.Basic
import TestScout.Proofs.Position.Scan

/-!
The order of places. Going on in a text leads to later places, line by line and on each line from
left to right, so places come in the order of their offsets. Wherever the text can be cut there is a
place of its own, and what lies apart in the text lies apart, in the same order, on its lines.
-/

namespace TestScout

open Text

lemma unitCount_append (a b : List Char) : unitCount (a ++ b) = unitCount a + unitCount b := by
  induction a with
  | nil => exact (Nat.zero_add _).symm
  | cons c a ih => rw [List.cons_append, unitCount, unitCount, ih, Nat.add_assoc]

lemma unitCount_pos {cs : List Char} (h : cs ≠ []) : 0 < unitCount cs := by
  obtain ⟨c, cs, rfl⟩ := List.exists_cons_of_ne_nil h
  have hunits : 0 < Char.units c := by
    unfold Char.units
    split <;> decide
  exact Nat.add_pos_left hunits _

namespace Position

/-- What places are ordered by. -/
def key (p : Position) : Nat ×ₗ Nat := toLex (p.line, p.character)

lemma key_injective : Function.Injective key := fun p q h => by
  obtain ⟨line, character⟩ := p
  obtain ⟨line', character'⟩ := q
  cases h
  rfl

/-- Places come in the order of their lines, those on one line in the order of their columns. -/
instance : PartialOrder Position := .lift key key_injective

variable {p q : Position}

lemma lt_iff : p < q ↔ p.line < q.line ∨ p.line = q.line ∧ p.character < q.character :=
  Prod.Lex.toLex_lt_toLex

lemma after_lt_after_append {more : List Char} (h : more ≠ []) (front : List Char) :
    after front < after (front ++ more) := by
  rw [lt_iff]
  unfold after
  rw [List.count_append]
  by_cases hbreak : '\n' ∈ more
  · -- a later line
    exact Or.inl (Nat.lt_add_of_pos_right (List.count_pos_iff.mpr hbreak))
  · -- further to the right
    rw [List.count_eq_zero_of_not_mem hbreak, lastLine_append hbreak, unitCount_append]
    exact Or.inr ⟨rfl, Nat.lt_add_of_pos_right (unitCount_pos h)⟩

lemma after_le_after {front back : List Char} (h : front <+: back) : after front ≤ after back := by
  obtain ⟨more, rfl⟩ := h
  by_cases hmore : more = []
  · rw [hmore, List.append_nil]
  · exact (after_lt_after_append hmore front).le

end Position

structure Span.Cuts (s : Span) (text : String) : Prop where
  start_le_stop : s.start ≤ s.stop
  start : Boundary text s.start
  stop : Boundary text s.stop

def TextRange.places (r : TextRange) : Set Position := Set.Ico r.start r.stop

namespace LineTable

variable {text : String}

lemma position_monotone (text : String) : Monotone (ofText text).position := fun n m h => by
  rw [position_eq_after, position_eq_after]
  exact Position.after_le_after (fitting_prefix_fitting h text.toList)

lemma position_strictMonoOn (text : String) :
    StrictMonoOn (ofText text).position {b | Boundary text b} := fun n hn m hm h => by
  obtain ⟨front, hfront, rfl⟩ := boundary_iff.mp hn
  obtain ⟨back, hback, rfl⟩ := boundary_iff.mp hm
  obtain ⟨more, rfl⟩ : front <+: back := by
    rw [← fitting_of_prefix hback]
    exact prefix_fitting hfront h.le
  have hmore : more ≠ [] := by
    rintro rfl
    rw [List.append_nil] at h
    exact lt_irrefl _ h
  rw [position_eq_after, position_eq_after, fitting_of_prefix hfront, fitting_of_prefix hback]
  exact Position.after_lt_after_append hmore front

lemma not_mem_places {s t : Span} (h : s.stop ≤ t.start) {p : Position}
    (hp : p ∈ ((ofText text).range s).places) : p ∉ ((ofText text).range t).places := fun hp' => by
  have hle : (ofText text).position s.stop ≤ (ofText text).position t.start :=
    position_monotone text h
  exact lt_irrefl p (hp.2.trans_le (hle.trans hp'.1))

/-- **The order of places**: a later offset has a later place or the same; where the text can be cut
it has a place of its own, so a place says where that is. A range begins where it ends or before. Of
stretches between cuts the ranges lie one after the other just when the stretches do, and then they
have no place in common; none but that of an empty stretch is empty. -/
theorem position_rises (text : String) :
    Monotone (ofText text).position ∧
    StrictMonoOn (ofText text).position {b | Boundary text b} ∧
    Set.InjOn (ofText text).position {b | Boundary text b} ∧
    (∀ s : Span, s.start ≤ s.stop →
      ((ofText text).range s).start ≤ ((ofText text).range s).stop) ∧
    ∀ s t : Span, s.Cuts text → t.Cuts text →
      (s.stop ≤ t.start ↔ ((ofText text).range s).stop ≤ ((ofText text).range t).start) ∧
      (s.stop ≤ t.start → ∀ p ∈ ((ofText text).range s).places,
        p ∉ ((ofText text).range t).places) ∧
      (s.start < s.stop ↔ ((ofText text).range s).places.Nonempty) := by
  have hmono := position_monotone text
  have hstrict := position_strictMonoOn text
  refine ⟨hmono, hstrict, hstrict.injOn, fun s h => hmono h, fun s t hs ht => ?_⟩
  refine ⟨(hstrict.le_iff_le hs.stop ht.start).symm, fun h p hp => not_mem_places h hp, ?_⟩
  exact (hstrict.lt_iff_lt hs.start hs.stop).symm.trans Set.nonempty_Ico.symm

end LineTable

end TestScout
