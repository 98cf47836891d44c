import Mathlib.Data.List.DropRight
import TestScout.Proofs.Text.Boundary

/-!
Places found by reading a text from its beginning. The place of an offset is the place after the
characters that fit before it: as many lines down as there are line breaks among them, and as far
to the right as what comes after the last line break is long. The table of lines only saves the
reading.
-/

namespace TestScout

namespace Text

/-- What comes after the last line break, all of it if there is none. -/
def lastLine (cs : List Char) : List Char := cs.rtakeWhile (· ≠ '\n')

lemma lastLine_of_not_mem {cs : List Char} (h : '\n' ∉ cs) : lastLine cs = cs :=
  List.rtakeWhile_eq_self_iff.mpr fun _ hc => decide_eq_true fun e => h (e ▸ hc)

lemma lastLine_append_break (a b : List Char) : lastLine (a ++ '\n' :: b) = lastLine b := by
  induction b using List.reverseRecOn with
  | nil => exact List.rtakeWhile_concat_neg _ _ _ (by simp)
  | append_singleton b c ih =>
      unfold lastLine at ih ⊢
      rw [← List.cons_append, ← List.append_assoc, List.rtakeWhile_concat, List.rtakeWhile_concat,
        ih]

lemma lastLine_append {b : List Char} (h : '\n' ∉ b) (a : List Char) :
    lastLine (a ++ b) = lastLine a ++ b := by
  induction b using List.reverseRecOn with
  | nil => rw [List.append_nil, List.append_nil]
  | append_singleton b c ih =>
      obtain ⟨hb, hc⟩ : '\n' ∉ b ∧ '\n' ≠ c := by simpa using h
      unfold lastLine at ih ⊢
      rw [← List.append_assoc, List.rtakeWhile_concat_pos _ _ _ (by simpa using hc.symm), ih hb,
        List.append_assoc]

end Text

open Text

def Position.after (cs : List Char) : Position := ⟨cs.count '\n', unitCount (lastLine cs)⟩

lemma Position.after_of_not_mem {cs : List Char} (h : '\n' ∉ cs) :
    after cs = ⟨0, unitCount cs⟩ := by
  rw [after, List.count_eq_zero_of_not_mem h, lastLine_of_not_mem h]

lemma Position.after_line {a : List Char} (h : '\n' ∉ a) (b : List Char) :
    after (a ++ '\n' :: b) = ⟨(after b).line + 1, (after b).character⟩ := by
  unfold after
  rw [lastLine_append_break, List.count_append, List.count_eq_zero_of_not_mem h,
    List.count_cons_self, Nat.zero_add]

namespace LineTable

/-! ### Tables of lines -/

variable {l next : Line} {ls : List Line} {offset : Nat}

lemma position_first (h : l.start ≤ offset) (hnext : ∀ l' ∈ ls.head?, offset < l'.start) :
    position ⟨l :: ls⟩ offset = ⟨0, unitCount (fitting (offset - l.start) l.chars)⟩ := by
  have hreached : (l :: ls).takeWhile (fun l => l.start ≤ offset) = [l] := by
    rw [List.takeWhile_cons_of_pos (by simpa using h)]
    cases ls with
    | nil => rfl
    | cons l' ls =>
        have hlt : offset < l'.start := hnext l' rfl
        rw [List.takeWhile_cons_of_neg (by simpa using hlt)]
  simp only [position, hreached]
  rfl

lemma position_later (h : l.start ≤ offset) (hnext : next.start ≤ offset) :
    position ⟨l :: next :: ls⟩ offset =
      ⟨(position ⟨next :: ls⟩ offset).line + 1, (position ⟨next :: ls⟩ offset).character⟩ := by
  obtain ⟨last, hlast⟩ :
      ∃ last, ((next :: ls).takeWhile fun l => l.start ≤ offset).getLast? = some last := by
    rw [List.takeWhile_cons_of_pos (by simpa using hnext)]
    exact ⟨_, List.getLast?_eq_some_getLast (List.cons_ne_nil _ _)⟩
  have hpos : 0 < ((next :: ls).takeWhile fun l => l.start ≤ offset).length :=
    List.length_pos_of_ne_nil fun h => by rw [h] at hlast; cases hlast
  have hreached : (l :: next :: ls).takeWhile (fun l => l.start ≤ offset) =
      l :: (next :: ls).takeWhile fun l => l.start ≤ offset :=
    List.takeWhile_cons_of_pos (by simpa using h)
  simp only [position, hreached, List.getLast?_cons, hlast, Option.getD_some, List.length_cons,
    Position.mk.injEq, and_true]
  omega

lemma exists_linesFrom (start : Nat) (before cs : List Char) :
    ∃ first rest, linesFrom start before cs = first :: rest ∧ first.start = start := by
  induction cs generalizing before with
  | nil => exact ⟨_, [], rfl, rfl⟩
  | cons c cs ih =>
      rw [linesFrom]
      split
      · exact ⟨_, _, rfl, rfl⟩
      · exact ih (c :: before)

/-- The place of an offset on the lines of the characters that begin at `start`, of which those in
`before` have been read. -/
lemma position_linesFrom (start n : Nat) {before : List Char} (h : '\n' ∉ before)
    (cs : List Char) : position ⟨linesFrom start before cs⟩ (start + n) =
      Position.after (fitting n (before.reverse ++ cs)) := by
  induction cs generalizing start n before with
  | nil =>
      have hfits : '\n' ∉ fitting n before.reverse := not_mem_fitting (by simpa using h) n
      rw [linesFrom, position_first (Nat.le_add_right _ _) (by simp), Nat.add_sub_cancel_left,
        List.append_nil, Position.after_of_not_mem hfits]
  | cons c cs ih =>
      rw [linesFrom]
      split
      · next hc =>
        subst hc
        have hfits : '\n' ∉ fitting n before.reverse := not_mem_fitting (by simpa using h) n
        have hbreak :
            byteCount ('\n' :: before) = byteCount before.reverse + ('\n' : Char).utf8Size := by
          rw [byteCount, byteCount_reverse, Nat.add_comm]
        have hpos := ('\n' : Char).utf8Size_pos
        obtain ⟨next, rest, hlines, hstart⟩ :=
          exists_linesFrom (start + byteCount ('\n' :: before)) [] cs
        rw [hlines]
        by_cases hn : n ≤ byteCount before.reverse
        · -- the line break does not fit
          have hfirst : ∀ l ∈ (next :: rest).head?, start + n < l.start := by
            rintro l ⟨⟩
            omega
          rw [position_first (Nat.le_add_right start n) hfirst, Nat.add_sub_cancel_left,
            List.reverse_cons, fitting_append_of_ge hn, fitting_append_of_ge hn,
            Position.after_of_not_mem hfits]
        · -- the whole line fits
          obtain ⟨m, rfl⟩ : ∃ m, n = byteCount before.reverse + ('\n' : Char).utf8Size + m :=
            Nat.exists_eq_add_of_le (Nat.lt_of_not_le hn)
          rw [position_later (Nat.le_add_right start _) (by omega), ← hlines,
            fitting_append_cons, Position.after_line (by simpa using h), ← hbreak,
            ← Nat.add_assoc, ih _ m List.not_mem_nil]
          rfl
      · next hc =>
        rw [ih start n (by simpa using ⟨Ne.symm hc, h⟩), List.reverse_cons, List.append_assoc,
          List.singleton_append]

/-- **Places by reading**: the place of an offset is the place after the characters that fit before
it. -/
theorem position_eq_after (text : String) (offset : Nat) :
    (ofText text).position offset = Position.after (fitting offset text.toList) := by
  have h := @position_linesFrom 0 offset [] List.not_mem_nil text.toList
  rwa [Nat.zero_add] at h

end LineTable

end TestScout
