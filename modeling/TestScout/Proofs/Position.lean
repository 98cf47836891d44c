import Mathlib.Tactic.Lemma
import TestScout.LineNumber
import TestScout.Position

/-!
Lines as editors and as readers count them. The two tables of a text hold the same beginnings of
lines, and both say that an offset belongs to the last line that begins at or before it; editors
count from zero, readers from one.
-/

namespace TestScout

lemma map_start_linesFrom (start : Nat) (before cs : List Char) :
    (linesFrom start before cs).map (·.start) =
      start :: startsAfter (start + Text.byteCount before) cs := by
  induction cs generalizing start before with
  | nil => rfl
  | cons c cs ih =>
      have hnext : start + Text.byteCount (c :: before) =
          start + Text.byteCount before + c.utf8Size := by
        rw [Text.byteCount]
        omega
      rw [linesFrom, startsAfter]
      split
      · rw [List.map_cons, ih, hnext]
        rfl
      · rw [ih, hnext]

namespace LineTable

lemma map_start_ofText (text : String) :
    (ofText text).lines.map (·.start) = lineStarts text :=
  map_start_linesFrom 0 [] text.toList

lemma one_le_lineNumber (text : String) (offset : Nat) :
    1 ≤ lineNumber (lineStarts text) offset := by
  unfold lineNumber lineStarts
  rw [List.takeWhile_cons_of_pos (by simp)]
  simp

/-- **Lines**: readers count one line more than editors, wherever an offset is. -/
theorem lineNumber_eq (text : String) (offset : Nat) :
    lineNumber (lineStarts text) offset = ((ofText text).position offset).line + 1 := by
  have hcount : lineNumber (lineStarts text) offset =
      ((ofText text).lines.takeWhile fun l => l.start ≤ offset).length := by
    rw [lineNumber, ← map_start_ofText, List.takeWhile_map, List.length_map]
    rfl
  have hpos := one_le_lineNumber text offset
  rw [hcount] at hpos ⊢
  unfold position
  cases hlast : ((ofText text).lines.takeWhile fun l => l.start ≤ offset).getLast? with
  | none =>
      rw [List.getLast?_eq_none_iff.mp hlast] at hpos
      cases hpos
  | some l =>
      simp only [hlast]
      omega

end LineTable

end TestScout
