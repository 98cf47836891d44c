import Mathlib.Data.Set.Function
import Mathlib.Order.Interval.Set.Basic
import TestScout.Proofs.Position
import TestScout.Proofs.Position.Steps

/-!
The numbers of lines. Readers search the table of the beginnings of lines with an offset as it is,
editors with the last place up to it at which the text can be cut. The beginnings rise, so the table
can be searched by halving, and both searches find the same line. The lines are numbered from one,
by every number up to one more than there are line breaks.
-/

namespace TestScout

open Text

/-! ### Searching a rising table -/

section Search

variable {p : Nat → Bool} {xs : List Nat}

/-- If an element passes a test only when all before it do, nothing passes after one that fails. -/
lemma eq_false_of_mem_dropWhile (h : xs.Pairwise fun x y => p y → p x) {x : Nat}
    (hx : x ∈ xs.dropWhile p) : p x = false := by
  induction xs with
  | nil => cases hx
  | cons first xs ih =>
      obtain ⟨hfirst, hrest⟩ := List.pairwise_cons.mp h
      rw [List.dropWhile_cons] at hx
      split at hx
      · exact ih hrest hx
      · next hfails =>
        rcases List.mem_cons.mp hx with rfl | hx
        · exact Bool.eq_false_iff.mpr hfails
        · exact Bool.eq_false_iff.mpr fun hp => hfails (hfirst x hx hp)

lemma partitionPoint?_of_pairwise (h : xs.Pairwise fun x y => p y → p x) :
    partitionPoint? p xs = some (xs.takeWhile p).length := by
  have hpass : ∀ x ∈ xs.takeWhile p, p x = true := fun x hx => List.mem_takeWhile_imp hx
  have hfail : ∀ x ∈ xs.dropWhile p, p x = false := fun x hx => eq_false_of_mem_dropWhile h hx
  have hfound := partitionPoint?_append hpass hfail
  rwa [List.takeWhile_append_dropWhile] at hfound

end Search

lemma pairwise_startsAfter (offset : Nat) (cs : List Char) :
    (startsAfter offset cs).Pairwise (· < ·) := by
  induction cs generalizing offset with
  | nil => exact List.Pairwise.nil
  | cons c cs ih =>
      rw [startsAfter]
      split
      · exact List.pairwise_cons.mpr ⟨fun start hstart => (of_mem_startsAfter hstart).1, ih _⟩
      · exact ih _

lemma pairwise_lineStarts (text : String) : (lineStarts text).Pairwise (· < ·) :=
  List.pairwise_cons.mpr
    ⟨fun _ hstart => (of_mem_startsAfter hstart).1, pairwise_startsAfter 0 text.toList⟩

variable {text : String}

lemma partitionPoint?_eq_lineNumber (text : String) (offset : Nat) :
    partitionPoint? (fun start => start ≤ offset) (lineStarts text) =
      some (lineNumber (lineStarts text) offset) := by
  refine partitionPoint?_of_pairwise ((pairwise_lineStarts text).imp fun {x y} hxy hy => ?_)
  exact decide_eq_true (hxy.le.trans (of_decide_eq_true hy))

/-! ### The numbers in use -/

lemma lineNumber_byteCount {front : List Char} (h : front <+: text.toList) :
    lineNumber (lineStarts text) (byteCount front) = front.count '\n' + 1 := by
  obtain ⟨rest, hrest⟩ := h
  have hfound := partitionPoint?_lineStarts hrest.symm
  rw [partitionPoint?_eq_lineNumber] at hfound
  exact Option.some.inj hfound

lemma lineNumber_le (text : String) (offset : Nat) :
    lineNumber (lineStarts text) offset ≤ text.toList.count '\n' + 1 := by
  have hlength : (lineStarts text).length = text.toList.count '\n' + 1 := by
    rw [lineStarts, List.length_cons, length_startsAfter]
  rw [← hlength]
  exact (List.takeWhile_prefix _).length_le

lemma exists_prefix_count {c : Char} {cs : List Char} {k : Nat} (h : k ≤ cs.count c) :
    ∃ front, front <+: cs ∧ front.count c = k := by
  induction cs using List.reverseRecOn with
  | nil => exact ⟨[], List.prefix_rfl, (Nat.le_zero.mp h).symm⟩
  | append_singleton cs last ih =>
      by_cases hk : k ≤ cs.count c
      · obtain ⟨front, hfront, hcount⟩ := ih hk
        exact ⟨front, hfront.trans (List.prefix_append _ _), hcount⟩
      · -- only the whole list has as many
        have hlast : [last].count c ≤ 1 := List.count_le_length
        refine ⟨cs ++ [last], List.prefix_rfl, ?_⟩
        rw [List.count_append] at h ⊢
        omega

/-- No number is left out, and each is that of a place at which the text can be cut. -/
lemma lineNumber_surjOn (text : String) :
    Set.SurjOn (lineNumber (lineStarts text)) {b | Boundary text b}
      (Set.Icc 1 (text.toList.count '\n' + 1)) := by
  rintro n ⟨hone, hle⟩
  obtain ⟨front, hfront, hcount⟩ := exists_prefix_count (Nat.sub_le_of_le_add hle)
  refine ⟨byteCount front, boundary_iff.mpr ⟨front, hfront, rfl⟩, ?_⟩
  rw [lineNumber_byteCount hfront, hcount, Nat.sub_add_cancel hone]

namespace LineTable

/-- **Numbers of lines**: in a text of less than four gigabytes, wherever an offset is, the search
with the offset as it is and the search for its place both succeed, and the number of the line is
one more than the line of the place. It lies between one and one more than there are line breaks,
and of these numbers each is that of a line. -/
theorem lines_agree {text : String} (size : text.utf8ByteSize < 2 ^ 32) :
    (∀ offset,
      partitionPoint? (fun start => start ≤ offset) (lineStarts text) =
        some (lineNumber (lineStarts text) offset) ∧
      locate? text offset = some ((ofText text).position offset) ∧
      lineNumber (lineStarts text) offset = ((ofText text).position offset).line + 1 ∧
      lineNumber (lineStarts text) offset ∈ Set.Icc 1 (text.toList.count '\n' + 1)) ∧
    Set.SurjOn (lineNumber (lineStarts text)) {b | Boundary text b}
      (Set.Icc 1 (text.toList.count '\n' + 1)) := by
  refine ⟨fun offset => ?_, lineNumber_surjOn text⟩
  refine ⟨partitionPoint?_eq_lineNumber text offset, locate?_eq size offset,
    lineNumber_eq text offset, ?_⟩
  exact ⟨one_le_lineNumber text offset, lineNumber_le text offset⟩

/-- An offset within a character after a line break, and one after the end. -/
theorem lines_agree_within :
    "é\n😀b\n".utf8ByteSize < 2 ^ 32 ∧
      lineNumber (lineStarts "é\n😀b\n") 5 = 2 ∧ locate? "é\n😀b\n" 5 = some ⟨1, 0⟩ ∧
      lineNumber (lineStarts "é\n😀b\n") 100 = 3 ∧ locate? "é\n😀b\n" 100 = some ⟨2, 0⟩ := by
  have size : "é\n😀b\n".utf8ByteSize < 2 ^ 32 := by decide
  obtain ⟨-, hwithin, hnumber, -⟩ := (lines_agree size).1 5
  obtain ⟨-, hbeyond, hlast, -⟩ := (lines_agree size).1 100
  refine ⟨size, hnumber.trans ?_, hwithin.trans ?_, hlast.trans ?_, hbeyond.trans ?_⟩
  all_goals decide

end LineTable

end TestScout
