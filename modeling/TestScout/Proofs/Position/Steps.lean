import Mathlib.Data.Nat.PSub
import TestScout.LineNumber
import TestScout.Proofs.Path.Text
import TestScout.Proofs.Position.Scan

/-!
Places found with a table of the beginnings of lines, in steps each of which can fail: going back
below the beginning of the text, searching a table that the offset does not part in two, taking one
from nothing, cutting the text within a character. None of them does, and in a text of less than
four gigabytes line and column fit into thirty-two bits; what comes out is the place that is found
by reading the text up to the last offset at which it can be cut.
-/

namespace TestScout

/-- The units of sixteen bits that spell a character. -/
def Char.utf16 (c : Char) : List Nat :=
  if c.toNat < 0x10000 then [c.toNat]
  else [0xD800 + (c.toNat - 0x10000) / 0x400, 0xDC00 + (c.toNat - 0x10000) % 0x400]

lemma length_flatMap_utf16 (cs : List Char) : (cs.flatMap Char.utf16).length = unitCount cs := by
  induction cs with
  | nil => rfl
  | cons c cs ih =>
      rw [List.flatMap_cons, List.length_append, ih, unitCount, Char.utf16, Char.units]
      split <;> rfl

namespace Text

/-- Goes back from an offset until the text can be cut; from the beginning there is no going
back. -/
def back? (text : String) : Nat → Option Nat
  | 0 => if (⟨0⟩ : String.Pos.Raw).isValid text then some 0 else none
  | n + 1 => if (⟨n + 1⟩ : String.Pos.Raw).isValid text then some (n + 1) else back? text n

/-- The part of a text between two offsets, if they come in this order and the text can be cut at
both. -/
def slice? (text : String) (start stop : Nat) : Option String :=
  if start ≤ stop then Span.text? ⟨start, stop⟩ text else none

end Text

/-- How many elements pass a test, if they all come before those that do not; only then can they be
counted by halving the list again and again. -/
def partitionPoint? (p : Nat → Bool) (xs : List Nat) : Option Nat :=
  if (xs.dropWhile p).any p then none else some (xs.takeWhile p).length

/-- The place of an offset, by steps that can fail, in numbers of thirty-two bits. -/
def LineTable.locate? (text : String) (offset : Nat) : Option Position := do
  let stop ← Text.back? text (min offset text.utf8ByteSize)
  let reached ← partitionPoint? (fun start => start ≤ stop) (lineStarts text)
  let line ← reached.ppred
  let start ← (lineStarts text)[line]?
  let part ← Text.slice? text start stop
  return ⟨line % 2 ^ 32, unitCount part.toList % 2 ^ 32⟩

/-! ### The steps -/

lemma partitionPoint?_append {p : Nat → Bool} {front rest : List Nat}
    (hfront : ∀ x ∈ front, p x = true) (hrest : ∀ x ∈ rest, p x = false) :
    partitionPoint? p (front ++ rest) = some front.length := by
  have hstop : rest.takeWhile p = [] ∧ rest.dropWhile p = rest := by
    cases rest with
    | nil => exact ⟨rfl, rfl⟩
    | cons x rest =>
        have hx := hrest x List.mem_cons_self
        exact ⟨List.takeWhile_cons_of_neg (by simp [hx]), List.dropWhile_cons_of_neg (by simp [hx])⟩
  unfold partitionPoint?
  rw [List.takeWhile_append_of_pos hfront, List.dropWhile_append_of_pos hfront, hstop.1, hstop.2,
    List.append_nil, if_neg]
  intro hany
  obtain ⟨x, hx, hp⟩ := List.any_eq_true.mp hany
  rw [hrest x hx] at hp
  cases hp

namespace Text

variable {text : String}

lemma back?_eq {n b : Nat} (h : IsGreatest {b | Boundary text b ∧ b ≤ n} b) :
    back? text n = some b := by
  obtain ⟨⟨hb, hle⟩, hmax⟩ := h
  induction n with
  | zero =>
      obtain rfl := Nat.le_zero.mp hle
      exact if_pos (String.Pos.Raw.isValid_eq_true_iff.mpr hb)
  | succ n ih =>
      rw [back?]
      split
      · next hvalid =>
        have hge := hmax ⟨String.Pos.Raw.isValid_eq_true_iff.mp hvalid, le_rfl⟩
        rw [le_antisymm hge hle]
      · next hvalid =>
        have hne : b ≠ n + 1 := by
          rintro rfl
          exact hvalid (String.Pos.Raw.isValid_eq_true_iff.mpr hb)
        exact ih (fun b' hb' => hmax ⟨hb'.1, hb'.2.trans (Nat.le_succ n)⟩) (by omega)

def firstLines (cs : List Char) : List Char := cs.rdropWhile (· ≠ '\n')

lemma firstLines_append_lastLine (cs : List Char) : firstLines cs ++ lastLine cs = cs :=
  List.rdropWhile_append_rtakeWhile

end Text

open Text

/-! ### The table -/

lemma startsAfter_append (offset : Nat) (a b : List Char) :
    startsAfter offset (a ++ b) =
      startsAfter offset a ++ startsAfter (offset + byteCount a) b := by
  induction a generalizing offset with
  | nil => rfl
  | cons c a ih =>
      rw [List.cons_append, startsAfter, startsAfter, ih, byteCount, Nat.add_assoc]
      split <;> rfl

lemma of_mem_startsAfter {offset start : Nat} {cs : List Char}
    (h : start ∈ startsAfter offset cs) : offset < start ∧ start ≤ offset + byteCount cs := by
  induction cs generalizing offset with
  | nil => cases h
  | cons c cs ih =>
      have hpos := c.utf8Size_pos
      have hlater (h : start ∈ startsAfter (offset + c.utf8Size) cs) :
          offset < start ∧ start ≤ offset + byteCount (c :: cs) := by
        obtain ⟨hlt, hle⟩ := ih h
        rw [byteCount]
        omega
      rw [startsAfter] at h
      split at h
      · rcases List.mem_cons.mp h with rfl | h
        · rw [byteCount]
          omega
        · exact hlater h
      · exact hlater h

lemma length_startsAfter (offset : Nat) (cs : List Char) :
    (startsAfter offset cs).length = cs.count '\n' := by
  induction cs generalizing offset with
  | nil => rfl
  | cons c cs ih =>
      rw [startsAfter]
      split
      · next hc =>
        subst hc
        rw [List.length_cons, ih, List.count_cons_self]
      · next hc => rw [ih, List.count_cons_of_ne hc]

lemma getLast?_startsAfter (offset : Nat) (cs : List Char) :
    (offset :: startsAfter offset cs).getLast? = some (offset + byteCount (firstLines cs)) := by
  induction cs using List.reverseRecOn with
  | nil => rfl
  | append_singleton cs c ih =>
      rw [startsAfter_append, startsAfter]
      split
      · next hc =>
        subst hc
        unfold firstLines
        rw [List.rdropWhile_concat_neg _ _ _ (by simp), byteCount_append, ← List.cons_append,
          List.getLast?_append_cons, ← Nat.add_assoc]
        rfl
      · next hc =>
        unfold firstLines at ih ⊢
        rw [List.rdropWhile_concat_pos _ _ _ (by simpa using hc), startsAfter, List.append_nil, ih]

lemma lineStarts_eq {text : String} {front rest : List Char} (h : text.toList = front ++ rest) :
    lineStarts text = (0 :: startsAfter 0 front) ++ startsAfter (byteCount front) rest := by
  rw [lineStarts, h, startsAfter_append, Nat.zero_add, List.cons_append]

/-- In the table, the lines that have begun where the text is cut come before those that have
not. -/
lemma partitionPoint?_lineStarts {text : String} {front rest : List Char}
    (h : text.toList = front ++ rest) :
    partitionPoint? (fun start => start ≤ byteCount front) (lineStarts text) =
      some (front.count '\n' + 1) := by
  rw [lineStarts_eq h, partitionPoint?_append, List.length_cons, length_startsAfter]
  · intro start hstart
    rcases List.mem_cons.mp hstart with rfl | hstart
    · exact decide_eq_true (Nat.zero_le _)
    · have hle := (of_mem_startsAfter hstart).2
      exact decide_eq_true (by omega)
  · intro start hstart
    have hlt := (of_mem_startsAfter hstart).1
    exact decide_eq_false (by omega)

lemma getElem?_lineStarts {text : String} {front rest : List Char}
    (h : text.toList = front ++ rest) :
    (lineStarts text)[front.count '\n']? = some (byteCount (firstLines front)) := by
  have hlast := getLast?_startsAfter 0 front
  rw [List.getLast?_eq_getElem?, List.length_cons, length_startsAfter, Nat.zero_add,
    Nat.add_sub_cancel] at hlast
  rw [lineStarts_eq h, List.getElem?_append_left, hlast]
  rw [List.length_cons, length_startsAfter]
  exact Nat.lt_succ_self _

/-! ### Sizes -/

lemma count_le_byteCount (cs : List Char) : cs.count '\n' ≤ byteCount cs := by
  induction cs with
  | nil => exact le_rfl
  | cons c cs ih =>
      have hpos := c.utf8Size_pos
      rw [List.count_cons, byteCount]
      split <;> omega

lemma units_le_utf8Size (c : Char) : Char.units c ≤ c.utf8Size := by
  unfold Char.units
  split
  · exact c.utf8Size_pos
  · next h =>
    have hlong : 0xFFFF < c.val := UInt32.lt_iff_toNat_lt.mpr (Nat.lt_of_not_le fun hle =>
      h (Nat.lt_succ_of_le hle))
    rw [Char.utf8Size_eq_four_iff.mpr hlong]
    decide

lemma unitCount_le_byteCount (cs : List Char) : unitCount cs ≤ byteCount cs := by
  induction cs with
  | nil => exact le_rfl
  | cons c cs ih => exact Nat.add_le_add (units_le_utf8Size c) ih

lemma unitCount_lastLine_le (cs : List Char) : unitCount (lastLine cs) ≤ byteCount cs := by
  refine (unitCount_le_byteCount _).trans ?_
  conv_rhs => rw [← firstLines_append_lastLine cs, byteCount_append]
  exact Nat.le_add_left _ _

lemma count_toBytes (text : String) : (toBytes text).count 0x0A = text.toList.count '\n' := by
  rw [toBytes_eq_flatMap]
  induction text.toList with
  | nil => rfl
  | cons c cs ih =>
      rw [List.flatMap_cons, List.count_append, ih]
      by_cases hc : c = '\n'
      · subst hc
        rw [List.count_cons_self, Nat.add_comm]
        rfl
      · have hbytes : 0x0A ∉ String.utf8EncodeChar c := fun h =>
          hc (Char.toNat_inj.mp (toNat_of_mem_utf8EncodeChar (by decide) h))
        rw [List.count_eq_zero_of_not_mem hbytes, List.count_cons_of_ne hc, Nat.zero_add]

/-- A place is that of an offset in a text: with the last offset up to it at which the text can be
cut, the line is the number of line breaks up to there, and the column is the number of units of
sixteen bits in what comes after the last of them. -/
def Position.LiesAt (p : Position) (text : String) (offset : Nat) : Prop :=
  ∃ stop front,
    IsGreatest {b | Boundary text b ∧ b ≤ min offset text.utf8ByteSize} stop ∧
    Span.text? ⟨0, stop⟩ text = some front ∧
    p = ⟨(toBytes front).count 0x0A, ((lastLine front.toList).flatMap Char.utf16).length⟩

namespace LineTable

lemma liesAt_position (text : String) (offset : Nat) :
    ((ofText text).position offset).LiesAt text offset := by
  refine ⟨_, .ofList (fitting offset text.toList), isGreatest_fitting text offset, ?_, ?_⟩
  · obtain ⟨rest, hrest⟩ := fitting_prefix_self offset text.toList
    have hcut : text.toList = [] ++ fitting offset text.toList ++ rest := hrest.symm
    exact text?_of_toList hcut
  · rw [position_eq_after, count_toBytes, length_flatMap_utf16, String.toList_ofList]
    rfl

lemma locate?_eq {text : String} (size : text.utf8ByteSize < 2 ^ 32) (offset : Nat) :
    locate? text offset = some ((ofText text).position offset) := by
  obtain ⟨rest, hrest⟩ := fitting_prefix_self offset text.toList
  have hback := back?_eq (isGreatest_fitting text offset)
  rw [position_eq_after]
  generalize fitting offset text.toList = front at hrest hback
  have hfront : byteCount front ≤ text.utf8ByteSize :=
    byteCount_toList text ▸ byteCount_le_of_prefix ⟨rest, hrest⟩
  have hslice : slice? text (byteCount (firstLines front)) (byteCount front) =
      some (.ofList (lastLine front)) := by
    have hcut : text.toList = firstLines front ++ lastLine front ++ rest := by
      rw [firstLines_append_lastLine, hrest]
    have htext := text?_of_toList hcut
    rw [firstLines_append_lastLine] at htext
    have hle : byteCount (firstLines front) ≤ byteCount front :=
      byteCount_le_of_prefix (List.rdropWhile_prefix _ front)
    rw [slice?, if_pos hle, htext]
  unfold locate?
  simp only [hback, partitionPoint?_lineStarts hrest.symm, Option.bind_eq_bind, Option.bind_some,
    Nat.ppred_succ, getElem?_lineStarts hrest.symm, hslice, String.toList_ofList]
  -- thirty-two bits are enough: neither number is larger than the text
  rw [Nat.mod_eq_of_lt, Nat.mod_eq_of_lt]
  · rfl
  · exact ((unitCount_lastLine_le front).trans hfront).trans_lt size
  · exact ((count_le_byteCount front).trans hfront).trans_lt size

/-- **Places by steps and by reading**: in a text of less than four gigabytes the place of an offset
is reached without a failing step. With the last offset up to it at which the text can be cut, the
line is the number of line breaks up to there, and the column is the number of units of sixteen bits
in what comes after the last of them. -/
theorem position_by_scan {text : String} (size : text.utf8ByteSize < 2 ^ 32) (offset : Nat) :
    locate? text offset = some ((ofText text).position offset) ∧
    ∃ stop front,
      IsGreatest {b | Boundary text b ∧ b ≤ min offset text.utf8ByteSize} stop ∧
      Span.text? ⟨0, stop⟩ text = some front ∧
      (ofText text).position offset =
        ⟨(toBytes front).count 0x0A, ((lastLine front.toList).flatMap Char.utf16).length⟩ :=
  ⟨locate?_eq size offset, liesAt_position text offset⟩

/-- An offset within a character that takes two units. -/
theorem position_by_scan_within :
    "é\n😀b".utf8ByteSize < 2 ^ 32 ∧ locate? "é\n😀b" 5 = some ⟨1, 0⟩ ∧
      locate? "é\n😀b" 7 = some ⟨1, 2⟩ := by
  have size : "é\n😀b".utf8ByteSize < 2 ^ 32 := by decide
  refine ⟨size, (position_by_scan size 5).1.trans ?_, (position_by_scan size 7).1.trans ?_⟩
  · decide
  · decide

end LineTable

end TestScout
