import Mathlib.Tactic.Lemma
import TestScout.Proofs.Regex.Reading

/-!
Which names the exact pattern of a declaration selects. The pattern is read as the start of the
text, the characters of the full name and a tail: the end of the text for a test, a space or the
end for a suite. The start leaves one place to search from, so the search comes down to a
comparison with the full name and what the tail asks of the character after it.
-/

namespace TestScout.Pattern

open Regex Regex.Reading

def atStart : Regex := Flags.initial.condition .textStart

def atEnd : Regex := Flags.initial.condition .textEnd

def spaceOrEnd : Regex := .alt (all [.one (.single ' ')]) (all [atEnd])

/-- What the pattern asks after the full name. -/
def tail : DeclarationKind → Regex
  | .suite => spaceOrEnd
  | .test => atEnd

/-! ### How the pattern is read -/

lemma run?_spaceOrEnd {r : Reading} (hf : r.flags = .initial) :
    r.run? ['(', ' ', '|', '$', ')'] = some (r.add spaceOrEnd) := by
  obtain ⟨flags, names, top, outer⟩ := r
  subst hf
  rw [run?_cons rfl, List.drop_zero, run?_cons rfl, List.drop_zero, run?_cons rfl, List.drop_zero,
    run?_cons rfl, List.drop_zero, run?_cons rfl, List.drop_zero, run?_nil]
  rfl

lemma run?_atEnd {r : Reading} (hf : r.flags = .initial) :
    r.run? ['$'] = some (r.add atEnd) := by
  obtain ⟨flags, names, top, outer⟩ := r
  subst hf
  rw [run?_cons rfl, List.drop_zero, run?_nil]
  rfl

def tailText : DeclarationKind → List Char
  | .suite => ['(', ' ', '|', '$', ')']
  | .test => ['$']

lemma run?_tail {r : Reading} (hf : r.flags = .initial) (k : DeclarationKind) :
    r.run? (tailText k) = some (r.add (tail k)) := by
  cases k with
  | suite => exact run?_spaceOrEnd hf
  | test => exact run?_atEnd hf

lemma toList_build (d : Declaration) :
    (build d .exactPath).toList =
      '^' :: (d.fullName.toList.flatMap escapeChar ++ tailText d.kind) := by
  unfold build
  cases hk : d.kind <;> simp [escape, tailText]

/-- The exact pattern is always an expression: the start, the full name, the tail. -/
theorem ofText?_build (d : Declaration) :
    Regex.ofText? (build d .exactPath) =
      some (all (atStart :: (literal d.fullName.toList ++ [tail d.kind]))) := by
  have hread : Reading.start.run? (build d .exactPath).toList =
      some (((Reading.start.add atStart).addAll (literal d.fullName.toList)).add
        (tail d.kind)) := by
    have hstart (rest : List Char) :
        Reading.start.step? '^' rest = some (Reading.start.add atStart, 0) := rfl
    rw [toList_build, run?_cons (hstart _), List.drop_zero, run?_escape rfl,
      run?_tail (by rw [addAll_eq]; rfl)]
  unfold Regex.ofText?
  rw [hread]
  simp [add, addAll_eq, OpenGroup.regex, OpenGroup.current, Regex.any, Reading.start,
    OpenGroup.start]

/-! ### What it selects -/

lemma isMatch_anchored {cs : List Char} {r : Regex} {s : String} :
    (all (atStart :: (literal cs ++ [r]))).isMatch s = true ↔
      cs <+: s.toList ∧ ∃ j, Leads s.toList.toArray r cs.length j := by
  rw [isMatch_iff]
  constructor
  · rintro ⟨i, hi, j, hlead⟩
    obtain ⟨k, hstart, hrest⟩ := leads_all_cons.mp hlead
    obtain ⟨rfl, rfl⟩ := (leads_textStart (by simpa using hi)).mp hstart
    obtain ⟨k, hlit, hr⟩ := leads_all_append.mp hrest
    obtain ⟨hpre, rfl⟩ := leads_literal.mp hlit
    exact ⟨by simpa using hpre, j, by simpa [leads_all_singleton] using hr⟩
  · rintro ⟨hpre, j, hr⟩
    refine ⟨0, Nat.zero_le _, j, leads_all_cons.mpr ⟨0, ?_, leads_all_append.mpr ?_⟩⟩
    · exact (leads_textStart (Nat.zero_le _)).mpr ⟨rfl, rfl⟩
    · exact ⟨cs.length, leads_literal.mpr ⟨by simpa using hpre, (Nat.zero_add _).symm⟩,
        leads_all_singleton.mpr hr⟩

lemma leads_atEnd {s : String} {i j : Nat} :
    Leads s.toList.toArray atEnd i j ↔ s.toList.length ≤ i ∧ j = i := by
  rw [atEnd, Flags.condition, leads_textEnd, List.size_toArray]

lemma leads_spaceOrEnd {s : String} {i j : Nat} :
    Leads s.toList.toArray spaceOrEnd i j ↔
      (j = i + 1 ∧ s.toList[i]? = some ' ') ∨ (s.toList.length ≤ i ∧ j = i) := by
  rw [spaceOrEnd, leads_alt, leads_all_singleton, leads_all_singleton, leads_single, leads_atEnd,
    List.getElem?_toArray]

lemma isMatch_test {n s : String} :
    (all (atStart :: (literal n.toList ++ [tail .test]))).isMatch s = true ↔ s = n := by
  rw [isMatch_anchored]
  constructor
  · rintro ⟨hpre, j, hend⟩
    obtain ⟨hlen, -⟩ := leads_atEnd.mp hend
    exact (String.toList_inj.mp (hpre.eq_of_length_le hlen)).symm
  · rintro rfl
    exact ⟨List.prefix_rfl, _, leads_atEnd.mpr ⟨Nat.le_refl _, rfl⟩⟩

lemma isMatch_suite {n s : String} :
    (all (atStart :: (literal n.toList ++ [tail .suite]))).isMatch s = true ↔
      s = n ∨ ∃ rest, s = n ++ " " ++ rest := by
  rw [isMatch_anchored]
  constructor
  · rintro ⟨hpre, j, htail⟩
    rcases leads_spaceOrEnd.mp htail with ⟨-, hspace⟩ | ⟨hlen, -⟩
    · obtain ⟨rest, hrest⟩ := hpre
      rw [← hrest, List.getElem?_append_right (Nat.le_refl _), Nat.sub_self] at hspace
      rcases rest with _ | ⟨c, rest⟩
      · simp at hspace
      · obtain rfl : c = ' ' := by simpa using hspace
        exact Or.inr ⟨String.ofList rest, String.toList_inj.mp (by simp [← hrest])⟩
    · exact Or.inl (String.toList_inj.mp (hpre.eq_of_length_le hlen)).symm
  · rintro (rfl | ⟨rest, rfl⟩)
    · exact ⟨List.prefix_rfl, _, leads_spaceOrEnd.mpr (Or.inr ⟨Nat.le_refl _, rfl⟩)⟩
    · refine ⟨by simp [String.toList_append], _, leads_spaceOrEnd.mpr (Or.inl ⟨rfl, ?_⟩)⟩
      simp [String.toList_append]

/-- The full names that a declaration is to select: its own, and for a suite those that go on
after a space. -/
def Covers (d : Declaration) (s : String) : Prop :=
  match d.kind with
  | .test => s = d.fullName
  | .suite => s = d.fullName ∨ ∃ rest, s = d.fullName ++ " " ++ rest

lemma covers_fullName (d : Declaration) : Covers d d.fullName := by
  unfold Covers
  cases d.kind
  · exact Or.inl rfl
  · rfl

lemma isMatch_exact {d : Declaration} {s : String} :
    (all (atStart :: (literal d.fullName.toList ++ [tail d.kind]))).isMatch s = true ↔
      Covers d s := by
  unfold Covers
  cases hk : d.kind with
  | suite => exact isMatch_suite
  | test => exact isMatch_test

lemma matches?_exactPath_iff {d : Declaration} {s : String} :
    matches? (build d .exactPath) s = some true ↔ Covers d s := by
  rw [← isMatch_exact, matches?, ofText?_build, Option.map_some, Option.some_inj]

/-- **Exact patterns**: the pattern of a declaration is always an expression. That of a test
matches its full name and nothing else, that of a suite also what goes on from it after a space. -/
theorem exactPath_selects (d : Declaration) (s : String) :
    ∃ selected, matches? (build d .exactPath) s = some selected ∧
      (selected = true ↔
        match d.kind with
        | .test => s = d.fullName
        | .suite => s = d.fullName ∨ ∃ rest, s = d.fullName ++ " " ++ rest) := by
  refine ⟨_, ?_, isMatch_exact⟩
  rw [matches?, ofText?_build, Option.map_some]

end TestScout.Pattern
