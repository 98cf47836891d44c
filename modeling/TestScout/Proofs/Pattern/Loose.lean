import TestScout.Proofs.Pattern.Exact
import TestScout.Proofs.Walk.Preorder

/-!
Which names the loose pattern of a declaration selects, and whether a pattern selects the
declaration it was built for. The loose pattern is read as a space, the characters of the name and
a tail: the end of the text or a space. It matches wherever these stand in a row. It asks for a
space before the name and does not take the start of the text instead, so it selects the full name
of its own declaration only where the full name begins with the names of other declarations.
-/

namespace TestScout.Pattern

open Regex Regex.Reading

def endOrSpace : Regex := .alt (all [atEnd]) (all [.one (.single ' ')])

/-! ### How the pattern is read -/

lemma run?_endOrSpace {r : Reading} (hf : r.flags = .initial) :
    r.run? ['(', '$', '|', ' ', ')'] = some (r.add endOrSpace) := by
  obtain ⟨flags, names, top, outer⟩ := r
  subst hf
  rw [run?_cons rfl, List.drop_zero, run?_cons rfl, List.drop_zero, run?_cons rfl, List.drop_zero,
    run?_cons rfl, List.drop_zero, run?_cons rfl, List.drop_zero, run?_nil]
  rfl

lemma toList_build_loose (d : Declaration) :
    (build d .loose).toList =
      (' ' :: d.name.toList).flatMap escapeChar ++ ['(', '$', '|', ' ', ')'] := by
  have hspace : escapeChar ' ' = [' '] := by decide
  unfold build
  simp [escape, hspace]

/-- The loose pattern is always an expression: a space, the name, the tail. -/
theorem ofText?_build_loose (d : Declaration) :
    Regex.ofText? (build d .loose) =
      some (all (literal (' ' :: d.name.toList) ++ [endOrSpace])) := by
  have hread : Reading.start.run? (build d .loose).toList =
      some ((Reading.start.addAll (literal (' ' :: d.name.toList))).add endOrSpace) := by
    rw [toList_build_loose, run?_escape rfl, run?_endOrSpace (by rw [addAll_eq]; rfl)]
  unfold Regex.ofText?
  rw [hread]
  simp [add, addAll_eq, OpenGroup.regex, OpenGroup.current, Regex.any, Reading.start,
    OpenGroup.start]

/-! ### What it selects -/

/-- An expression that begins with some characters matches after some place where they stand. -/
lemma isMatch_unanchored {cs : List Char} {r : Regex} {s : String} :
    (all (literal cs ++ [r])).isMatch s = true ↔
      ∃ before after, s.toList = before ++ cs ++ after ∧
        ∃ j, Leads s.toList.toArray r (before ++ cs).length j := by
  rw [isMatch_iff]
  constructor
  · rintro ⟨i, hi, j, hlead⟩
    obtain ⟨k, hlit, hr⟩ := leads_all_append.mp hlead
    obtain ⟨⟨after, hafter⟩, rfl⟩ := leads_literal.mp hlit
    refine ⟨s.toList.take i, after, ?_, j, ?_⟩
    · rw [List.append_assoc, hafter]
      exact (List.take_append_drop i s.toList).symm
    · rw [List.length_append, List.length_take, Nat.min_eq_left hi]
      exact leads_all_singleton.mp hr
  · rintro ⟨before, after, hs, j, hr⟩
    have hdrop : s.toList.drop before.length = cs ++ after := by
      rw [hs, List.append_assoc, List.drop_left]
    refine ⟨before.length, ?_, j, leads_all_append.mpr ⟨_, leads_literal.mpr ⟨?_, rfl⟩, ?_⟩⟩
    · rw [hs, List.length_append, List.length_append]
      omega
    · exact ⟨after, hdrop.symm⟩
    · rw [← List.length_append]
      exact leads_all_singleton.mpr hr

lemma leads_endOrSpace {s : String} {i j : Nat} :
    Leads s.toList.toArray endOrSpace i j ↔
      (s.toList.length ≤ i ∧ j = i) ∨ (j = i + 1 ∧ s.toList[i]? = some ' ') := by
  rw [endOrSpace, leads_alt, leads_all_singleton, leads_all_singleton, leads_single, leads_atEnd,
    List.getElem?_toArray]

lemma exists_leads_endOrSpace {s : String} {front after : List Char}
    (hs : s.toList = front ++ after) :
    (∃ j, Leads s.toList.toArray endOrSpace front.length j) ↔
      after = [] ∨ ∃ rest, after = ' ' :: rest := by
  have hnext : s.toList[front.length]? = after.head? := by
    rw [hs, List.getElem?_append_right (Nat.le_refl _), Nat.sub_self, List.head?_eq_getElem?]
  simp only [leads_endOrSpace, hnext]
  cases after with
  | nil =>
      have hlen : s.toList.length ≤ front.length := Nat.le_of_eq (by rw [hs, List.append_nil])
      exact ⟨fun _ => Or.inl rfl, fun _ => ⟨_, Or.inl ⟨hlen, rfl⟩⟩⟩
  | cons c after =>
      have hlen : ¬ s.toList.length ≤ front.length := by
        rw [hs, List.length_append, List.length_cons]
        omega
      constructor
      · rintro ⟨j, ⟨hle, -⟩ | ⟨-, hspace⟩⟩
        · exact absurd hle hlen
        · obtain rfl : c = ' ' := by simpa using hspace
          exact Or.inr ⟨after, rfl⟩
      · rintro (hnil | ⟨rest, hrest⟩)
        · cases hnil
        · obtain ⟨rfl, rfl⟩ := List.cons.inj hrest
          exact ⟨_, Or.inr ⟨rfl, rfl⟩⟩

/-- The full names that a loose pattern selects: those in which the name stands after a space, with
a space or nothing after it. -/
def Mentions (d : Declaration) (s : String) : Prop :=
  ∃ before after, s = before ++ " " ++ d.name ++ after ∧
    (after = "" ∨ ∃ rest, after = " " ++ rest)

lemma isMatch_loose {d : Declaration} {s : String} :
    (all (literal (' ' :: d.name.toList) ++ [endOrSpace])).isMatch s = true ↔ Mentions d s := by
  rw [isMatch_unanchored]
  constructor
  · rintro ⟨before, after, hs, htail⟩
    refine ⟨String.ofList before, String.ofList after, ?_, ?_⟩
    · exact String.toList_inj.mp (by simp [hs])
    · rcases (exists_leads_endOrSpace hs).mp htail with rfl | ⟨rest, rfl⟩
      · exact Or.inl rfl
      · exact Or.inr ⟨String.ofList rest, String.toList_inj.mp (by simp)⟩
  · rintro ⟨before, after, rfl, hafter⟩
    have hs : (before ++ " " ++ d.name ++ after).toList =
        before.toList ++ (' ' :: d.name.toList) ++ after.toList := by simp
    refine ⟨before.toList, after.toList, hs, (exists_leads_endOrSpace hs).mpr ?_⟩
    rcases hafter with rfl | ⟨rest, rfl⟩
    · exact Or.inl rfl
    · exact Or.inr ⟨rest.toList, by simp⟩

/-- **Loose patterns**: the pattern of a declaration is always an expression. It matches the texts
in which the name stands somewhere after a space, with a space or nothing after it. -/
theorem loose_selects (d : Declaration) (s : String) :
    ∃ selected, matches? (build d .loose) s = some selected ∧
      (selected = true ↔
        ∃ before after, s = before ++ " " ++ d.name ++ after ∧
          (after = "" ∨ ∃ rest, after = " " ++ rest)) := by
  refine ⟨_, ?_, isMatch_loose⟩
  rw [matches?, ofText?_build_loose, Option.map_some]

/-! ### The declaration itself -/

/-- The name of a declaration stands after a space in its full name if other names come first, and
in no other case: without them the full name is the name, which is too short. -/
lemma mentions_fullName {d : Declaration} : Mentions d d.fullName ↔ d.ancestors ≠ [] := by
  constructor
  · rintro ⟨before, after, hfull, -⟩ hnone
    have hname : d.fullName = d.name := by
      rw [Declaration.fullName, Declaration.path, hnone, List.nil_append,
        String.intercalate_singleton]
    have hlength := congrArg String.length (hname.symm.trans hfull)
    simp only [String.length_append] at hlength
    have hspace : " ".length = 1 := rfl
    omega
  · intro hsome
    refine ⟨" ".intercalate d.ancestors, "", ?_, Or.inl rfl⟩
    rw [Declaration.fullName, Declaration.path,
      String.intercalate_append_of_ne_nil hsome (List.cons_ne_nil _ _),
      String.intercalate_singleton, String.append_empty]

/-- **A pattern and the declaration it was built for**: every pattern is an expression. An exact one
always selects its own declaration; a loose one does just when there are declarations around it. -/
theorem selects_own_fullName (d : Declaration) (policy : PatternPolicy) :
    ∃ selected, matches? (build d policy) d.fullName = some selected ∧
      (selected = true ↔ policy = .exactPath ∨ d.ancestors ≠ []) := by
  cases policy with
  | loose =>
      refine ⟨_, by rw [matches?, ofText?_build_loose, Option.map_some], ?_⟩
      rw [isMatch_loose, mentions_fullName]
      exact ⟨Or.inr, fun h => h.resolve_left (by decide)⟩
  | exactPath =>
      refine ⟨_, by rw [matches?, ofText?_build, Option.map_some], ?_⟩
      exact ⟨fun _ => Or.inl rfl, fun _ => isMatch_exact.mpr (covers_fullName d)⟩

/-- A test that stands alone in its file is not selected by its loose pattern. -/
theorem loose_misses_outermost :
    (discover ⟨["describe"], ["it"]⟩
      (.ofText (.ofString "/a.test.ts") "it('B', () => \x7b\x7d)") Walk.never).declarations =
      [⟨.test, .ofString "/a.test.ts", ⟨3, 6⟩, "B", []⟩] ∧
    matches? (build ⟨.test, .ofString "/a.test.ts", ⟨3, 6⟩, "B", []⟩ .loose)
      (Declaration.fullName ⟨.test, .ofString "/a.test.ts", ⟨3, 6⟩, "B", []⟩) = some false := by
  refine ⟨?_, by decide +kernel⟩
  rw [discover, Walk.through_eq_pass, Walk.pass_never]
  decide +kernel

end TestScout.Pattern
