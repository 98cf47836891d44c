import TestScout.Proofs.Pattern.Exact
import TestScout.Proofs.Walk.Nesting

/-!
The exact pattern of a suite and what the suite encloses. A call inside the call of a suite is
reached among the names of the suite's path, so its own path goes on from there; joined by spaces,
its full name goes on from the suite's after a space, and so does every name below it.
-/

namespace TestScout.Pattern

open Syntax Syntax.Node Walk

variable {m : Markers} {file : Path} {text : String}

lemma path_of_enclosed {tree : Node} {a b : List Nat} {d e : Declaration}
    (hd : (a, d) ∈ located m file text tree) (he : (b, e) ∈ located m file text tree)
    (hab : a <+: b) (hne : a ≠ b) : ∃ between, e.ancestors = d.path ++ between := by
  obtain ⟨n, hn, hdecl⟩ := Option.bind_eq_some_iff.mp (mem_located.mp hd)
  obtain ⟨below, hbelow, -⟩ := Option.bind_eq_some_iff.mp (mem_located.mp he)
  obtain ⟨c, rfl⟩ := hab
  rcases c with _ | ⟨i, c⟩
  · exact absurd (List.append_nil a).symm hne
  rw [at?_append, hn, Option.bind_some, at?_cons] at hbelow
  obtain ⟨child, hchild, -⟩ := Option.bind_eq_some_iff.mp hbelow
  have hname : nameOf? m file text n = some d.name := by
    rw [declaration?_eq_map] at hdecl
    obtain ⟨d', hd', rfl⟩ := Option.map_eq_some_iff.mp hdecl
    rw [nameOf?, hd']; rfl
  refine ⟨namesAround m file text child c, ?_⟩
  rw [ancestors_of_mem_located he, namesAround_append hn, namesAround_cons hchild, hname,
    Declaration.path, ancestors_of_mem_located hd, Option.toList_some, List.append_assoc]

lemma fullName_of_path {d e : Declaration} {between : List String}
    (h : e.ancestors = d.path ++ between) : ∃ rest, e.fullName = d.fullName ++ " " ++ rest := by
  refine ⟨" ".intercalate (between ++ [e.name]), ?_⟩
  rw [Declaration.fullName, Declaration.path, h, List.append_assoc,
    String.intercalate_append_of_ne_nil (by simp [Declaration.path]) (by simp)]
  rfl

lemma Covers.of_extends {d e : Declaration} (hk : d.kind = .suite)
    (h : ∃ rest, e.fullName = d.fullName ++ " " ++ rest) {s : String} (hs : Covers e s) :
    Covers d s := by
  obtain ⟨rest, hrest⟩ := h
  have hown : s = e.fullName ∨ ∃ more, s = e.fullName ++ " " ++ more := by
    unfold Covers at hs
    cases he : e.kind <;> rw [he] at hs
    · exact hs
    · exact Or.inl hs
  unfold Covers
  rw [hk]
  rcases hown with rfl | ⟨more, rfl⟩
  · exact Or.inr ⟨rest, hrest⟩
  · exact Or.inr ⟨rest ++ " " ++ more, by rw [hrest]; simp only [String.append_assoc]⟩

/-- **Running a suite covers what is nested in it**: of two declarations that a walk finds, the
pattern of a suite matches whatever the pattern of one inside its call matches, in particular the
full name of that one. -/
theorem suite_pattern_covers_enclosed (m : Markers) (file : Path) (text : String) (tree : Node)
    {a b : List Nat} {d e : Declaration} (hd : (a, d) ∈ located m file text tree)
    (he : (b, e) ∈ located m file text tree) (suite : d.kind = .suite) (enclosed : a <+: b)
    (strictly : a ≠ b) :
    (through m file text tree never).declarations = (located m file text tree).map (·.2) ∧
    (∀ s, matches? (build e .exactPath) s = some true →
      matches? (build d .exactPath) s = some true) ∧
    matches? (build d .exactPath) e.fullName = some true := by
  obtain ⟨between, hpath⟩ := path_of_enclosed hd he enclosed strictly
  have hcover {s : String} : Covers e s → Covers d s :=
    Covers.of_extends suite (fullName_of_path hpath)
  refine ⟨?_, fun s hs => ?_, ?_⟩
  · rw [through_eq_pass, pass_never, ← found_eq_located, found_eq_filterMap, List.nil_append]
  · exact matches?_exactPath_iff.mpr (hcover (matches?_exactPath_iff.mp hs))
  · exact matches?_exactPath_iff.mpr (hcover (covers_fullName e))

/-- A suite covers a test in a suite without a name that it encloses. -/
theorem suite_pattern_matches_enclosed_test :
    matches? (build ⟨.suite, .ofString "/a.test.ts", ⟨9, 13⟩, "A+", []⟩ .exactPath) "A+  B C" =
      some true := by
  let source := Source.ofText (.ofString "/a.test.ts")
    "describe('A+', () => \x7b describe('', () => \x7b it('B C', () => \x7b\x7d) \x7d) \x7d)"
  let m : Markers := ⟨["describe"], ["it"]⟩
  have hlocated : located m source.path source.text source.tree =
      [([0, 0], ⟨.suite, source.path, ⟨9, 13⟩, "A+", []⟩),
        ([0, 0, 1, 1, 1, 0, 0], ⟨.suite, source.path, ⟨32, 34⟩, "", ["A+"]⟩),
        ([0, 0, 1, 1, 1, 0, 0, 1, 1, 1, 0, 0],
          ⟨.test, source.path, ⟨47, 52⟩, "B C", ["A+", ""]⟩)] := by
    decide +kernel
  have hsuite := hlocated ▸ List.mem_cons_self
  have htest := hlocated ▸ List.mem_cons_of_mem _ (List.mem_cons_of_mem _ List.mem_cons_self)
  exact (suite_pattern_covers_enclosed m source.path source.text source.tree hsuite htest rfl
    (by decide) (by decide)).2.2

end TestScout.Pattern
