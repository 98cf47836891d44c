import TestScout.Proofs.Pattern.Exact
import TestScout.Proofs.Walk.Preorder

/-!
What exact patterns see of a path. The runner knows a declaration by the names of its path with
spaces between them, so where one name ends and the next begins is lost as soon as a name has a
space of its own. What is kept is the row of words: an exact pattern selects by the words of the
path, and by the path itself where every name is one word.
-/

namespace TestScout

namespace Pattern

/-! ### Words -/

/-- The words of a text: what stands before, between and after its spaces. -/
def words (text : String) : List String := (text.toList.splitOn ' ').map String.ofList

lemma words_ne_nil (text : String) : words text ≠ [] := by simp [words]

lemma words_append (a b : String) : words (a ++ " " ++ b) = words a ++ words b := by
  have htext : (a ++ " " ++ b).toList = a.toList ++ ' ' :: b.toList := by
    rw [String.toList_append, String.toList_append, List.append_assoc]
    rfl
  rw [words, htext, List.splitOn_append_cons_self, List.map_append]
  rfl

lemma words_of_not_mem {text : String} (h : ' ' ∉ text.toList) : words text = [text] := by
  rw [words, List.splitOn_eq_singleton h, List.map_singleton, String.ofList_toList]

/-- A text is its words with a space between any two. -/
lemma intercalate_words (text : String) : " ".intercalate (words text) = text := by
  refine String.toList_inj.mp ?_
  rw [String.toList_intercalate, words, List.map_map]
  simp [Function.comp_def]

lemma words_inj {a b : String} : words a = words b ↔ a = b := by
  refine ⟨fun h => ?_, congrArg words⟩
  rw [← intercalate_words a, h, intercalate_words]

/-- One text goes on from another after a space just when its words go on. -/
lemma words_prefix_iff {a b : String} :
    words a <+: words b ↔ b = a ∨ ∃ rest, b = a ++ " " ++ rest := by
  constructor
  · rintro ⟨more, hmore⟩
    by_cases hnil : more = []
    · rw [hnil, List.append_nil] at hmore
      exact Or.inl (words_inj.mp hmore.symm)
    · refine Or.inr ⟨" ".intercalate more, ?_⟩
      rw [← intercalate_words b, ← hmore,
        String.intercalate_append_of_ne_nil (words_ne_nil a) hnil, intercalate_words]
  · rintro (rfl | ⟨rest, rfl⟩)
    · exact List.prefix_rfl
    · exact ⟨words rest, (words_append a rest).symm⟩

lemma words_intercalate {names : List String} (h : names ≠ []) :
    words (" ".intercalate names) = names.flatMap words := by
  induction names with
  | nil => exact absurd rfl h
  | cons name names ih =>
      by_cases hnil : names = []
      · simp [hnil]
      · rw [String.intercalate_cons_of_ne_nil hnil, words_append, ih hnil, List.flatMap_cons]

lemma flatMap_words_of_forall {names : List String} (h : ∀ name ∈ names, ' ' ∉ name.toList) :
    names.flatMap words = names := by
  induction names with
  | nil => rfl
  | cons name names ih =>
      rw [List.flatMap_cons, words_of_not_mem (h name List.mem_cons_self),
        ih fun n hn => h n (List.mem_cons_of_mem _ hn), List.singleton_append]

end Pattern

namespace Declaration

def words (d : Declaration) : List String := d.path.flatMap Pattern.words

lemma words_fullName (d : Declaration) : Pattern.words d.fullName = d.words :=
  Pattern.words_intercalate (by simp [path])

lemma words_of_forall {d : Declaration} (h : ∀ name ∈ d.path, ' ' ∉ name.toList) :
    d.words = d.path :=
  Pattern.flatMap_words_of_forall h

lemma words_prefix {d e : Declaration} (h : d.path <+: e.path) : d.words <+: e.words := by
  obtain ⟨more, hmore⟩ := h
  exact ⟨more.flatMap Pattern.words, by rw [words, words, ← hmore, List.flatMap_append]⟩

lemma name_eq_of_words {d e : Declaration} (hancestors : e.ancestors = d.ancestors)
    (h : e.words = d.words) : e.name = d.name := by
  rw [words, words, path, path, hancestors, List.flatMap_append, List.flatMap_append] at h
  exact Pattern.words_inj.mp (by simpa using h)

end Declaration

namespace Pattern

variable {d e : Declaration}

lemma covers_fullName_iff : Covers d e.fullName ↔
    e.words = d.words ∨ d.kind = .suite ∧ d.words <+: e.words := by
  have hname : e.fullName = d.fullName ↔ e.words = d.words := by
    rw [← words_inj, e.words_fullName, d.words_fullName]
  have hbelow : (e.fullName = d.fullName ∨ ∃ rest, e.fullName = d.fullName ++ " " ++ rest) ↔
      d.words <+: e.words := by
    rw [← words_prefix_iff, e.words_fullName, d.words_fullName]
  unfold Covers
  cases hk : d.kind with
  | test => simp [hname]
  | suite =>
      simp only [hbelow, true_and]
      exact ⟨Or.inr, fun h => h.elim (fun heq => heq ▸ List.prefix_rfl) id⟩

/-- **Selecting by words**: the exact pattern of a declaration selects another one just when the
words of their paths agree, or go on from those of a suite. So it selects what has the same path,
and what is below the path of a suite; it selects nothing else as long as no name of the two paths
has a space in it, and, for a test, nothing else among its siblings whatever their names are. -/
theorem exactPath_selects_words (d e : Declaration) :
    (matches? (build d .exactPath) e.fullName = some true ↔
      e.words = d.words ∨ d.kind = .suite ∧ d.words <+: e.words) ∧
    ((e.path = d.path ∨ d.kind = .suite ∧ d.path <+: e.path) →
      matches? (build d .exactPath) e.fullName = some true) ∧
    ((∀ name ∈ d.path ++ e.path, ' ' ∉ name.toList) →
      (matches? (build d .exactPath) e.fullName = some true ↔
        e.path = d.path ∨ d.kind = .suite ∧ d.path <+: e.path)) ∧
    (d.kind = .test → e.ancestors = d.ancestors →
      (matches? (build d .exactPath) e.fullName = some true ↔ e.path = d.path)) := by
  have hwords : matches? (build d .exactPath) e.fullName = some true ↔
      e.words = d.words ∨ d.kind = .suite ∧ d.words <+: e.words :=
    matches?_exactPath_iff.trans covers_fullName_iff
  refine ⟨hwords, fun hpath => hwords.mpr ?_, fun hspace => ?_, fun htest hancestors => ?_⟩
  · rcases hpath with heq | ⟨hsuite, hbelow⟩
    · exact Or.inl (by rw [Declaration.words, heq, Declaration.words])
    · exact Or.inr ⟨hsuite, Declaration.words_prefix hbelow⟩
  · rw [hwords, Declaration.words_of_forall fun n hn => hspace n (List.mem_append_left _ hn),
      Declaration.words_of_forall fun n hn => hspace n (List.mem_append_right _ hn)]
  · rw [hwords, htest]
    constructor
    · rintro (heq | ⟨hkind, -⟩)
      · rw [Declaration.path, Declaration.path, hancestors,
          Declaration.name_eq_of_words hancestors heq]
      · cases hkind
    · intro heq
      exact Or.inl (by rw [Declaration.words, heq, Declaration.words])

/-- A file with a suite, a test in it and a test beside it. -/
def exampleSource : Syntax.Source :=
  .ofText (.ofString "/a.test.ts")
    "describe('A', () => \x7b it('B', () => \x7b\x7d) \x7d); it('A B', () => \x7b\x7d)"

def exampleSuite : Declaration := ⟨.suite, .ofString "/a.test.ts", ⟨9, 12⟩, "A", []⟩

def exampleInside : Declaration := ⟨.test, .ofString "/a.test.ts", ⟨25, 28⟩, "B", ["A"]⟩

def exampleBeside : Declaration := ⟨.test, .ofString "/a.test.ts", ⟨47, 52⟩, "A B", []⟩

/-- The name of a test beside a suite goes on from the name of the suite after a space: the pattern
of the suite selects the test, which is not below it. The test inside has another path than the one
beside and the same words: its pattern selects both. -/
theorem exactPath_selects_outside :
    (discover ⟨["describe"], ["it"]⟩ exampleSource Walk.never).declarations =
      [exampleSuite, exampleInside, exampleBeside] ∧
    matches? (build exampleSuite .exactPath) exampleBeside.fullName = some true ∧
    ¬ (exampleBeside.path = exampleSuite.path ∨
      exampleSuite.kind = .suite ∧ exampleSuite.path <+: exampleBeside.path) ∧
    matches? (build exampleInside .exactPath) exampleBeside.fullName = some true ∧
    ¬ (exampleBeside.path = exampleInside.path ∨
      exampleInside.kind = .suite ∧ exampleInside.path <+: exampleBeside.path) := by
  refine ⟨?_, by decide +kernel⟩
  rw [discover, Walk.through_eq_pass, Walk.pass_never]
  decide +kernel

end Pattern

end TestScout
