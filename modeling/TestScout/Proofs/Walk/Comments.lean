import Mathlib.Data.List.Forall2
import TestScout.Proofs.Walk.Call

/-!
Comments change nothing. Whatever a match asks for among the children of a node, the callee, the
arguments, the parts of the grammar, a substitution, it never asks for a comment; so it sees the
same children, less some comments of their own, in a tree from which comments have been taken away.
A comment itself declares nothing, and there is nothing below it.
-/

namespace TestScout

namespace Syntax.Node

/-- A comment stands outside the grammar, plays no part in its parent and has no children; nor is
it a substitution, which keeps a template from being a literal. -/
def isComment (n : Node) : Bool :=
  n.extra && n.children.isEmpty && n.role = .other && n.kind ≠ .substitution

mutual

/-- The tree without those of its comments whose addresses are picked. -/
def without (picked : List Nat → Bool) : Node → Node
  | node l cs => node l (withoutFrom picked 0 cs)

/-- The `i`th child of a node and those after it, without the comments among them and in them whose
addresses are picked. -/
def withoutFrom (picked : List Nat → Bool) (i : Nat) : List Node → List Node
  | [] => []
  | c :: cs =>
    if isComment c && picked [i] then withoutFrom picked (i + 1) cs
    else without (fun a => picked (i :: a)) c :: withoutFrom picked (i + 1) cs

end

/-- The second tree is the first without some of its comments. -/
def Sheds (c d : Node) : Prop := ∃ picked, d = c.without picked

variable {picked : List Nat → Bool} {n c d : Node}

lemma isComment_iff : isComment n = true ↔
    n.extra = true ∧ n.children = [] ∧ n.role = .other ∧ n.kind ≠ .substitution := by
  simp [isComment, and_assoc]

lemma children_without (n : Node) :
    (n.without picked).children = withoutFrom picked 0 n.children := by
  cases n; rw [without]; rfl

lemma Sheds.label (h : Sheds c d) : d.label = c.label := by
  obtain ⟨picked, rfl⟩ := h
  cases c; rw [without]; rfl

lemma Sheds.kind (h : Sheds c d) : d.kind = c.kind := congrArg Label.kind h.label

lemma Sheds.span (h : Sheds c d) : d.span = c.span := congrArg Label.span h.label

/-! ### What is found among the children -/

lemma head?_of_forall₂ {α β : Type} {R : α → β → Prop} {l : List α} {k : List β}
    (h : List.Forall₂ R l k) :
    (l.head? = none ∧ k.head? = none) ∨
      ∃ x y, l.head? = some x ∧ k.head? = some y ∧ R x y := by
  cases h with
  | nil => exact Or.inl ⟨rfl, rfl⟩
  | cons hxy _ => exact Or.inr ⟨_, _, rfl, rfl, hxy⟩

lemma sheds_filter {p : Label → Bool} (hp : ∀ c, isComment c = true → p c.label = false)
    (i : Nat) (cs : List Node) :
    List.Forall₂ Sheds (cs.filter fun c => p c.label)
      ((withoutFrom picked i cs).filter fun c => p c.label) := by
  induction cs generalizing i with
  | nil => exact List.Forall₂.nil
  | cons c cs ih =>
      rw [withoutFrom]
      split
      · next hgone =>
        rw [Bool.and_eq_true] at hgone
        rw [List.filter_cons_of_neg (by rw [hp c hgone.1]; exact Bool.false_ne_true)]
        exact ih (i + 1)
      · have hsheds : Sheds c (c.without fun a => picked (i :: a)) := ⟨_, rfl⟩
        rw [List.filter_cons, List.filter_cons, hsheds.label]
        split
        · exact List.Forall₂.cons hsheds (ih (i + 1))
        · exact ih (i + 1)

lemma Sheds.parts (h : Sheds c d) : List.Forall₂ Sheds c.parts d.parts := by
  obtain ⟨picked, rfl⟩ := h
  rw [Node.parts, Node.parts, children_without]
  refine @sheds_filter picked (fun l => !l.extra) (fun n hn => ?_) 0 c.children
  exact congrArg (!·) (isComment_iff.mp hn).1

lemma Sheds.child? (h : Sheds c d) {role : Role} (hrole : role ≠ .other) :
    (c.child? role = none ∧ d.child? role = none) ∨
      ∃ e f, c.child? role = some e ∧ d.child? role = some f ∧ Sheds e f := by
  obtain ⟨picked, rfl⟩ := h
  have hsheds := @sheds_filter picked (fun l => l.role = role)
    (fun n hn => decide_eq_false fun heq => hrole (heq ▸ (isComment_iff.mp hn).2.2.1)) 0 c.children
  rw [Node.child?, Node.child?, children_without, ← List.head?_filter, ← List.head?_filter]
  exact head?_of_forall₂ hsheds

lemma Sheds.all_ne_substitution (h : Sheds c d) :
    (d.children.all fun e => e.kind ≠ .substitution) =
      c.children.all fun e => e.kind ≠ .substitution := by
  obtain ⟨picked, rfl⟩ := h
  have hsheds := @sheds_filter picked (fun l => l.kind = .substitution)
    (fun n hn => decide_eq_false (isComment_iff.mp hn).2.2.2) 0 c.children
  have hnone (es : List Node) : (∀ e ∈ es, decide (e.kind ≠ .substitution) = true) ↔
      (es.filter fun e => e.label.kind = .substitution).length = 0 := by
    rw [← List.countP_eq_length_filter, List.countP_eq_zero]
    refine forall₂_congr fun e _ => ?_
    rw [decide_eq_true_eq, decide_eq_true_eq]
    rfl
  rw [Bool.eq_iff_iff, List.all_eq_true, List.all_eq_true, hnone, hnone, children_without,
    hsheds.length_eq]

end Syntax.Node

namespace Walk

open Syntax Syntax.Node

variable {m : Markers} {file : Path} {text : String} {n c d : Node}

/-! ### What a match sees -/

lemma isFunction_of_sheds (h : Sheds c d) : isFunction d = isFunction c := by
  rw [isFunction, isFunction, h.kind]

lemma isPlainText_of_sheds (h : Sheds c d) : isPlainText d = isPlainText c := by
  rw [isPlainText, isPlainText, h.kind, h.all_ne_substitution]

lemma literalText?_of_sheds (h : Sheds c d) : literalText? text d = literalText? text c := by
  rw [literalText?, literalText?, isPlainText_of_sheds h, h.span]

lemma calleeName?_of_sheds (h : Sheds c d) : calleeName? text d = calleeName? text c := by
  rw [calleeName?, calleeName?, h.kind]
  rcases @Sheds.child? c d h .callee (by decide) with ⟨hc, hd⟩ | ⟨e, f, hc, hd, hef⟩
  · rw [hc, hd]
  · rw [hc, hd, Option.bind_some, Option.bind_some, hef.kind, hef.span]

lemma firstArguments?_of_sheds (h : Sheds c d) :
    (firstArguments? c = none ∧ firstArguments? d = none) ∨
      ∃ literal literal' function function',
        firstArguments? c = some (literal, function) ∧
          firstArguments? d = some (literal', function') ∧
            Sheds literal literal' ∧ Sheds function function' := by
  unfold firstArguments?
  rcases @Sheds.child? c d h .arguments (by decide) with ⟨hc, hd⟩ | ⟨e, f, hc, hd, hef⟩
  · rw [hc, hd]
    exact Or.inl ⟨rfl, rfl⟩
  · rw [hc, hd, Option.bind_some, Option.bind_some, hef.kind]
    split
    · have hparts := hef.parts
      generalize e.parts = es, f.parts = fs at hparts
      cases hparts with
      | nil => exact Or.inl ⟨rfl, rfl⟩
      | cons hliteral hrest =>
          cases hrest with
          | nil => exact Or.inl ⟨rfl, rfl⟩
          | cons hfunction _ => exact Or.inr ⟨_, _, _, _, rfl, rfl, hliteral, hfunction⟩
    · exact Or.inl ⟨rfl, rfl⟩

lemma title?_of_sheds (h : Sheds c d) : title? text d = title? text c := by
  rw [title?, title?]
  rcases firstArguments?_of_sheds h with
    ⟨hc, hd⟩ | ⟨literal, literal', function, function', hc, hd, hliteral, hfunction⟩
  · rw [hc, hd]
  · rw [hc, hd, Option.bind_some, Option.bind_some, isFunction_of_sheds hfunction,
      literalText?_of_sheds hliteral, hliteral.span]

lemma declaration?_of_sheds (h : Sheds c d) (path : List String) :
    declaration? m file text path d = declaration? m file text path c := by
  rw [declaration?_eq_bind, declaration?_eq_bind, calleeName?_of_sheds h, title?_of_sheds h]

/-! ### The walk -/

lemma found_comment (hc : isComment c = true) (path : List String) :
    found m file text path c = [] := by
  obtain ⟨l, cs⟩ := c
  obtain rfl : cs = [] := (isComment_iff.mp hc).2.1
  have hnone : declaration? m file text path (node l []) = none := by
    have hcallee : calleeName? text (node l []) = none := by
      unfold calleeName?
      split <;> rfl
    rw [declaration?_eq_bind, hcallee, Option.bind_none]
  rw [found, hnone]
  rfl

lemma foundIn_withoutFrom {cs : List Node}
    (ih : ∀ c ∈ cs, ∀ picked path,
      found m file text path (c.without picked) = found m file text path c)
    (picked : List Nat → Bool) (i : Nat) (path : List String) :
    foundIn m file text path (withoutFrom picked i cs) = foundIn m file text path cs := by
  induction cs generalizing i with
  | nil => rfl
  | cons c cs ihcs =>
      have hrest := ihcs (fun d hd => ih d (List.mem_cons_of_mem _ hd)) (i + 1)
      rw [withoutFrom, foundIn]
      split
      · next hgone =>
        rw [Bool.and_eq_true] at hgone
        rw [hrest, found_comment hgone.1, List.nil_append]
      · rw [foundIn, hrest, ih c List.mem_cons_self]

lemma found_without (n : Node) (picked : List Nat → Bool) (path : List String) :
    found m file text path (n.without picked) = found m file text path n := by
  induction n using induct generalizing picked path with
  | step l cs ih =>
      have hhere : declaration? m file text path (node l (withoutFrom picked 0 cs)) =
          declaration? m file text path (node l cs) :=
        declaration?_of_sheds ⟨picked, by rw [without]⟩ path
      have hbelow (below : List String) :=
        @foundIn_withoutFrom m file text cs (fun c hc => ih c hc) picked 0 below
      rw [without, found, found, hhere]
      split
      · rw [hbelow]
      · exact hbelow path

/-- **Comments never change what is found**: a walk that is never cancelled finds in a tree without
any of its comments what it finds with them. -/
theorem declarations_without_comments (m : Markers) (file : Path) (text : String) (tree : Node)
    (picked : List Nat → Bool) :
    (through m file text (tree.without picked) never).declarations =
        (through m file text tree never).declarations ∧
      (through m file text (tree.without picked) never).complete =
        (through m file text tree never).complete := by
  rw [through_never, through_never, found_without]
  exact ⟨rfl, rfl⟩

/-- Three comments of a call, one before its arguments and two among them. -/
example :
    let source := Source.ofText (.ofString "/a.test.ts") "it/* a */('b', /* c */ x => 1 /* d */)"
    (source.tree.without fun _ => true).size + 3 = source.tree.size := by
  decide +kernel

end Walk

end TestScout
