import Mathlib.Tactic.Lemma
import TestScout.Walk

/-!
Places in a syntax tree. A node is found again by its address, the numbers of the children to go
down through from the root; one node encloses another if its address is a beginning of the
other's. The addresses of a tree, listed as a plain recursion lists them, are all addresses that
lead to a node, and they rise strictly in the lexicographic order, in which a beginning comes
first and siblings follow one another: that is what pre-order means.
-/

namespace TestScout.Syntax.Node

/-- Induction over a tree, with the claim for all children at hand. -/
theorem induct {motive : Node → Prop}
    (step : ∀ l cs, (∀ c ∈ cs, motive c) → motive (node l cs)) : ∀ n, motive n
  | node l cs => step l cs fun c _ => induct step c

def at? : Node → List Nat → Option Node
  | n, [] => some n
  | n, i :: a => n.children[i]?.bind fun c => c.at? a

/-- The nodes strictly above an address, the outermost first. -/
def above : Node → List Nat → List Node
  | _, [] => []
  | n, i :: a => n :: ((n.children[i]?.map fun c => c.above a).getD [])

@[simp] lemma at?_nil (n : Node) : n.at? [] = some n := rfl

lemma at?_cons (n : Node) (i : Nat) (a : List Nat) :
    n.at? (i :: a) = n.children[i]?.bind fun c => c.at? a := rfl

lemma above_cons {n c : Node} {i : Nat} (h : n.children[i]? = some c) (a : List Nat) :
    n.above (i :: a) = n :: c.above a := by
  rw [above, h, Option.map_some, Option.getD_some]

lemma at?_append (n : Node) (a b : List Nat) :
    n.at? (a ++ b) = (n.at? a).bind fun c => c.at? b := by
  induction a generalizing n with
  | nil => rfl
  | cons i a ih =>
      rw [List.cons_append, at?_cons, at?_cons, Option.bind_assoc]
      exact Option.bind_congr fun c _ => ih c

lemma above_append {n c : Node} {a : List Nat} (h : n.at? a = some c) (b : List Nat) :
    n.above (a ++ b) = n.above a ++ c.above b := by
  induction a generalizing n with
  | nil =>
      obtain rfl : n = c := by simpa using h
      rfl
  | cons i a ih =>
      rw [at?_cons] at h
      obtain ⟨child, hchild, hc⟩ := Option.bind_eq_some_iff.mp h
      rw [List.cons_append, above_cons hchild, above_cons hchild, ih hc, List.cons_append]

/-! ### All addresses -/

mutual

/-- The addresses of a tree: its own, then those of its children in order. -/
def addresses : Node → List (List Nat)
  | node _ cs => [] :: addressesFrom 0 cs

def addressesFrom (i : Nat) : List Node → List (List Nat)
  | [] => []
  | c :: cs => (addresses c).map (i :: ·) ++ addressesFrom (i + 1) cs

end

lemma mem_addressesFrom {x : List Nat} {i : Nat} {cs : List Node} :
    x ∈ addressesFrom i cs ↔
      ∃ j c a, cs[j]? = some c ∧ x = (i + j) :: a ∧ a ∈ c.addresses := by
  induction cs generalizing i with
  | nil => simp [addressesFrom]
  | cons c cs ih =>
      rw [addressesFrom, List.mem_append, List.mem_map, ih]
      constructor
      · rintro (⟨a, ha, rfl⟩ | ⟨j, d, a, hd, rfl, ha⟩)
        · exact ⟨0, c, a, rfl, rfl, ha⟩
        · exact ⟨j + 1, d, a, by simpa using hd, by rw [Nat.add_right_comm, Nat.add_assoc], ha⟩
      · rintro ⟨j, d, a, hd, rfl, ha⟩
        cases j with
        | zero =>
            obtain rfl : c = d := by simpa using hd
            exact Or.inl ⟨a, ha, rfl⟩
        | succ j =>
            exact Or.inr ⟨j, d, a, by simpa using hd, by rw [Nat.add_right_comm, Nat.add_assoc],
              ha⟩

/-- Exactly the addresses that lead to a node are listed. -/
theorem mem_addresses {n : Node} {a : List Nat} : a ∈ n.addresses ↔ (n.at? a).isSome = true := by
  induction n using induct generalizing a with
  | step l cs ih =>
      cases a with
      | nil => simp [addresses]
      | cons i a =>
          rw [addresses, List.mem_cons, mem_addressesFrom, at?_cons]
          simp only [reduceCtorEq, false_or, children, Nat.zero_add, List.cons.injEq]
          rcases hc : cs[i]? with _ | c
          · simp only [Option.bind_none, Option.isSome_none, Bool.false_eq_true, iff_false]
            rintro ⟨j, d, b, hd, ⟨rfl, rfl⟩, -⟩
            rw [hc] at hd
            cases hd
          · rw [Option.bind_some, ← ih c (List.mem_of_getElem? hc)]
            constructor
            · rintro ⟨j, d, b, hd, ⟨rfl, rfl⟩, hb⟩
              obtain rfl : c = d := by rw [hc] at hd; simpa using hd
              exact hb
            · exact fun ha => ⟨i, c, a, hc, ⟨rfl, rfl⟩, ha⟩

lemma pairwise_addressesFrom {i : Nat} {cs : List Node}
    (h : ∀ c ∈ cs, c.addresses.Pairwise (· < ·)) : (addressesFrom i cs).Pairwise (· < ·) := by
  induction cs generalizing i with
  | nil => exact List.Pairwise.nil
  | cons c cs ih =>
      rw [addressesFrom, List.pairwise_append]
      refine ⟨?_, ih fun d hd => h d (List.mem_cons_of_mem _ hd), ?_⟩
      · rw [List.pairwise_map]
        refine (h c List.mem_cons_self).imp fun hab => ?_
        exact List.cons_lt_cons_iff.mpr (Or.inr ⟨rfl, hab⟩)
      · -- the addresses of later siblings begin with a greater number
        intro x hx y hy
        obtain ⟨a, -, rfl⟩ := List.mem_map.mp hx
        obtain ⟨j, d, b, -, rfl, -⟩ := mem_addressesFrom.mp hy
        exact List.cons_lt_cons_iff.mpr (Or.inl (by omega))

/-- The addresses rise strictly, so each node is listed once and in pre-order. -/
theorem pairwise_addresses (n : Node) : n.addresses.Pairwise (· < ·) := by
  induction n using induct with
  | step l cs ih =>
      rw [addresses, List.pairwise_cons]
      refine ⟨fun x hx => ?_, pairwise_addressesFrom ih⟩
      obtain ⟨j, c, a, -, rfl, -⟩ := mem_addressesFrom.mp hx
      exact List.nil_lt_cons _ _

end TestScout.Syntax.Node
