import TestScout.Proofs.Syntax.Address
import TestScout.Proofs.Text.Boundary

/-!
Where the nodes of a tree lie. In a tree that is laid out over a text, children lie within their
parent and one after another. Then what holds next to the root holds at a distance: a node lies
within whatever encloses it, and of two nodes neither of which encloses the other, the one that
comes first in the tree ends before the other begins.
-/

namespace TestScout.Syntax.Node

def nodes (n : Node) : List Node := n.addresses.filterMap n.at?

lemma mem_nodes {n c : Node} : c ∈ n.nodes ↔ ∃ a, n.at? a = some c := by
  rw [nodes, List.mem_filterMap]
  refine ⟨fun ⟨a, _, ha⟩ => ⟨a, ha⟩, fun ⟨a, ha⟩ => ⟨a, mem_addresses.mpr ?_, ha⟩⟩
  rw [ha, Option.isSome_some]

lemma self_mem_nodes (n : Node) : n ∈ n.nodes := mem_nodes.mpr ⟨[], rfl⟩

lemma nodes_subset {n c : Node} {a : List Nat} (h : n.at? a = some c) : c.nodes ⊆ n.nodes := by
  intro d hd
  obtain ⟨b, hb⟩ := mem_nodes.mp hd
  exact mem_nodes.mpr ⟨a ++ b, by rw [at?_append, h, Option.bind_some, hb]⟩

/-- A tree is laid out over a text: every node begins and ends where the text can be cut, children
lie within their parent, and of two children the first ends before the second begins. -/
structure LaidOut (text : String) (tree : Node) : Prop where
  boundary : ∀ n ∈ tree.nodes,
    Text.Boundary text n.span.start ∧ Text.Boundary text n.span.stop
  within : ∀ n ∈ tree.nodes, ∀ c ∈ n.children,
    n.span.start ≤ c.span.start ∧ c.span.stop ≤ n.span.stop
  ordered : ∀ n ∈ tree.nodes, n.children.Pairwise fun c d => c.span.stop ≤ d.span.start

instance (text : String) (tree : Node) : Decidable (LaidOut text tree) :=
  decidable_of_iff
    ((∀ n ∈ tree.nodes, Text.Boundary text n.span.start ∧ Text.Boundary text n.span.stop) ∧
      (∀ n ∈ tree.nodes, ∀ c ∈ n.children,
        n.span.start ≤ c.span.start ∧ c.span.stop ≤ n.span.stop) ∧
      ∀ n ∈ tree.nodes, n.children.Pairwise fun c d => c.span.stop ≤ d.span.start)
    ⟨fun h => ⟨h.1, h.2.1, h.2.2⟩, fun h => ⟨h.boundary, h.within, h.ordered⟩⟩

variable {text : String} {tree x y : Node} {a b : List Nat}

lemma LaidOut.at? (h : LaidOut text tree) (hx : tree.at? a = some x) : LaidOut text x :=
  have hsub := nodes_subset hx
  ⟨fun n hn => h.boundary n (hsub hn), fun n hn => h.within n (hsub hn),
    fun n hn => h.ordered n (hsub hn)⟩

lemma LaidOut.child (h : LaidOut text tree) {i : Nat} {c : Node}
    (hc : tree.children[i]? = some c) : LaidOut text c :=
  h.at? (a := [i]) (by rw [at?_cons, hc]; rfl)

lemma LaidOut.span_within (h : LaidOut text tree) (hx : tree.at? a = some x) :
    tree.span.start ≤ x.span.start ∧ x.span.stop ≤ tree.span.stop := by
  induction a generalizing tree with
  | nil =>
      obtain rfl : tree = x := by simpa using hx
      exact ⟨Nat.le_refl _, Nat.le_refl _⟩
  | cons i a ih =>
      rw [at?_cons] at hx
      obtain ⟨c, hc, hx⟩ := Option.bind_eq_some_iff.mp hx
      have hchild := h.within tree (self_mem_nodes tree) c (List.mem_of_getElem? hc)
      have hbelow := ih (h.child hc) hx
      exact ⟨hchild.1.trans hbelow.1, hbelow.2.trans hchild.2⟩

/-- Of two nodes neither of which encloses the other, the first ends before the other begins. -/
lemma LaidOut.span_before (h : LaidOut text tree) (hx : tree.at? a = some x)
    (hy : tree.at? b = some y) (hlt : a < b) (hapart : ¬ a <+: b) :
    x.span.stop ≤ y.span.start := by
  induction a generalizing tree b with
  | nil => exact absurd (List.nil_prefix) hapart
  | cons i a ih =>
      rcases b with _ | ⟨j, b⟩
      · exact absurd hlt (List.not_lt_nil _)
      rw [at?_cons] at hx hy
      obtain ⟨c, hc, hx⟩ := Option.bind_eq_some_iff.mp hx
      obtain ⟨d, hd, hy⟩ := Option.bind_eq_some_iff.mp hy
      rcases List.cons_lt_cons_iff.mp hlt with hij | ⟨rfl, hab⟩
      · -- they lie in different children
        obtain ⟨hi, rfl⟩ := List.getElem?_eq_some_iff.mp hc
        obtain ⟨hj, rfl⟩ := List.getElem?_eq_some_iff.mp hd
        have hsiblings := List.pairwise_iff_getElem.mp (h.ordered tree (self_mem_nodes tree))
          i j hi hj hij
        exact ((h.child hc).span_within hx).2.trans
          (hsiblings.trans ((h.child hd).span_within hy).1)
      · obtain rfl : c = d := Option.some.inj (hc.symm.trans hd)
        refine ih (h.child hc) hx hy hab fun hprefix => hapart ?_
        exact List.cons_prefix_cons.mpr ⟨rfl, hprefix⟩

lemma LaidOut.span_apart (h : LaidOut text tree) (hx : tree.at? a = some x)
    (hy : tree.at? b = some y) (hab : ¬ a <+: b) (hba : ¬ b <+: a) :
    x.span.stop ≤ y.span.start ∨ y.span.stop ≤ x.span.start := by
  rcases Std.lt_trichotomy a b with hlt | rfl | hlt
  · exact Or.inl (h.span_before hx hy hlt hab)
  · exact absurd (List.prefix_refl a) hab
  · exact Or.inr (h.span_before hy hx hlt hba)

end TestScout.Syntax.Node
