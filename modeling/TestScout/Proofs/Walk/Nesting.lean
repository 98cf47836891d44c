import TestScout.Proofs.Walk.Preorder

/-!
Which names stand around a declaration. The walk hands names down from node to node; told by
addresses, the names around a node are those of the declarations whose calls lie strictly above it,
the outermost first, and nothing that a sibling declares is among them.
-/

namespace TestScout.Walk

open Syntax Syntax.Node

section Definitions

variable (m : Markers) (file : Path) (text : String)

/-- The names of the declarations whose calls strictly enclose an address, the outermost first. -/
def namesAround (tree : Node) (a : List Nat) : List String :=
  (tree.above a).filterMap (nameOf? m file text)

def declaredAt? (tree : Node) (a : List Nat) : Option Declaration :=
  (tree.at? a).bind (declaration? m file text (namesAround m file text tree a))

/-- The declarations in a tree with the addresses of their calls, in pre-order. -/
def located (tree : Node) : List (List Nat × Declaration) :=
  tree.addresses.filterMap fun a => (declaredAt? m file text tree a).map (a, ·)

end Definitions

variable {m : Markers} {file : Path} {text : String}

@[simp] lemma namesAround_nil (n : Node) : namesAround m file text n [] = [] := rfl

lemma namesAround_cons {n c : Node} {i : Nat} (h : n.children[i]? = some c) (a : List Nat) :
    namesAround m file text n (i :: a) =
      (nameOf? m file text n).toList ++ namesAround m file text c a := by
  rw [namesAround, above_cons h, List.filterMap_cons]
  cases nameOf? m file text n <;> rfl

/-- The names around a place in a subtree: those around the subtree, then those that the subtree
itself puts around the place. -/
lemma namesAround_append {n c : Node} {a : List Nat} (h : n.at? a = some c) (b : List Nat) :
    namesAround m file text n (a ++ b) =
      namesAround m file text n a ++ namesAround m file text c b := by
  rw [namesAround, above_append h, List.filterMap_append]
  rfl

lemma visitsIn_eq_addressesFrom {l : Label} {before cs : List Node} {path : List String}
    (ih : ∀ c ∈ cs, ∀ path, (visits m file text path c).map (fun e => (some e.1, e.2)) =
      c.addresses.map fun a => (c.at? a, path ++ namesAround m file text c a)) :
    (visitsIn m file text
        (path ++ (nameOf? m file text (node l (before ++ cs))).toList) cs).map
          (fun e => (some e.1, e.2)) =
      (addressesFrom before.length cs).map fun a =>
        ((node l (before ++ cs)).at? a,
          path ++ namesAround m file text (node l (before ++ cs)) a) := by
  induction cs generalizing before with
  | nil => rfl
  | cons c cs ihcs =>
      have hc : (node l (before ++ c :: cs)).children[before.length]? = some c := by
        simp [children]
      have hrest := @ihcs (before ++ [c]) fun d hd => ih d (List.mem_cons_of_mem _ hd)
      rw [List.append_assoc, List.singleton_append, List.length_append,
        List.length_singleton] at hrest
      rw [visitsIn, List.map_append, addressesFrom, List.map_append, hrest,
        ih c List.mem_cons_self, List.map_map]
      congr 1
      refine List.map_congr_left fun a _ => ?_
      rw [Function.comp_apply, at?_cons, hc, Option.bind_some, namesAround_cons hc,
        List.append_assoc]

/-- The pre-order of a tree goes through its addresses, and the names around each node are those
of the calls above it. -/
theorem visits_eq_addresses (path : List String) (n : Node) :
    (visits m file text path n).map (fun e => (some e.1, e.2)) =
      n.addresses.map fun a => (n.at? a, path ++ namesAround m file text n a) := by
  induction n using induct generalizing path with
  | step l cs ih =>
      rw [visits, addresses, List.map_cons, List.map_cons, namesBelow_eq]
      have hin := @visitsIn_eq_addressesFrom m file text l [] cs path fun c hc path => ih c hc path
      rw [List.nil_append, List.length_nil] at hin
      rw [hin, namesAround_nil, List.append_nil]
      rfl

lemma map_declaration?_visits (tree : Node) :
    (visits m file text [] tree).map (fun e => declaration? m file text e.2 e.1) =
      tree.addresses.map (declaredAt? m file text tree) := by
  have hvisits := @visits_eq_addresses m file text [] tree
  calc (visits m file text [] tree).map (fun e => declaration? m file text e.2 e.1)
      = ((visits m file text [] tree).map fun e => (some e.1, e.2)).map
          (fun e => e.1.bind (declaration? m file text e.2)) := by
        rw [List.map_map]; rfl
    _ = tree.addresses.map (declaredAt? m file text tree) := by
        rw [hvisits, List.map_map]; rfl

/-- The declarations that the plain recursion finds are those at the addresses of the tree. -/
theorem found_eq_located (tree : Node) :
    found m file text [] tree = (located m file text tree).map (·.2) := by
  have hmap := congrArg (List.filterMap id) (@map_declaration?_visits m file text tree)
  rw [List.filterMap_map, List.filterMap_map, Function.id_comp, Function.id_comp] at hmap
  rw [found_eq_filterMap, located, List.map_filterMap, hmap]
  refine List.filterMap_congr fun a _ => ?_
  cases declaredAt? m file text tree a <;> rfl

lemma length_visits (tree : Node) :
    (visits m file text [] tree).length = tree.addresses.length := by
  have h := congrArg List.length (@visits_eq_addresses m file text [] tree)
  rwa [List.length_map, List.length_map] at h

lemma mem_located {tree : Node} {a : List Nat} {d : Declaration} :
    (a, d) ∈ located m file text tree ↔ declaredAt? m file text tree a = some d := by
  rw [located, List.mem_filterMap]
  constructor
  · rintro ⟨b, -, hb⟩
    obtain ⟨d', hd, heq⟩ := Option.map_eq_some_iff.mp hb
    obtain ⟨rfl, rfl⟩ := Prod.mk.inj heq
    exact hd
  · intro hd
    obtain ⟨n, hn, -⟩ := Option.bind_eq_some_iff.mp hd
    exact ⟨a, mem_addresses.mpr (by rw [hn]; rfl), by rw [hd]; rfl⟩

lemma ancestors_of_mem_located {tree : Node} {a : List Nat} {d : Declaration}
    (h : (a, d) ∈ located m file text tree) : d.ancestors = namesAround m file text tree a := by
  obtain ⟨n, -, hd⟩ := Option.bind_eq_some_iff.mp (mem_located.mp h)
  exact ancestors_of_declaration? hd

/-- **The walk is plain recursion.** Never cancelled, the loop comes to its end with what the
recursion finds, having asked once for each node. Under any token it makes one pass over the nodes
in pre-order: those at the addresses of the tree, which are all that lead to a node and rise
strictly. Each declaration is found among the names of the declarations whose calls lie strictly
above its own, the outermost first. -/
theorem through_never_eq_recursion (m : Markers) (file : Path) (text : String) (tree : Node) :
    through m file text tree never = ⟨found m file text [] tree, true, tree.addresses.length⟩ ∧
    (∀ cancelled, through m file text tree cancelled =
      pass m file text cancelled 0 [] (visits m file text [] tree)) ∧
    (visits m file text [] tree).map (some ·.1) = tree.addresses.map tree.at? ∧
    (∀ a, a ∈ tree.addresses ↔ (tree.at? a).isSome = true) ∧
    tree.addresses.Pairwise (· < ·) ∧
    found m file text [] tree = (located m file text tree).map (·.2) ∧
    ∀ a d, (a, d) ∈ located m file text tree →
      d.ancestors = (tree.above a).filterMap (nameOf? m file text) := by
  refine ⟨?_, fun cancelled => through_eq_pass tree, ?_, fun a => mem_addresses,
    pairwise_addresses tree, found_eq_located tree, fun a d h => ancestors_of_mem_located h⟩
  · rw [through_eq_pass, pass_never, found_eq_filterMap, length_visits, List.nil_append,
      Nat.zero_add]
  · have h := congrArg (List.map Prod.fst) (@visits_eq_addresses m file text [] tree)
    rw [List.map_map, List.map_map] at h
    exact h

end TestScout.Walk
