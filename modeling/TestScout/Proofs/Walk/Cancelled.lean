import TestScout.Proofs.Walk.Nesting

/-!
Walks that are cancelled. A walk asks before each node whether to go on, so what it has found when
it stops depends on nothing but the number of nodes it was let through: it is what the first nodes
in pre-order declare. A walk that is let through to the end has found everything; of two walks, the
one that goes on for longer goes on from what the other has found.
-/

namespace TestScout

namespace Syntax.Node

lemma length_addressesFrom {i : Nat} {cs : List Node}
    (h : ∀ c ∈ cs, c.addresses.length = c.size) : (addressesFrom i cs).length = sizes cs := by
  induction cs generalizing i with
  | nil => rfl
  | cons c cs ih =>
      rw [addressesFrom, List.length_append, List.length_map, sizes, h c List.mem_cons_self,
        ih fun d hd => h d (List.mem_cons_of_mem _ hd)]

/-- There are as many addresses as nodes. -/
theorem length_addresses (n : Node) : n.addresses.length = n.size := by
  induction n using induct with
  | step l cs ih => rw [addresses, List.length_cons, length_addressesFrom ih, size, Nat.add_comm]

end Syntax.Node

namespace Walk

open Syntax Syntax.Node

variable {m : Markers} {file : Path} {text : String} {tree : Node} {cancelled : Nat → Bool}

/-! ### The first nodes -/

/-- What the first `k` nodes of a tree in pre-order declare. -/
def declaredBefore (m : Markers) (file : Path) (text : String) (tree : Node) (k : Nat) :
    List Declaration :=
  (tree.addresses.take k).filterMap (declaredAt? m file text tree)

lemma declaredBefore_eq_visits (k : Nat) :
    declaredBefore m file text tree k =
      ((visits m file text [] tree).take k).filterMap
        fun e => declaration? m file text e.2 e.1 := by
  have hmap := congrArg (fun l => (l.take k).filterMap id)
    (@map_declaration?_visits m file text tree)
  simp only [← List.map_take, List.filterMap_map, Function.id_comp] at hmap
  exact hmap.symm

lemma declaredBefore_prefix {k l : Nat} (h : k ≤ l) :
    declaredBefore m file text tree k <+: declaredBefore m file text tree l :=
  (List.take_prefix_take_left h).filterMap _

lemma declaredBefore_size :
    declaredBefore m file text tree tree.size =
      tree.addresses.filterMap (declaredAt? m file text tree) := by
  rw [declaredBefore, ← length_addresses, List.take_length]

/-! ### How far a walk gets -/

lemma through_of_quiet (h : ∀ j < tree.size, cancelled j = false) :
    through m file text tree cancelled =
      ⟨declaredBefore m file text tree tree.size, true, tree.size⟩ := by
  have hlen : (visits m file text [] tree).length = tree.size :=
    (length_visits tree).trans (length_addresses tree)
  rw [through_eq_pass, pass_of_quiet fun j hj => by rw [Nat.zero_add]; exact h j (hlen ▸ hj),
    declaredBefore_eq_visits, ← hlen, List.take_length, List.nil_append, Nat.zero_add]

lemma through_of_stopped {k : Nat} (hk : k < tree.size) (h : ∀ j < k, cancelled j = false)
    (hstop : cancelled k = true) :
    through m file text tree cancelled =
      ⟨declaredBefore m file text tree k, false, k + 1⟩ := by
  have hlen : (visits m file text [] tree).length = tree.size :=
    (length_visits tree).trans (length_addresses tree)
  rw [through_eq_pass, pass_of_stopped (hlen ▸ hk) (fun j hj => by rw [Nat.zero_add]; exact h j hj)
    (by rwa [Nat.zero_add]), declaredBefore_eq_visits, List.nil_append, Nat.zero_add]

/-- How many of `size` nodes a token lets a walk through. -/
def letThrough (cancelled : Nat → Bool) (size : Nat) : Nat := (List.range size).findIdx cancelled

lemma letThrough_le (cancelled : Nat → Bool) (size : Nat) : letThrough cancelled size ≤ size := by
  have hle : (List.range size).findIdx cancelled ≤ (List.range size).length :=
    List.findIdx_le_length
  rwa [List.length_range] at hle

lemma letThrough_quiet {size j : Nat} (h : j < letThrough cancelled size) :
    cancelled j = false := by
  have hj := List.not_of_lt_findIdx h
  rwa [List.getElem_range] at hj

lemma cancelled_letThrough {size : Nat} (h : letThrough cancelled size < size) :
    cancelled (letThrough cancelled size) = true := by
  have hlt : (List.range size).findIdx cancelled < (List.range size).length := by
    rwa [List.length_range]
  have hstop := List.findIdx_getElem (w := hlt)
  rwa [List.getElem_range] at hstop

lemma through_eq_letThrough (m : Markers) (file : Path) (text : String) (tree : Node)
    (cancelled : Nat → Bool) :
    (through m file text tree cancelled).declarations =
        declaredBefore m file text tree (letThrough cancelled tree.size) ∧
      (through m file text tree cancelled).complete =
        decide (letThrough cancelled tree.size = tree.size) := by
  rcases Nat.lt_or_eq_of_le (letThrough_le cancelled tree.size) with hlt | heq
  · rw [through_of_stopped hlt (fun _ hj => letThrough_quiet hj) (cancelled_letThrough hlt)]
    exact ⟨rfl, (decide_eq_false (Nat.ne_of_lt hlt)).symm⟩
  · rw [through_of_quiet fun _ hj => letThrough_quiet (heq.symm ▸ hj), heq]
    exact ⟨rfl, (decide_eq_true rfl).symm⟩

/-- However often a walk is asked to stop, it gets through some first nodes, all of them or those
before the one at which it is first asked to. -/
lemma exists_declaredBefore (m : Markers) (file : Path) (text : String) (tree : Node)
    (cancelled : Nat → Bool) :
    ∃ k ≤ tree.size,
      (through m file text tree cancelled).declarations = declaredBefore m file text tree k ∧
      (∀ j < k, cancelled j = false) ∧
      (if (through m file text tree cancelled).complete then k = tree.size
        else cancelled k = true) := by
  obtain ⟨hfound, hcomplete⟩ := through_eq_letThrough m file text tree cancelled
  have hle := letThrough_le cancelled tree.size
  refine ⟨_, hle, hfound, fun j hj => letThrough_quiet hj, ?_⟩
  rw [hcomplete]
  split
  · next heq => exact of_decide_eq_true heq
  · next hne =>
    rw [decide_eq_true_eq] at hne
    exact cancelled_letThrough (Nat.lt_of_le_of_ne hle hne)

/-! ### Under any token -/

/-- The declarations that a walk under a token finds, with the addresses of their calls. -/
def reached (m : Markers) (file : Path) (text : String) (tree : Node)
    (cancelled : Nat → Bool) : List (List Nat × Declaration) :=
  (tree.addresses.take (letThrough cancelled tree.size)).filterMap
    fun a => (declaredAt? m file text tree a).map (a, ·)

lemma declarations_eq_reached (m : Markers) (file : Path) (text : String) (tree : Node)
    (cancelled : Nat → Bool) :
    (through m file text tree cancelled).declarations =
      (reached m file text tree cancelled).map (·.2) := by
  rw [(through_eq_letThrough m file text tree cancelled).1, declaredBefore, reached,
    List.map_filterMap]
  refine List.filterMap_congr fun a _ => ?_
  cases declaredAt? m file text tree a <;> rfl

lemma reached_prefix_located (m : Markers) (file : Path) (text : String) (tree : Node)
    (cancelled : Nat → Bool) :
    reached m file text tree cancelled <+: located m file text tree :=
  (List.take_prefix _ _).filterMap _

lemma declarations_prefix_found (m : Markers) (file : Path) (text : String) (tree : Node)
    (cancelled : Nat → Bool) :
    (through m file text tree cancelled).declarations <+: found m file text [] tree := by
  rw [declarations_eq_reached, found_eq_located]
  exact (reached_prefix_located m file text tree cancelled).map _

/-! ### Cancelling -/

/-- **Cancelling a walk**: a walk that is stopped at its question number `k` has asked `k + 1`
times and has found what the first `k` nodes in pre-order declare; one that is not stopped has
asked once for each node and has found everything. What is found is a beginning of what an
uncancelled walk finds, and all of it if the walk came to its end; a token that fires later lets
the walk find that much at least. -/
theorem through_cancelled (m : Markers) (file : Path) (text : String) (tree : Node)
    (cancelled : Nat → Bool) :
    (∀ k < tree.size, (∀ j < k, cancelled j = false) → cancelled k = true →
      through m file text tree cancelled =
        ⟨(tree.addresses.take k).filterMap (declaredAt? m file text tree), false, k + 1⟩) ∧
    ((∀ j < tree.size, cancelled j = false) →
      through m file text tree cancelled = through m file text tree never) ∧
    through m file text tree never =
      ⟨tree.addresses.filterMap (declaredAt? m file text tree), true, tree.size⟩ ∧
    tree.addresses.length = tree.size ∧
    (through m file text tree cancelled).declarations <+:
      (through m file text tree never).declarations ∧
    ((through m file text tree cancelled).complete = true →
      through m file text tree cancelled = through m file text tree never) ∧
    ∀ later, (∀ j, later j = true → ∃ i ≤ j, cancelled i = true) →
      (through m file text tree cancelled).declarations <+:
        (through m file text tree later).declarations := by
  have hnever : through m file text tree never =
      ⟨declaredBefore m file text tree tree.size, true, tree.size⟩ :=
    through_of_quiet fun _ _ => rfl
  obtain ⟨k, hk, hfound, hquiet, hend⟩ := exists_declaredBefore m file text tree cancelled
  refine ⟨fun k hk hquiet hstop => through_of_stopped hk hquiet hstop, fun hquiet => ?_, ?_,
    length_addresses tree, ?_, fun hcomplete => ?_, fun later hlater => ?_⟩
  · rw [hnever, through_of_quiet hquiet]
  · rw [hnever, declaredBefore_size]
  · rw [hfound, hnever]
    exact declaredBefore_prefix hk
  · rw [if_pos hcomplete] at hend
    rw [hnever, through_of_quiet (hend ▸ hquiet)]
  · obtain ⟨l, hl, hfound', hquiet', hend'⟩ := exists_declaredBefore m file text tree later
    rw [hfound, hfound']
    refine declaredBefore_prefix ?_
    split at hend'
    · exact hend' ▸ hk
    · -- before the later token fires the other one has fired
      obtain ⟨i, hi, hcancelled⟩ := hlater l hend'
      by_contra hlt
      rw [hquiet i (Nat.lt_of_le_of_lt hi (Nat.lt_of_not_le hlt))] at hcancelled
      exact absurd hcancelled Bool.false_ne_true

end Walk

end TestScout
