import Mathlib.Data.List.Basic
import Mathlib.Data.Option.Basic
import TestScout.Proofs.Syntax.Address

/-!
The walk with a stack against plain recursion. The stack holds subtrees from many levels at once,
each with the names around it; what is still to come is, whatever the stack, the pre-order of its
entries one after another. Taking the top entry off and pushing its children leaves that list as
it was, less its head, so the loop does what one pass over the list does, and the list of the whole
tree is written by a plain recursion.
-/

namespace TestScout.Walk

open Syntax Syntax.Node

/-! ### Plain recursion -/

section Definitions

variable (m : Markers) (file : Path) (text : String)

/-- The name that a node gives to what it encloses, if it makes a declaration. -/
def nameOf? (n : Node) : Option String := (declaration? m file text [] n).map (·.name)

mutual

/-- The declarations in a tree among some names: that of the tree itself, then those in its
children, which it encloses. -/
def found (path : List String) : Node → List Declaration
  | node l cs =>
    match declaration? m file text path (node l cs) with
    | some d => d :: foundIn (path ++ [d.name]) cs
    | none => foundIn path cs

def foundIn (path : List String) : List Node → List Declaration
  | [] => []
  | c :: cs => found path c ++ foundIn path cs

end

mutual

/-- The nodes of a tree in pre-order, each with the names around it. -/
def visits (path : List String) : Node → List (Node × List String)
  | node l cs =>
    (node l cs, path) ::
      visitsIn (namesBelow path (declaration? m file text path (node l cs))) cs

def visitsIn (path : List String) : List Node → List (Node × List String)
  | [] => []
  | c :: cs => visits path c ++ visitsIn path cs

end

/-- Looks at nodes one after another, asking before each whether to go on. -/
def pass (cancelled : Nat → Bool) (polls : Nat) (before : List Declaration) :
    List (Node × List String) → Walk
  | [] => ⟨before, true, polls⟩
  | (n, path) :: rest =>
    if cancelled polls then ⟨before, false, polls + 1⟩
    else pass cancelled (polls + 1) (before ++ (declaration? m file text path n).toList) rest

end Definitions

variable {m : Markers} {file : Path} {text : String} {cancelled : Nat → Bool}

/-! ### What a match depends on -/

lemma declaration?_eq_some_iff {path : List String} {n : Node} {d : Declaration} :
    declaration? m file text path n = some d ↔
      ∃ kind literal function name, markedCall? m text n = some (kind, literal, function) ∧
        isFunction function = true ∧ literalText? text literal = some name ∧
          ⟨kind, file, literal.span, name, path⟩ = d := by
  unfold declaration?
  rcases markedCall? m text n with _ | ⟨kind, literal, function⟩
  · simp
  · cases hf : isFunction function
    · simp [Option.failure_eq_none, hf]
    · simp only [Option.bind_eq_bind, Option.bind_some, Option.pure_def, hf, Bool.not_true,
        Bool.false_eq_true, if_false, Option.bind_eq_some_iff, Option.some.injEq, Prod.mk.injEq]
      constructor
      · rintro ⟨name, hname, rfl⟩
        exact ⟨kind, literal, function, name, ⟨rfl, rfl, rfl⟩, hf, hname, rfl⟩
      · rintro ⟨_, _, _, name, ⟨rfl, rfl, rfl⟩, -, hname, rfl⟩
        exact ⟨name, hname, rfl⟩

/-- Where a node stands says nothing of whether it makes a declaration, only which names are
around it. -/
lemma declaration?_eq_map (path : List String) (n : Node) :
    declaration? m file text path n =
      (declaration? m file text [] n).map fun d => { d with ancestors := path } := by
  refine Option.ext fun d => ?_
  rw [declaration?_eq_some_iff, Option.map_eq_some_iff]
  constructor
  · rintro ⟨kind, literal, function, name, hcall, hf, hname, rfl⟩
    exact ⟨_, declaration?_eq_some_iff.mpr ⟨kind, literal, function, name, hcall, hf, hname, rfl⟩,
      rfl⟩
  · rintro ⟨d', hd', rfl⟩
    obtain ⟨kind, literal, function, name, hcall, hf, hname, rfl⟩ :=
      declaration?_eq_some_iff.mp hd'
    exact ⟨kind, literal, function, name, hcall, hf, hname, rfl⟩

lemma ancestors_of_declaration? {path : List String} {n : Node} {d : Declaration}
    (h : declaration? m file text path n = some d) : d.ancestors = path := by
  rw [declaration?_eq_map] at h
  obtain ⟨d', -, rfl⟩ := Option.map_eq_some_iff.mp h
  rfl

lemma namesBelow_eq (path : List String) (n : Node) :
    namesBelow path (declaration? m file text path n) =
      path ++ (nameOf? m file text n).toList := by
  rw [declaration?_eq_map, nameOf?]
  cases declaration? m file text [] n <;> simp [namesBelow]

/-! ### Pre-order -/

lemma foundIn_eq_flatMap (path : List String) (cs : List Node) :
    foundIn m file text path cs = cs.flatMap (found m file text path) := by
  induction cs with
  | nil => rfl
  | cons c cs ih => rw [foundIn, List.flatMap_cons, ih]

lemma visitsIn_eq_flatMap (path : List String) (cs : List Node) :
    visitsIn m file text path cs = cs.flatMap (visits m file text path) := by
  induction cs with
  | nil => rfl
  | cons c cs ih => rw [visitsIn, List.flatMap_cons, ih]

/-- The declarations of a tree are those that its nodes make in turn. -/
theorem found_eq_filterMap (path : List String) (n : Node) :
    found m file text path n =
      (visits m file text path n).filterMap fun e => declaration? m file text e.2 e.1 := by
  induction n using induct generalizing path with
  | step l cs ih =>
      have hin (below : List String) : foundIn m file text below cs =
          (visitsIn m file text below cs).filterMap
            fun e => declaration? m file text e.2 e.1 := by
        rw [foundIn_eq_flatMap, visitsIn_eq_flatMap, List.filterMap_flatMap]
        exact List.flatMap_congr fun c hc => ih c hc below
      rw [found, visits, List.filterMap_cons]
      rcases declaration? m file text path (node l cs) with _ | d
      · exact hin path
      · exact congrArg (d :: ·) (hin (path ++ [d.name]))

/-! ### One pass over a list -/

/-- Whatever is on the stack, the loop makes one pass over the pre-order of its entries. -/
theorem run_eq_pass (polls : Nat) (before : List Declaration) (stack : List (Node × List String)) :
    run m file text cancelled polls before stack =
      pass m file text cancelled polls before
        (stack.flatMap fun e => visits m file text e.2 e.1) := by
  induction polls, before, stack using run.induct m file text cancelled with
  | case1 polls before => rw [run]; rfl
  | case2 polls before n path rest hstop =>
      obtain ⟨l, cs⟩ := n
      rw [run, if_pos hstop, List.flatMap_cons, visits, List.cons_append, pass, if_pos hstop]
  | case3 polls before n path rest hgo here below ih =>
      obtain ⟨l, cs⟩ := n
      rw [run, if_neg hgo, List.flatMap_cons, visits, List.cons_append, pass, if_neg hgo, ih,
        List.flatMap_append, visitsIn_eq_flatMap, List.flatMap_map]
      rfl

/-- A walk makes one pass over the pre-order of the tree. -/
theorem through_eq_pass (tree : Node) :
    through m file text tree cancelled =
      pass m file text cancelled 0 [] (visits m file text [] tree) := by
  rw [through, run_eq_pass, List.flatMap_cons, List.flatMap_nil, List.append_nil]

lemma pass_append {polls : Nat} {before : List Declaration} {entries : List (Node × List String)}
    (h : ∀ j < entries.length, cancelled (polls + j) = false) (rest : List (Node × List String)) :
    pass m file text cancelled polls before (entries ++ rest) =
      pass m file text cancelled (polls + entries.length)
        (before ++ entries.filterMap fun e => declaration? m file text e.2 e.1) rest := by
  induction entries generalizing polls before with
  | nil => simp
  | cons e entries ih =>
      obtain ⟨n, path⟩ := e
      have hgo : ¬ cancelled polls = true := by simpa using h 0 (Nat.succ_pos _)
      have hrest : ∀ j < entries.length, cancelled (polls + 1 + j) = false := fun j hj => by
        rw [Nat.add_assoc, Nat.add_comm 1]
        exact h (j + 1) (Nat.succ_lt_succ hj)
      rw [List.cons_append, pass, if_neg hgo, ih hrest, List.filterMap_cons, List.length_cons,
        Nat.add_assoc, Nat.add_comm 1]
      cases declaration? m file text path n <;> simp

lemma pass_of_quiet {polls : Nat} {before : List Declaration}
    {entries : List (Node × List String)}
    (h : ∀ j < entries.length, cancelled (polls + j) = false) :
    pass m file text cancelled polls before entries =
      ⟨before ++ entries.filterMap fun e => declaration? m file text e.2 e.1, true,
        polls + entries.length⟩ := by
  have hpass := @pass_append m file text cancelled polls before entries h []
  rwa [List.append_nil] at hpass

/-- A pass that is stopped before the entry with number `k` has taken in those before it. -/
lemma pass_of_stopped {polls k : Nat} {before : List Declaration}
    {entries : List (Node × List String)} (hk : k < entries.length)
    (h : ∀ j < k, cancelled (polls + j) = false) (hstop : cancelled (polls + k) = true) :
    pass m file text cancelled polls before entries =
      ⟨before ++ (entries.take k).filterMap fun e => declaration? m file text e.2 e.1, false,
        polls + k + 1⟩ := by
  have hlen : (entries.take k).length = k := List.length_take_of_le (Nat.le_of_lt hk)
  have hsplit : entries = entries.take k ++ entries[k] :: entries.drop (k + 1) := by
    rw [← List.drop_eq_getElem_cons hk, List.take_append_drop]
  have hpass := @pass_append m file text cancelled polls before (entries.take k)
    (fun j hj => h j (hlen ▸ hj)) (entries[k] :: entries.drop (k + 1))
  rw [← hsplit, hlen] at hpass
  rw [hpass, pass, if_pos hstop]

lemma pass_never (polls : Nat) (before : List Declaration) (entries : List (Node × List String)) :
    pass m file text never polls before entries =
      ⟨before ++ entries.filterMap fun e => declaration? m file text e.2 e.1, true,
        polls + entries.length⟩ :=
  pass_of_quiet fun _ _ => rfl

lemma through_never (m : Markers) (file : Path) (text : String) (tree : Node) :
    through m file text tree never =
      ⟨found m file text [] tree, true, (visits m file text [] tree).length⟩ := by
  rw [through_eq_pass, pass_never, ← found_eq_filterMap, List.nil_append, Nat.zero_add]

end TestScout.Walk
