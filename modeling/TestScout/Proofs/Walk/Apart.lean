import TestScout.Proofs.Syntax.Layout
import TestScout.Proofs.Walk.Call
import TestScout.Proofs.Walk.Cancelled

/-!
Where the names of declarations lie. The bytes of a declaration are those of a literal two steps
below its call. Two literals of different calls never enclose one another, since no call stands
below a literal, so in a tree that is laid out over its text they have no byte in common; and the
literals of calls side by side lie in the order of the calls.
-/

namespace TestScout.Walk

open Syntax Syntax.Node

def NoCallInText (tree : Node) : Prop :=
  ∀ n ∈ tree.nodes, isPlainText n = true → ∀ c ∈ n.nodes, c.kind ≠ .call

instance (tree : Node) : Decidable (NoCallInText tree) :=
  inferInstanceAs
    (Decidable (∀ n ∈ tree.nodes, isPlainText n = true → ∀ c ∈ n.nodes, c.kind ≠ .call))

structure LiteralAt (text : String) (tree : Node) (a : List Nat) (i j : Nat) (d : Declaration) :
    Prop where
  call : ∃ n, tree.at? a = some n ∧ n.kind = .call
  arguments : ∃ n, tree.at? (a ++ [i]) = some n ∧ n.kind = .arguments
  literal : ∃ n, tree.at? (a ++ [i] ++ [j]) = some n ∧ n.span = d.span ∧
    literalText? text n = some d.name

variable {m : Markers} {file : Path} {text : String} {tree : Node} {a b : List Nat}
  {d e : Declaration}

/-- Two steps below the call of a declaration stands the literal with its name. -/
lemma exists_literalAt (h : (a, d) ∈ located m file text tree) :
    ∃ i j, LiteralAt text tree a i j d := by
  obtain ⟨n, hn, hdecl⟩ := Option.bind_eq_some_iff.mp (mem_located.mp h)
  obtain ⟨name, kind, span, title, hname, -, htitle, rfl⟩ :=
    declaration?_eq_some_iff_call.mp hdecl
  obtain ⟨literal, function, hfirst, -, hspan, htext⟩ := title?_eq_some_iff.mp htitle
  obtain ⟨i, j, arguments, hi, hkind, hj⟩ := exists_of_firstArguments? hfirst
  have harguments : tree.at? (a ++ [i]) = some arguments := by
    rw [at?_append, hn, Option.bind_some, at?_cons, hi]; rfl
  have hliteral : tree.at? (a ++ [i] ++ [j]) = some literal := by
    rw [at?_append, harguments, Option.bind_some, at?_cons, hj]; rfl
  exact ⟨i, j, ⟨n, hn, kind_of_calleeName? hname⟩, ⟨arguments, harguments, hkind⟩,
    ⟨literal, hliteral, hspan, htext⟩⟩

lemma LiteralAt.not_encloses {i j k l : Nat} (plain : NoCallInText tree)
    (hd : LiteralAt text tree a i j d) (he : LiteralAt text tree b k l e) (hne : a ≠ b) :
    ¬ a ++ [i] ++ [j] <+: b ++ [k] ++ [l] := by
  obtain ⟨call, hcall, hkind⟩ := he.call
  intro h
  rcases List.prefix_concat_iff.mp h with heq | h
  · -- two different calls have different literals
    have heq' : a ++ [i] = b ++ [k] := (List.append_inj' heq rfl).1
    exact hne (List.append_inj' heq' rfl).1
  rcases List.prefix_concat_iff.mp h with heq | h
  · -- arguments are no call
    obtain ⟨arguments, harguments, hargumentsKind⟩ := hd.arguments
    rw [(List.append_inj' heq rfl).1, hcall] at harguments
    rw [Option.some.inj harguments, hargumentsKind] at hkind
    exact absurd hkind (by decide)
  · -- the other call would stand below the literal
    obtain ⟨literal, hliteral, -, htext⟩ := hd.literal
    obtain ⟨c, rfl⟩ := h
    rw [at?_append, hliteral, Option.bind_some] at hcall
    exact plain literal (mem_nodes.mpr ⟨_, hliteral⟩) (literalText?_eq_some_iff.mp htext).1 call
      (mem_nodes.mpr ⟨c, hcall⟩) hkind

lemma span_apart_of_located (laid : LaidOut text tree) (plain : NoCallInText tree)
    (hd : (a, d) ∈ located m file text tree) (he : (b, e) ∈ located m file text tree)
    (hne : a ≠ b) : d.span.stop ≤ e.span.start ∨ e.span.stop ≤ d.span.start := by
  obtain ⟨i, j, hda⟩ := exists_literalAt hd
  obtain ⟨k, l, heb⟩ := exists_literalAt he
  obtain ⟨x, hx, hxspan, -⟩ := hda.literal
  obtain ⟨y, hy, hyspan, -⟩ := heb.literal
  rw [← hxspan, ← hyspan]
  exact laid.span_apart hx hy (hda.not_encloses plain heb hne) (heb.not_encloses plain hda hne.symm)

lemma span_within_call (laid : LaidOut text tree) (hd : (a, d) ∈ located m file text tree) :
    ∃ n, tree.at? a = some n ∧ n.span.start ≤ d.span.start ∧ d.span.stop ≤ n.span.stop := by
  obtain ⟨i, j, hda⟩ := exists_literalAt hd
  obtain ⟨n, hn, -⟩ := hda.call
  obtain ⟨x, hx, hxspan, -⟩ := hda.literal
  rw [List.append_assoc, at?_append, hn, Option.bind_some] at hx
  exact ⟨n, hn, hxspan ▸ (laid.at? hn).span_within hx⟩

lemma span_before_of_located (laid : LaidOut text tree) (hd : (a, d) ∈ located m file text tree)
    (he : (b, e) ∈ located m file text tree) (hlt : a < b) (hapart : ¬ a <+: b) :
    d.span.stop ≤ e.span.start := by
  obtain ⟨x, hx, -, hstop⟩ := span_within_call laid hd
  obtain ⟨y, hy, hstart, -⟩ := span_within_call laid he
  exact hstop.trans ((laid.span_before hx hy hlt hapart).trans hstart)

lemma name_of_located (laid : LaidOut text tree) (hd : (a, d) ∈ located m file text tree) :
    d.span.start + 2 ≤ d.span.stop ∧ d.span.stop ≤ text.utf8ByteSize ∧
      ∃ body, Span.text? ⟨d.span.start + 1, d.span.stop - 1⟩ text = some body ∧
        d.name = Literal.cook body := by
  obtain ⟨i, j, hda⟩ := exists_literalAt hd
  obtain ⟨x, hx, hxspan, htext⟩ := hda.literal
  obtain ⟨-, hquotes, body, hbody, hname⟩ := literalText?_eq_some_iff.mp htext
  have hstop := (laid.boundary x (mem_nodes.mpr ⟨_, hx⟩)).2.le_size
  rw [hxspan] at hquotes hbody hstop
  exact ⟨hquotes, hstop, body, hbody, hname.symm⟩

lemma pairwise_reached (m : Markers) (file : Path) (text : String) (tree : Node)
    (cancelled : Nat → Bool) :
    (reached m file text tree cancelled).Pairwise fun x y => x.1 < y.1 := by
  rw [reached, List.pairwise_filterMap]
  refine ((pairwise_addresses tree).sublist (List.take_sublist _ _)).imp fun {a b} hab => ?_
  intro x hx y hy
  obtain ⟨d, -, rfl⟩ := Option.map_eq_some_iff.mp hx
  obtain ⟨e, -, rfl⟩ := Option.map_eq_some_iff.mp hy
  exact hab

/-- **Names lie apart and in order**: in a tree that is laid out over its text, with no call below a
plain text, every declaration covers a literal of the text with room for two quotes, and its name
is what stands between these. The bytes of two declarations are apart; unless the call of the first
encloses that of the other, it has its bytes before the other. -/
theorem declarations_lie_apart {text : String} {tree : Node} (laid : LaidOut text tree)
    (plain : NoCallInText tree) (m : Markers) (file : Path) (cancelled : Nat → Bool) :
    let list := (through m file text tree cancelled).declarations
    let calls := reached m file text tree cancelled
    list = calls.map (·.2) ∧
    (∀ d ∈ list, d.span.start + 2 ≤ d.span.stop ∧ d.span.stop ≤ text.utf8ByteSize ∧
      ∃ body, Span.text? ⟨d.span.start + 1, d.span.stop - 1⟩ text = some body ∧
        d.name = Literal.cook body) ∧
    (list.Pairwise fun d e => d.span.stop ≤ e.span.start ∨ e.span.stop ≤ d.span.start) ∧
    calls.Pairwise fun x y => ¬ x.1 <+: y.1 → x.2.span.stop ≤ y.2.span.start := by
  have hlist := declarations_eq_reached m file text tree cancelled
  have hmem {x : List Nat × Declaration} (hx : x ∈ reached m file text tree cancelled) :
      x ∈ located m file text tree :=
    (reached_prefix_located m file text tree cancelled).subset hx
  have hrises := pairwise_reached m file text tree cancelled
  refine ⟨hlist, fun d hd => ?_, ?_, ?_⟩
  · rw [hlist] at hd
    obtain ⟨x, hx, rfl⟩ := List.mem_map.mp hd
    exact name_of_located laid (hmem hx)
  · rw [hlist, List.pairwise_map]
    refine hrises.imp_of_mem fun {x y} hx hy hxy => ?_
    have hne : x.1 ≠ y.1 := fun heq => List.lt_irrefl x.1 (heq ▸ hxy)
    exact span_apart_of_located laid plain (hmem hx) (hmem hy) hne
  · exact hrises.imp_of_mem fun {x y} hx hy hxy hapart =>
      span_before_of_located laid (hmem hx) (hmem hy) hxy hapart

/-- A suite with a test in its function and another after it, and a test beside the suite. -/
theorem nested_names_lie_apart :
    let source := Source.ofText (.ofString "/a.test.ts")
      "suite('é', x => it(`b`, x => 1), /* c */ it('c', x => 2)); it('', x => 3)"
    let calls := reached ⟨["suite"], ["it"]⟩ source.path source.text source.tree never
    LaidOut source.text source.tree ∧ NoCallInText source.tree ∧
    (calls.map fun x => (x.1, x.2.span)) =
      [([0, 0], ⟨6, 10⟩), ([0, 0, 1, 1, 1], ⟨20, 23⟩), ([0, 0, 1, 3], ⟨45, 48⟩),
        ([1, 0], ⟨63, 65⟩)] ∧
    calls.Pairwise fun x y => ¬ x.1 <+: y.1 → x.2.span.stop ≤ y.2.span.start := by
  intro source calls
  have hcalls : LaidOut source.text source.tree ∧ NoCallInText source.tree ∧
      (calls.map fun x => (x.1, x.2.span)) =
        [([0, 0], ⟨6, 10⟩), ([0, 0, 1, 1, 1], ⟨20, 23⟩), ([0, 0, 1, 3], ⟨45, 48⟩),
          ([1, 0], ⟨63, 65⟩)] := by
    decide +kernel
  obtain ⟨laid, plain, hspans⟩ := hcalls
  exact ⟨laid, plain, hspans,
    (declarations_lie_apart laid plain ⟨["suite"], ["it"]⟩ source.path never).2.2.2⟩

end TestScout.Walk
