import TestScout.Proofs.Walk.Preorder

/-!
What a match takes from a call. The markers only say what the name of the callee declares; the name
itself, the literal and the title that it stands for are read from the tree and the text alone.
-/

namespace TestScout

namespace Markers

def names (m : Markers) : List String := m.suites ++ m.tests

lemma kind?_eq_suite_iff {m : Markers} {name : String} :
    m.kind? name = some .suite ↔ name ∈ m.suites := by
  unfold kind?
  split
  · next h => simpa using h
  · next h =>
    rw [List.contains_iff_mem] at h
    refine iff_of_false (fun hkind => ?_) h
    split at hkind <;> cases hkind

lemma isSome_kind?_iff {m : Markers} {name : String} :
    (m.kind? name).isSome = true ↔ name ∈ m.names := by
  have hsuites : m.suites.contains name = true ↔ name ∈ m.suites := List.contains_iff_mem
  have htests : m.tests.contains name = true ↔ name ∈ m.tests := List.contains_iff_mem
  rw [names, List.mem_append, ← hsuites, ← htests, kind?]
  cases m.suites.contains name <;> cases m.tests.contains name <;> simp

end Markers

namespace Walk

open Syntax Syntax.Node

/-- The bare name that a call calls. -/
def calleeName? (text : String) (n : Node) : Option String :=
  if n.kind = .call then
    (n.child? .callee).bind fun callee =>
      if callee.kind = .identifier then callee.span.text? text else none
  else none

def firstArguments? (n : Node) : Option (Node × Node) :=
  (n.child? .arguments).bind fun arguments =>
    if arguments.kind = .arguments then
      match arguments.parts with
      | first :: second :: _ => some (first, second)
      | _ => none
    else none

/-- The stretch and the title of the literal that a call with a function begins with. -/
def title? (text : String) (n : Node) : Option (Span × String) :=
  (firstArguments? n).bind fun e =>
    if isFunction e.2 then (literalText? text e.1).map (e.1.span, ·) else none

variable {m : Markers} {file : Path} {text : String} {path : List String} {n : Node}

lemma kind_of_calleeName? {name : String} (h : calleeName? text n = some name) :
    n.kind = .call := by
  unfold calleeName? at h
  split at h
  · assumption
  · cases h

lemma exists_of_firstArguments? {literal function : Node}
    (h : firstArguments? n = some (literal, function)) :
    ∃ (i j : Nat) (arguments : Node), n.children[i]? = some arguments ∧
      arguments.kind = .arguments ∧ arguments.children[j]? = some literal := by
  obtain ⟨arguments, harguments, h⟩ := Option.bind_eq_some_iff.mp h
  obtain ⟨i, hi⟩ := List.mem_iff_getElem?.mp (List.mem_of_find?_eq_some harguments)
  split at h
  · next hkind =>
    rcases hparts : arguments.parts with _ | ⟨first, _ | ⟨second, rest⟩⟩
    · simp [hparts] at h
    · simp [hparts] at h
    · obtain ⟨rfl, rfl⟩ : first = literal ∧ second = function := by simpa [hparts] using h
      have hpart : first ∈ arguments.parts := hparts ▸ List.mem_cons_self
      obtain ⟨j, hj⟩ := List.mem_iff_getElem?.mp (List.mem_of_mem_filter hpart)
      exact ⟨i, j, arguments, hi, hkind, hj⟩
  · cases h

/-- A literal has a title if it is a plain text with room for its two quotes, and what stands
between these can be cut out of the text. -/
lemma literalText?_eq_some_iff {title : String} :
    literalText? text n = some title ↔ isPlainText n = true ∧ n.span.start + 2 ≤ n.span.stop ∧
      ∃ body, Span.text? ⟨n.span.start + 1, n.span.stop - 1⟩ text = some body ∧
        Literal.cook body = title := by
  unfold literalText?
  split
  · next h =>
    rw [Bool.and_eq_true, decide_eq_true_eq] at h
    rw [Option.map_eq_some_iff]
    exact ⟨fun hbody => ⟨h.1, h.2, hbody⟩, fun hbody => hbody.2.2⟩
  · next h =>
    rw [Bool.and_eq_true, decide_eq_true_eq] at h
    exact iff_of_false nofun fun hbody => h ⟨hbody.1, hbody.2.1⟩

lemma markedCall?_eq_bind :
    markedCall? m text n = (calleeName? text n).bind fun name => (m.kind? name).bind fun kind =>
      (firstArguments? n).map (kind, ·) := by
  unfold markedCall? calleeName? firstArguments?
  by_cases hcall : n.kind = .call
  · rcases n.child? .callee with _ | callee
    · simp [hcall]
    · by_cases hbare : callee.kind = .identifier
      · rcases n.child? .arguments with _ | arguments
        · simp [hcall, hbare]
        · by_cases harguments : arguments.kind = .arguments
          · rcases hparts : arguments.parts with _ | ⟨first, _ | ⟨second, rest⟩⟩ <;>
              simp [hcall, hbare, harguments, hparts, Option.failure_eq_none]
          · simp [hcall, hbare, harguments, Option.failure_eq_none]
      · simp [hcall, hbare, Option.failure_eq_none]
  · simp [hcall, Option.failure_eq_none]

/-- What a node declares: the markers only give the kind of the name that it calls. -/
lemma declaration?_eq_bind :
    declaration? m file text path n =
      (calleeName? text n).bind fun name => (m.kind? name).bind fun kind =>
        (title? text n).map fun e => ⟨kind, file, e.1, e.2, path⟩ := by
  unfold declaration? title?
  rw [markedCall?_eq_bind]
  rcases calleeName? text n with _ | name
  · rfl
  · rcases hkind : m.kind? name with _ | kind
    · simp [hkind]
    · rcases firstArguments? n with _ | ⟨literal, function⟩
      · simp
      · cases hf : isFunction function
        · simp [hkind, hf, Option.failure_eq_none]
        · rcases htitle : literalText? text literal with _ | title <;> simp [hkind, hf, htitle]

lemma title?_eq_some_iff {span : Span} {title : String} :
    title? text n = some (span, title) ↔
      ∃ literal function, firstArguments? n = some (literal, function) ∧
        isFunction function = true ∧ literal.span = span ∧
          literalText? text literal = some title := by
  rw [title?, Option.bind_eq_some_iff]
  constructor
  · rintro ⟨⟨literal, function⟩, hfirst, h⟩
    split at h
    · next hf =>
      obtain ⟨_, htext, heq⟩ := Option.map_eq_some_iff.mp h
      obtain ⟨rfl, rfl⟩ := Prod.mk.inj heq
      exact ⟨literal, function, hfirst, hf, rfl, htext⟩
    · cases h
  · rintro ⟨literal, function, hfirst, hf, rfl, htext⟩
    exact ⟨(literal, function), hfirst, by rw [if_pos hf, htext]; rfl⟩

lemma declaration?_eq_some_iff_call {d : Declaration} :
    declaration? m file text path n = some d ↔
      ∃ name kind span title, calleeName? text n = some name ∧ m.kind? name = some kind ∧
        title? text n = some (span, title) ∧ ⟨kind, file, span, title, path⟩ = d := by
  rw [declaration?_eq_bind]
  constructor
  · intro h
    obtain ⟨name, hname, h⟩ := Option.bind_eq_some_iff.mp h
    obtain ⟨kind, hkind, h⟩ := Option.bind_eq_some_iff.mp h
    obtain ⟨⟨span, title⟩, htitle, rfl⟩ := Option.map_eq_some_iff.mp h
    exact ⟨name, kind, span, title, hname, hkind, htitle, rfl⟩
  · rintro ⟨name, kind, span, title, hname, hkind, htitle, rfl⟩
    rw [hname, Option.bind_some, hkind, Option.bind_some, htitle, Option.map_some]

end Walk

end TestScout
