import Mathlib.Data.List.Forall2
import TestScout.Proofs.Walk.Call
import TestScout.Proofs.Walk.Cancelled

/-!
What more markers find. More names make more calls declarations and take none away, so a walk with
more markers finds what one with fewer finds, in the same order, each declaration perhaps with more
names around it. Which of the two lists of markers a name is in decides nothing but the kind.
-/

namespace TestScout

/-- The second declaration is the first again, perhaps of another kind and with more declarations
around it. -/
structure Declaration.Recurs (d e : Declaration) : Prop where
  file : d.file = e.file
  span : d.span = e.span
  name : d.name = e.name
  ancestors : d.ancestors.Sublist e.ancestors

lemma Declaration.Recurs.eq_of_recurs {d e : Declaration} (hde : d.Recurs e) (hed : e.Recurs d) :
    { d with kind := e.kind } = e := by
  obtain ⟨kind, file, span, name, ancestors⟩ := d
  obtain ⟨rfl, rfl, rfl, hsub⟩ := hde
  obtain rfl := hsub.antisymm hed.ancestors
  rfl

namespace Walk

open Syntax Syntax.Node

/-! ### Lists -/

section Lists

variable {α β γ : Type} {R : β → γ → Prop}

lemma sublistForall₂_filterMap {f : α → Option β} {g : α → Option γ}
    (h : ∀ a x, f a = some x → ∃ y, g a = some y ∧ R x y) (l : List α) :
    List.SublistForall₂ R (l.filterMap f) (l.filterMap g) := by
  induction l with
  | nil => exact List.SublistForall₂.nil
  | cons a l ih =>
      rw [List.filterMap_cons, List.filterMap_cons]
      rcases hf : f a with _ | x
      · cases g a with
        | none => exact ih
        | some y => exact ih.cons_right
      · obtain ⟨y, hg, hxy⟩ := h a x hf
        rw [hg]
        exact ih.cons hxy

lemma filterMap_sublist_filterMap {f g : α → Option β} (h : ∀ a x, f a = some x → g a = some x)
    (l : List α) : (l.filterMap f).Sublist (l.filterMap g) := by
  have hl := sublistForall₂_filterMap (R := Eq) (fun a x hx => ⟨x, h a x hx, rfl⟩) l
  obtain ⟨k, hk, hsub⟩ := List.sublistForall₂_iff.mp hl
  rw [List.forall₂_eq_eq_eq] at hk
  exact hk ▸ hsub

lemma length_le_of_sublistForall₂ {l : List β} {k : List γ} (h : List.SublistForall₂ R l k) :
    l.length ≤ k.length := by
  obtain ⟨j, hj, hsub⟩ := List.sublistForall₂_iff.mp h
  exact hj.length_eq ▸ hsub.length_le

/-- Two lists, each of which is in relation to a part of the other, are so entry by entry. -/
lemma forall₂_of_sublistForall₂ {S : γ → β → Prop} {l : List β} {k : List γ}
    (h : List.SublistForall₂ R l k) (h' : List.SublistForall₂ S k l) :
    List.Forall₂ (fun x y => R x y ∧ S y x) l k := by
  have hlength : l.length = k.length :=
    Nat.le_antisymm (length_le_of_sublistForall₂ h) (length_le_of_sublistForall₂ h')
  obtain ⟨j, hj, hsub⟩ := List.sublistForall₂_iff.mp h
  obtain ⟨j', hj', hsub'⟩ := List.sublistForall₂_iff.mp h'
  obtain rfl : j = k := hsub.eq_of_length (hj.length_eq ▸ hlength)
  obtain rfl : j' = l := hsub'.eq_of_length (hj'.length_eq ▸ hlength.symm)
  rw [List.forall₂_iff_get] at hj hj' ⊢
  exact ⟨hlength, fun i hl hk => ⟨hj.2 i hl hk, hj'.2 i hk hl⟩⟩

end Lists

/-! ### Walks with more markers -/

section More

variable {m more : Markers} {file : Path} {text : String}

lemma declaration?_of_subset (h : m.names ⊆ more.names) {path : List String} {n : Node}
    {d : Declaration} (hd : declaration? m file text path n = some d) (around : List String) :
    ∃ kind, declaration? more file text around n =
      some ⟨kind, d.file, d.span, d.name, around⟩ := by
  obtain ⟨name, kind, span, title, hname, hkind, htitle, rfl⟩ :=
    declaration?_eq_some_iff_call.mp hd
  have hfew : name ∈ m.names := Markers.isSome_kind?_iff.mp (by rw [hkind]; rfl)
  obtain ⟨kind', hkind'⟩ := Option.isSome_iff_exists.mp (Markers.isSome_kind?_iff.mpr (h hfew))
  exact ⟨kind', declaration?_eq_some_iff_call.mpr
    ⟨name, kind', span, title, hname, hkind', htitle, rfl⟩⟩

lemma nameOf?_of_subset (h : m.names ⊆ more.names) (n : Node) (name : String)
    (hname : nameOf? m file text n = some name) : nameOf? more file text n = some name := by
  obtain ⟨d, hd, rfl⟩ := Option.map_eq_some_iff.mp hname
  obtain ⟨kind, hmore⟩ := declaration?_of_subset h hd []
  rw [nameOf?, hmore]
  rfl

lemma namesAround_sublist (h : m.names ⊆ more.names) (tree : Node) (a : List Nat) :
    (namesAround m file text tree a).Sublist (namesAround more file text tree a) :=
  filterMap_sublist_filterMap (nameOf?_of_subset h) _

lemma declaredAt?_of_subset (h : m.names ⊆ more.names) {tree : Node} {a : List Nat}
    {d : Declaration} (hd : declaredAt? m file text tree a = some d) :
    ∃ e, declaredAt? more file text tree a = some e ∧ d.Recurs e := by
  obtain ⟨n, hn, hdecl⟩ := Option.bind_eq_some_iff.mp hd
  obtain ⟨kind, hmore⟩ :=
    declaration?_of_subset h hdecl (namesAround more file text tree a)
  have hagain : declaredAt? more file text tree a =
      some ⟨kind, d.file, d.span, d.name, namesAround more file text tree a⟩ := by
    rw [declaredAt?, hn, Option.bind_some, hmore]
  refine ⟨_, hagain, rfl, rfl, rfl, ?_⟩
  rw [ancestors_of_declaration? hdecl]
  exact namesAround_sublist h tree a

lemma reached_of_subset (h : m.names ⊆ more.names) (tree : Node) (cancelled : Nat → Bool) :
    List.SublistForall₂ (fun x y => x.1 = y.1 ∧ x.2.Recurs y.2)
      (reached m file text tree cancelled) (reached more file text tree cancelled) := by
  refine sublistForall₂_filterMap (fun a x hx => ?_) _
  obtain ⟨d, hd, rfl⟩ := Option.map_eq_some_iff.mp hx
  obtain ⟨e, he, hde⟩ := declaredAt?_of_subset h hd
  exact ⟨(a, e), by rw [he]; rfl, rfl, hde⟩

end More

lemma kind_of_mem_reached {m : Markers} {file : Path} {text : String} {tree : Node}
    {cancelled : Nat → Bool} {a : List Nat} {d : Declaration}
    (h : (a, d) ∈ reached m file text tree cancelled) :
    ∃ n name, tree.at? a = some n ∧ calleeName? text n = some name ∧
      m.kind? name = some d.kind := by
  have hd := mem_located.mp ((reached_prefix_located m file text tree cancelled).subset h)
  obtain ⟨n, hn, hdecl⟩ := Option.bind_eq_some_iff.mp hd
  obtain ⟨name, kind, span, title, hname, hkind, -, rfl⟩ :=
    declaration?_eq_some_iff_call.mp hdecl
  exact ⟨n, name, hn, hname, hkind⟩

/-- **More markers find more**: if all names of the first markers are names of the second, then the
declarations under the first are, call by call and in order, some of those under the second, in the
same file, at the same bytes, of the same name, and with no other names around them. If the second
have no further names, both find the same but for the kinds. A declaration is a suite just when its
callee is among the suite markers. -/
theorem declarations_of_more_markers {m more : Markers} (subset : m.names ⊆ more.names)
    (file : Path) (text : String) (tree : Node) (cancelled : Nat → Bool) :
    let few := reached m file text tree cancelled
    let many := reached more file text tree cancelled
    (through m file text tree cancelled).declarations = few.map (·.2) ∧
    (through more file text tree cancelled).declarations = many.map (·.2) ∧
    List.SublistForall₂ (fun x y => x.1 = y.1 ∧ x.2.Recurs y.2) few many ∧
    (more.names ⊆ m.names →
      List.Forall₂ (fun x y => x.1 = y.1 ∧ { x.2 with kind := y.2.kind } = y.2) few many) ∧
    ∀ a d, (a, d) ∈ few → ∃ n name, tree.at? a = some n ∧ calleeName? text n = some name ∧
      (d.kind = .suite ↔ name ∈ m.suites) := by
  refine ⟨declarations_eq_reached m file text tree cancelled,
    declarations_eq_reached more file text tree cancelled,
    reached_of_subset subset tree cancelled, fun superset => ?_, fun a d hd => ?_⟩
  · have hboth := forall₂_of_sublistForall₂ (reached_of_subset subset tree cancelled)
      (@reached_of_subset more m file text superset tree cancelled)
    refine hboth.imp fun x y hxy => ?_
    exact ⟨hxy.1.1, hxy.1.2.eq_of_recurs hxy.2.2⟩
  · obtain ⟨n, name, hn, hname, hkind⟩ := kind_of_mem_reached hd
    refine ⟨n, name, hn, hname, ?_⟩
    rw [← Markers.kind?_eq_suite_iff, hkind, Option.some.injEq]

/-- A test in a suite, under markers that only know the test, as a suite, and under markers that
know both. -/
theorem test_recurs_in_suite :
    List.SublistForall₂ (fun x y : List Nat × Declaration => x.1 = y.1 ∧ x.2.Recurs y.2)
      [([0, 0, 1, 1, 1, 0, 0], ⟨.suite, .ofString "/a.test.ts", ⟨25, 28⟩, "B", []⟩)]
      [([0, 0], ⟨.suite, .ofString "/a.test.ts", ⟨9, 12⟩, "A", []⟩),
        ([0, 0, 1, 1, 1, 0, 0], ⟨.test, .ofString "/a.test.ts", ⟨25, 28⟩, "B", ["A"]⟩)] := by
  let source := Source.ofText (.ofString "/a.test.ts")
    "describe('A', () => \x7b it('B', () => \x7b\x7d) \x7d)"
  let few : Markers := ⟨["it"], []⟩
  let many : Markers := ⟨["describe"], ["describe", "it"]⟩
  have hfew : reached few source.path source.text source.tree never =
      [([0, 0, 1, 1, 1, 0, 0], ⟨.suite, source.path, ⟨25, 28⟩, "B", []⟩)] := by
    decide +kernel
  have hmany : reached many source.path source.text source.tree never =
      [([0, 0], ⟨.suite, source.path, ⟨9, 12⟩, "A", []⟩),
        ([0, 0, 1, 1, 1, 0, 0], ⟨.test, source.path, ⟨25, 28⟩, "B", ["A"]⟩)] := by
    decide +kernel
  have hsub : few.names ⊆ many.names := by decide
  have h := (declarations_of_more_markers hsub source.path source.text source.tree never).2.2.1
  rwa [hfew, hmany] at h

end Walk

end TestScout
