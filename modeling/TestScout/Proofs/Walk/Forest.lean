import Mathlib.Data.List.Chain
import Mathlib.Data.List.Induction
import TestScout.Proofs.Walk.Cancelled

/-!
How a list of declarations tells what encloses what. A walk goes into a declaration before it goes
on beside it, so whatever comes next in the list stands directly in the last declaration, or beside
it, or beside something around it. This is a law of the list alone, it holds of every beginning of
the list too, and by going back through the list from a declaration one finds everything around it.
-/

namespace TestScout

namespace Declaration

/-- The second declaration stands directly in the first, or beside it or something around it. -/
def Follows (d e : Declaration) : Prop := e.ancestors = d.path ∨ e.ancestors <+: d.ancestors

/-- A list of declarations among some names: the first stands directly among them, and each other
follows the one before without leaving them. -/
structure Listed (path : List String) (ds : List Declaration) : Prop where
  first : ∀ d ∈ ds.head?, d.ancestors = path
  next : ds.IsChain Follows
  among : ∀ d ∈ ds, path <+: d.ancestors

namespace Listed

variable {path : List String} {ds es : List Declaration}

lemma nil (path : List String) : Listed path [] :=
  ⟨nofun, List.isChain_nil, nofun⟩

lemma cons {d : Declaration} (h : Listed d.path ds) : Listed d.ancestors (d :: ds) where
  first e he := by rw [← Option.some.inj he]
  next := List.isChain_cons.mpr ⟨fun e he => Or.inl (h.first e he), h.next⟩
  among e he := by
    rcases List.mem_cons.mp he with rfl | he
    · exact List.prefix_refl _
    · exact (List.prefix_append _ _).trans (h.among e he)

lemma append (hd : Listed path ds) (he : Listed path es) : Listed path (ds ++ es) where
  first d h := by
    cases ds with
    | nil => exact he.first d h
    | cons _ _ => exact hd.first d h
  next := by
    refine hd.next.append he.next fun d hlast e hfirst => Or.inr ?_
    rw [he.first e hfirst]
    exact hd.among d (List.mem_of_getLast? hlast)
  among d h := (List.mem_append.mp h).elim (hd.among d) (he.among d)

lemma of_beginning (h : Listed path ds) (hes : es <+: ds) : Listed path es where
  first d hd := by
    obtain ⟨rest, rfl⟩ := hes
    cases es with
    | nil => cases hd
    | cons _ _ => exact h.first d hd
  next := h.next.prefix hes
  among d hd := h.among d (hes.subset hd)

/-- Every path that leads to a declaration of the list is that of an earlier one. -/
lemma exists_earlier {before after : List Declaration} {d : Declaration} {around : List String}
    (h : Listed [] (before ++ d :: after)) (hne : around ≠ []) (hd : around <+: d.ancestors) :
    ∃ e ∈ before, e.path = around := by
  induction before using List.reverseRecOn generalizing d after with
  | nil =>
      rw [h.first d rfl, List.prefix_nil] at hd
      exact absurd hd hne
  | append_singleton before last ih =>
      rw [List.append_assoc, List.singleton_append] at h
      -- what leads to the last declaration before `d` is found further back
      have hback (hlast : around <+: last.ancestors) : ∃ e ∈ before ++ [last], e.path = around := by
        obtain ⟨e, he, hpath⟩ := ih h hlast
        exact ⟨e, List.mem_append_left _ he, hpath⟩
      have hnext : Follows last d :=
        (List.isChain_cons_cons.mp (List.isChain_append.mp h.next).2.1).1
      rcases hnext with hinside | hbeside
      · rw [hinside, Declaration.path, List.prefix_concat_iff] at hd
        rcases hd with hlast | hlast
        · exact ⟨last, List.mem_append_right _ List.mem_cons_self, hlast.symm⟩
        · exact hback hlast
      · exact hback (hd.trans hbeside)

end Listed

end Declaration

namespace Walk

open Syntax Syntax.Node Declaration

variable {m : Markers} {file : Path} {text : String}

lemma listed_found (path : List String) (n : Node) : Listed path (found m file text path n) := by
  induction n using induct generalizing path with
  | step l cs ih =>
      have hin (below : List String) : Listed below (foundIn m file text below cs) := by
        induction cs with
        | nil => exact Listed.nil below
        | cons c cs ihcs =>
            rw [foundIn]
            exact (ih c List.mem_cons_self below).append
              (ihcs fun d hd => ih d (List.mem_cons_of_mem _ hd))
      rw [found]
      split
      · next d hd =>
        rw [← ancestors_of_declaration? hd]
        exact Listed.cons (hin d.path)
      · exact hin path

/-- **The list of declarations encodes how they are nested**, also when the walk was cut short:
the first declaration has none around it, each other stands directly in the one before it, or
beside that one or something around it, and every path that leads to a declaration is the path of
one earlier in the list. -/
theorem declarations_encode_nesting (m : Markers) (file : Path) (text : String) (tree : Node)
    (cancelled : Nat → Bool) :
    let list := (through m file text tree cancelled).declarations
    (∀ d ∈ list.head?, d.ancestors = []) ∧
    list.IsChain (fun d e => e.ancestors = d.ancestors ++ [d.name] ∨
      e.ancestors <+: d.ancestors) ∧
    ∀ before d after, list = before ++ d :: after →
      ∀ around, around ≠ [] → around <+: d.ancestors →
        ∃ e ∈ before, e.ancestors ++ [e.name] = around := by
  have hlisted : Listed [] (through m file text tree cancelled).declarations :=
    (listed_found [] tree).of_beginning (declarations_prefix_found m file text tree cancelled)
  refine ⟨hlisted.first, hlisted.next, fun before d after hlist around hne hd => ?_⟩
  exact (hlist ▸ hlisted).exists_earlier hne hd

end Walk

end TestScout
