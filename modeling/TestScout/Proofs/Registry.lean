import Mathlib.Tactic.Lemma
import TestScout.Registry

/-!
The commands by name. Under each name stands the handler that was registered last, whatever else
was registered before or after it; so under the command of an action stands what launches a
declaration the way of that action.
-/

namespace TestScout

lemma lookup_cons_if {α : Type} (k : String) (v : α) (rest : List (String × α)) (other : String) :
    ((k, v) :: rest).lookup other = if other = k then some v else rest.lookup other := by
  rw [List.lookup_cons]
  by_cases h : other = k
  · rw [if_pos h, beq_iff_eq.mpr h]
  · rw [if_neg h, beq_eq_false_iff_ne.mpr h]

lemma lookup_insertEntry {α : Type} (k : String) (v : α) (entries : List (String × α))
    (other : String) :
    (insertEntry k v entries).lookup other =
      if other = k then some v else entries.lookup other := by
  induction entries with
  | nil => exact lookup_cons_if k v [] other
  | cons e rest ih =>
      obtain ⟨k', v'⟩ := e
      rw [insertEntry]
      split
      · exact lookup_cons_if k v _ other
      · rw [lookup_cons_if k' v' rest]
        split
        · next hk =>
          subst hk
          rw [lookup_cons_if]
          split <;> rfl
        · next hk =>
          rw [lookup_cons_if, ih]
          by_cases h : other = k'
          · rw [if_pos h, if_neg fun e => hk (e.symm.trans h), if_pos h]
          · rw [if_neg h, if_neg h]

lemma Dict.get?_insert {α : Type} (d : Dict α) (k : String) (v : α) (other : String) :
    (d.insert k v).get? other = if other = k then some v else d.get? other :=
  lookup_insertEntry k v d.entries other

namespace Registry

lemma get?_register (r : Registry) (id : String) (handler : Handler) (other : String) :
    (r.register id handler).handlers.get? other =
      if other = id then some handler else r.handlers.get? other :=
  r.handlers.get?_insert id handler other

lemma get?_ofSettings (s : Settings) (a : Action) :
    (ofSettings s).handlers.get? a.command = some fun w d => s.build w d a.mode := by
  unfold ofSettings Action.all
  rw [List.foldl_cons, List.foldl_cons, List.foldl_nil, get?_register, get?_register]
  cases a with
  | run => rw [if_neg (by decide), if_pos rfl]
  | debug => rw [if_pos rfl]

/-- The command of an action, given a declaration, launches it the way of the action. -/
theorem execute_ofSettings {s : Settings} {argument : Json} {d : Declaration}
    (h : Declaration.ofJson argument = .ok d) (w : World) (a : Action) (more : List Json) :
    (ofSettings s).execute w a.command (argument :: more) = s.build w d a.mode := by
  unfold execute
  rw [get?_ofSettings]
  simp only [h]

end Registry

end TestScout
