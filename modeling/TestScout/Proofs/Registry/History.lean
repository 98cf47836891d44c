import Mathlib.Data.List.Induction
import TestScout.Proofs.Registry
import TestScout.Proofs.Text.ByteOrder

/-!
Commands that have been registered one after the other. What stands under a name is what was
registered last under it, since every registration leaves all other names as they are; the names
are those that were ever registered, each of them once, in the order of their bytes. So what comes
of executing a command can be told from the history alone.
-/

namespace TestScout

lemma exists_lookup_iff {α : Type} {entries : List (String × α)} {k : String} :
    (∃ v, entries.lookup k = some v) ↔ ∃ v, (k, v) ∈ entries := by
  rw [← Option.isSome_iff_exists, List.lookup_isSome_iff]
  constructor
  · rintro ⟨e, he, hk⟩
    obtain rfl := eq_of_beq hk
    exact ⟨e.2, he⟩
  · rintro ⟨v, hv⟩
    exact ⟨(k, v), hv, BEq.rfl⟩

lemma Dict.mem_names_iff {α : Type} {d : Dict α} {k : String} :
    k ∈ d.names ↔ ∃ v, d.get? k = some v := by
  simp only [get?, exists_lookup_iff, names, List.mem_map, Prod.exists, exists_and_right,
    exists_eq_right]

/-- The names of a table are in the order of their bytes. -/
lemma Dict.pairwise_names {α : Type} (d : Dict α) :
    d.names.Pairwise fun a b => Text.toBytes a < Text.toBytes b :=
  List.pairwise_map.mpr (d.rise.imp Text.toBytes_lt)

namespace Registry

/-- The commands after some have been registered, one after the other. -/
def registered (history : List (String × Handler)) : Registry :=
  history.foldl (fun r e => r.register e.1 e.2) empty

/-- The handler was registered under the name, and nothing was registered under it later. -/
def LastUnder (history : List (String × Handler)) (id : String) (handler : Handler) : Prop :=
  ∃ before after, history = before ++ (id, handler) :: after ∧ ∀ e ∈ after, e.1 ≠ id

variable {history : List (String × Handler)} {id : String} {handler : Handler}

lemma registered_append_singleton (history : List (String × Handler)) (e : String × Handler) :
    registered (history ++ [e]) = (registered history).register e.1 e.2 := by
  rw [registered, List.foldl_append]
  rfl

lemma get?_registered (history : List (String × Handler)) (id : String) :
    (registered history).handlers.get? id = history.reverse.lookup id := by
  induction history using List.reverseRecOn with
  | nil => rfl
  | append_singleton history e ih =>
      rw [registered_append_singleton, get?_register, ih, List.reverse_concat, lookup_cons_if]

/-- **The last registration counts**: under a name stands what was registered last under it. -/
theorem get?_registered_eq_some_iff :
    (registered history).handlers.get? id = some handler ↔ LastUnder history id handler := by
  rw [get?_registered, List.lookup_eq_some_iff]
  constructor
  · rintro ⟨after, before, heq, hafter⟩
    refine ⟨before.reverse, after.reverse, ?_, fun e he => ?_⟩
    · rw [← List.reverse_reverse history, heq, List.reverse_append, List.reverse_cons,
        List.append_assoc, List.singleton_append]
    · exact Ne.symm (bne_iff_ne.mp (hafter e (List.mem_reverse.mp he)))
  · rintro ⟨before, after, rfl, hafter⟩
    refine ⟨after.reverse, before.reverse, ?_, fun e he => ?_⟩
    · rw [List.reverse_append, List.reverse_cons, List.append_assoc, List.singleton_append]
    · exact bne_iff_ne.mpr (Ne.symm (hafter e (List.mem_reverse.mp he)))

lemma exists_lastUnder_iff :
    (∃ handler, LastUnder history id handler) ↔ ∃ handler, (id, handler) ∈ history := by
  simp only [← get?_registered_eq_some_iff, get?_registered, exists_lookup_iff, List.mem_reverse]

lemma mem_ids_registered_iff :
    id ∈ (registered history).ids ↔ ∃ handler, (id, handler) ∈ history := by
  rw [ids, Dict.mem_names_iff, ← exists_lastUnder_iff]
  simp only [get?_registered_eq_some_iff]

/-- What comes of executing a command after some have been registered: one handler is run for one
declaration, or none is run and there is a failure. -/
inductive Course (history : List (String × Handler)) (id : String) :
    List Json → Except Failure (Handler × Declaration) → Prop
  | unknown {arguments : List Json} (never : ∀ handler, (id, handler) ∉ history) :
      Course history id arguments (.error (.unknownCommand id))
  | missing {handler : Handler} (last : LastUnder history id handler) :
      Course history id [] (.error (.invalidArgument .missing))
  | unread {handler : Handler} {v : Json} {more : List Json} {failure : Failure}
      (last : LastUnder history id handler) (read : Declaration.ofJson v = .error failure) :
      Course history id (v :: more) (.error failure)
  | handled {handler : Handler} {v : Json} {more : List Json} {d : Declaration}
      (last : LastUnder history id handler) (read : Declaration.ofJson v = .ok d) :
      Course history id (v :: more) (.ok (handler, d))

variable {arguments : List Json}

lemma exists_course (history : List (String × Handler)) (id : String) (arguments : List Json) :
    ∃ course, Course history id arguments course := by
  by_cases h : ∃ handler, (id, handler) ∈ history
  · obtain ⟨handler, last⟩ := exists_lastUnder_iff.mpr h
    rcases arguments with _ | ⟨v, more⟩
    · exact ⟨_, .missing last⟩
    · cases read : Declaration.ofJson v with
      | error failure => exact ⟨_, .unread last read⟩
      | ok d => exact ⟨_, .handled last read⟩
  · exact ⟨_, .unknown fun handler hmem => h ⟨handler, hmem⟩⟩

lemma LastUnder.unique {other : Handler} (h : LastUnder history id handler)
    (h' : LastUnder history id other) : other = handler := by
  rw [← get?_registered_eq_some_iff] at h h'
  exact Option.some.inj (h'.symm.trans h)

lemma LastUnder.not_never (h : LastUnder history id handler) :
    ¬ ∀ handler, (id, handler) ∉ history := by
  intro never
  obtain ⟨handler, hmem⟩ := exists_lastUnder_iff.mp ⟨handler, h⟩
  exact never handler hmem

lemma Course.unique {course other : Except Failure (Handler × Declaration)}
    (h : Course history id arguments course) (h' : Course history id arguments other) :
    other = course := by
  cases h with
  | unknown never =>
      cases h' with
      | unknown => rfl
      | missing last | unread last | handled last => exact absurd never last.not_never
  | missing last =>
      cases h' with
      | unknown never => exact absurd never last.not_never
      | missing => rfl
  | unread last read =>
      cases h' with
      | unknown never => exact absurd never last.not_never
      | unread _ read' => exact congrArg Except.error (Except.error.inj (read'.symm.trans read))
      | handled _ read' => cases read.symm.trans read'
  | handled last read =>
      cases h' with
      | unknown never => exact absurd never last.not_never
      | unread _ read' => cases read.symm.trans read'
      | handled last' read' =>
          obtain rfl := Except.ok.inj (read.symm.trans read')
          rw [last.unique last']

lemma Course.execute_eq {course : Except Failure (Handler × Declaration)}
    (h : Course history id arguments course) (w : World) :
    (registered history).execute w id arguments = course.bind fun c => c.1 w c.2 := by
  unfold execute
  cases h with
  | unknown never =>
      have hnone : (registered history).handlers.get? id = none := by
        rw [Option.eq_none_iff_forall_ne_some]
        intro handler hsome
        exact (get?_registered_eq_some_iff.mp hsome).not_never never
      rw [hnone]
      rfl
  | missing last =>
      rw [get?_registered_eq_some_iff.mpr last]
      rfl
  | unread last read | handled last read =>
      rw [get?_registered_eq_some_iff.mpr last]
      simp only [read]
      rfl

/-- **Registered commands**: after any registrations the names of the commands are those that were
registered, each once, in the order of their bytes. Executing a command takes just one course: the
handler that was registered last under its name, and no other, is run for the declaration that the
first argument is read as, and its result is the result; under a name that was never registered,
without an argument, or with a first argument that is no declaration, there is a failure whatever
the handlers do. -/
theorem execute_runs_last (history : List (String × Handler)) :
    ((registered history).ids.Pairwise fun a b => Text.toBytes a < Text.toBytes b) ∧
    (∀ id, id ∈ (registered history).ids ↔ ∃ handler, (id, handler) ∈ history) ∧
    ∀ (id : String) (arguments : List Json), ∃ course,
      Course history id arguments course ∧
      (∀ other, Course history id arguments other → other = course) ∧
      ∀ w, (registered history).execute w id arguments = course.bind fun c => c.1 w c.2 := by
  refine ⟨Dict.pairwise_names _, fun id => mem_ids_registered_iff, fun id arguments => ?_⟩
  obtain ⟨course, h⟩ := exists_course history id arguments
  exact ⟨course, h, fun other h' => h.unique h', h.execute_eq⟩

end Registry

end TestScout
