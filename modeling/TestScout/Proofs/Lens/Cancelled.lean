import TestScout.Proofs.Lens

/-!
Which offers have lenses. Before each offer it is asked whether the making of lenses has been
cancelled, and from the first yes on none is made; of the offers before it, those of a declaration
whose path is no text are passed over, and all others have their lens. What is passed over takes
its turn like the rest, so nothing that comes later depends on it.
-/

namespace TestScout

/-- How many of `count` questions, the first of which has the number `first`, are answered no
before one is answered yes. -/
def refusals (cancelled : Nat → Bool) (first count : Nat) : Nat :=
  ((List.range' first count).takeWhile fun n => !cancelled n).length

lemma refusals_of_yes {cancelled : Nat → Bool} {first : Nat} (h : cancelled first = true)
    (count : Nat) : refusals cancelled first (count + 1) = 0 := by
  rw [refusals, List.range'_succ, List.takeWhile_cons_of_neg (by simp [h]), List.length_nil]

lemma refusals_of_no {cancelled : Nat → Bool} {first : Nat} (h : ¬ cancelled first = true)
    (count : Nat) :
    refusals cancelled first (count + 1) = refusals cancelled (first + 1) count + 1 := by
  rw [refusals, List.range'_succ, List.takeWhile_cons_of_pos (by simpa using h), List.length_cons,
    refusals]

lemma refusals_never (first count : Nat) : refusals Walk.never first count = count := by
  induction count generalizing first with
  | zero => rfl
  | succ count ih => rw [refusals_of_no Bool.false_ne_true, ih]

lemma length_offers (ds : List Declaration) : (offers ds).length = 2 * ds.length := by
  induction ds with
  | nil => rfl
  | cons d ds ih =>
      show (offers ds).length + 2 = _
      rw [ih, List.length_cons, Nat.mul_add]

lemma offers_append (ds es : List Declaration) : offers (ds ++ es) = offers ds ++ offers es :=
  List.flatMap_append

namespace Lens

variable {text : String} {d : Declaration}

/-- The lenses of those offers whose declaration has a path that is a text. -/
def encoded (text : String) (os : List Offer) : List Lens :=
  os.filterMap fun o => o.declaration.file.toString?.map fun file =>
    on (.ofText text) file o.declaration o.action

lemma encoded_append (os ps : List Offer) :
    encoded text (os ++ ps) = encoded text os ++ encoded text ps := List.filterMap_append

lemma encoded_offers_of_none (h : d.file.toString? = none) (n : Nat) :
    encoded text ((offers [d]).take n) = [] := by
  refine List.filterMap_eq_nil_iff.mpr fun o ho => ?_
  obtain ⟨e, he, hoffer⟩ := List.mem_flatMap.mp (List.mem_of_mem_take ho)
  obtain rfl := List.mem_singleton.mp he
  obtain ⟨a, -, rfl⟩ := List.mem_map.mp hoffer
  rw [h, Option.map_none]

lemma encoded_offers_cons {file : String} (h : d.file.toString? = some file)
    (ds : List Declaration) :
    encoded text (offers (d :: ds)) = on (.ofText text) file d .run ::
      on (.ofText text) file d .debug :: encoded text (offers ds) := by
  have hoffers : offers (d :: ds) = ⟨d.span, .run, d⟩ :: ⟨d.span, .debug, d⟩ :: offers ds := rfl
  unfold encoded
  rw [hoffers, List.filterMap_cons, List.filterMap_cons, h]
  rfl

lemma ofOffers_eq (t : LineTable) (cancelled : Nat → Bool) (n : Nat) (os : List Offer) :
    ofOffers t cancelled n os =
      (os.take (refusals cancelled n os.length)).filterMap fun o => (ofOffer t o).toOption := by
  induction os generalizing n with
  | nil => rfl
  | cons o os ih =>
      rw [ofOffers, List.length_cons]
      split
      · next hyes =>
        rw [refusals_of_yes hyes]
        rfl
      · next hno =>
        rw [refusals_of_no hno, List.take_succ_cons, List.filterMap_cons]
        cases ofOffer t o with
        | ok lens => exact congrArg (lens :: ·) (ih (n + 1))
        | error f => exact ih (n + 1)

lemma toOption_ofOffer {ds : List Declaration} {o : Offer} (h : o ∈ offers ds) :
    (ofOffer (.ofText text) o).toOption = o.declaration.file.toString?.map fun file =>
      on (.ofText text) file o.declaration o.action := by
  obtain ⟨d, -, h⟩ := List.mem_flatMap.mp h
  obtain ⟨a, -, rfl⟩ := List.mem_map.mp h
  cases hfile : d.file.toString? with
  | some file =>
      rw [ofOffer_eq hfile]
      rfl
  | none =>
      unfold ofOffer Declaration.toJson
      simp only [hfile]
      rfl

lemma lenses_eq_encoded (text : String) (ds : List Declaration) (cancelled : Nat → Bool) :
    lenses text ds cancelled =
      encoded text ((offers ds).take (refusals cancelled 0 (2 * ds.length))) := by
  rw [lenses, ofOffers_eq, length_offers, encoded]
  exact List.filterMap_congr fun o ho => toOption_ofOffer (List.mem_of_mem_take ho)

lemma lenses_among (text : String) (before after : List Declaration) (d : Declaration)
    (cancelled : Nat → Bool) {n : Nat}
    (hn : n = refusals cancelled 0 (2 * (before.length + 1 + after.length))) :
    lenses text (before ++ d :: after) cancelled =
      encoded text ((offers before).take n) ++
        encoded text ((offers [d]).take (n - 2 * before.length)) ++
        encoded text ((offers after).take (n - 2 * before.length - 2)) := by
  have hlength : (before ++ d :: after).length = before.length + 1 + after.length := by
    rw [List.length_append, List.length_cons, Nat.add_assoc, Nat.add_comm 1]
  rw [lenses_eq_encoded, hlength, ← hn, List.append_cons, offers_append, offers_append,
    List.take_append, List.take_append, encoded_append, encoded_append, List.length_append,
    length_offers, length_offers, List.length_singleton, Nat.sub_add_eq]

lemma getElem?_encoded {ds : List Declaration} (h : ∀ d ∈ ds, ∃ file, d.file.toString? = some file)
    {i : Nat} (hd : ds[i]? = some d) :
    ∃ file, d.file.toString? = some file ∧
      (encoded text (offers ds))[2 * i]? = some (on (.ofText text) file d .run) ∧
      (encoded text (offers ds))[2 * i + 1]? = some (on (.ofText text) file d .debug) := by
  induction ds generalizing i with
  | nil => cases hd
  | cons e ds ih =>
      obtain ⟨file, hfile⟩ := h e List.mem_cons_self
      rw [encoded_offers_cons hfile]
      cases i with
      | zero =>
          obtain rfl := Option.some.inj hd
          exact ⟨file, hfile, rfl, rfl⟩
      | succ i => exact ih (fun d hd => h d (List.mem_cons_of_mem _ hd)) hd

lemma length_encoded {ds : List Declaration} (h : ∀ d ∈ ds, ∃ file, d.file.toString? = some file) :
    (encoded text (offers ds)).length = 2 * ds.length := by
  induction ds with
  | nil => rfl
  | cons d ds ih =>
      obtain ⟨file, hfile⟩ := h d List.mem_cons_self
      rw [encoded_offers_cons hfile, List.length_cons, List.length_cons,
        ih fun d hd => h d (List.mem_cons_of_mem _ hd), List.length_cons, Nat.mul_add]

/-- **Lenses, cancelled or not**: the lenses of declarations are those of the offers before the
first question that is answered yes, as far as their paths are texts. What comes before a
declaration and what comes after it have the same lenses whatever the declaration is, and it has
none of its own if its path is no text. Uncancelled, with paths that are texts, each declaration has
its lens to run it and then its lens to debug it, at the same range and with the same argument, out
of which the declaration is read again. -/
theorem lenses_offered (text : String) (ds : List Declaration) (cancelled : Nat → Bool) :
    lenses text ds cancelled = ((offers ds).take (refusals cancelled 0 (2 * ds.length))).filterMap
      (fun o => o.declaration.file.toString?.map fun file =>
        on (.ofText text) file o.declaration o.action) ∧
    (∀ before after : List Declaration, ∃ front back : List Lens, ∀ d : Declaration,
      ∃ own : List Lens,
        lenses text (before ++ d :: after) cancelled = front ++ own ++ back ∧
        own <+: lenses text [d] Walk.never ∧ (d.file.toString? = none → own = [])) ∧
    ((∀ d ∈ ds, ∃ file, d.file.toString? = some file) →
      (lenses text ds Walk.never).length = 2 * ds.length ∧
      ∀ i d, ds[i]? = some d → ∃ run debug : Lens,
        (lenses text ds Walk.never)[2 * i]? = some run ∧
        (lenses text ds Walk.never)[2 * i + 1]? = some debug ∧
        run.title = Action.run.title ∧ run.command = Action.run.command ∧
        debug.title = Action.debug.title ∧ debug.command = Action.debug.command ∧
        run.range = (LineTable.ofText text).range d.span ∧ debug.range = run.range ∧
        debug.argument = run.argument ∧
        (d.span.Small → Declaration.ofJson run.argument = .ok d)) := by
  have hnever (es : List Declaration) : lenses text es Walk.never = encoded text (offers es) := by
    rw [lenses_eq_encoded, refusals_never, ← length_offers, List.take_length]
  refine ⟨lenses_eq_encoded text ds cancelled, fun before after => ?_, fun h => ?_⟩
  · refine ⟨_, _, fun d => ⟨_, lenses_among text before after d cancelled rfl, ?_,
      fun hd => encoded_offers_of_none hd _⟩⟩
    rw [hnever]
    exact (List.take_prefix _ _).filterMap _
  · rw [hnever]
    refine ⟨length_encoded h, fun i d hd => ?_⟩
    obtain ⟨file, hfile, hrun, hdebug⟩ := getElem?_encoded h hd
    exact ⟨_, _, hrun, hdebug, rfl, rfl, rfl, rfl, rfl, rfl, rfl,
      fun hsmall => Declaration.ofJson_members hfile hsmall⟩

end Lens

end TestScout
