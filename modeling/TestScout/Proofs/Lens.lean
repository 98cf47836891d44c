import Mathlib.Data.List.Basic
import TestScout.Lens
import TestScout.Proofs.Declaration.Codec
import TestScout.Request
import TestScout.Walk

/-!
What is behind a lens. As long as nothing is cancelled, every declaration in a file whose path is a
text has a lens for each action, one declaration after another; and what a lens carries is, read as
the parameters of a request, the request to execute its command on its argument.
-/

namespace TestScout

namespace Lens

def on (t : LineTable) (file : String) (d : Declaration) (a : Action) : Lens :=
  ⟨t.range d.span, a.title, a.command, .obj (d.members file)⟩

lemma ofOffer_eq {t : LineTable} {d : Declaration} {file : String}
    (h : d.file.toString? = some file) (a : Action) :
    ofOffer t ⟨d.span, a, d⟩ = .ok (on t file d a) := by
  unfold ofOffer
  simp only [Declaration.toJson_eq h]
  rfl

lemma ofOffers_never (t : LineTable) (n : Nat) (os : List Offer) :
    ofOffers t Walk.never n os = os.filterMap fun o => (ofOffer t o).toOption := by
  induction os generalizing n with
  | nil => rfl
  | cons o os ih =>
      rw [ofOffers, if_neg (by simp [Walk.never]), List.filterMap_cons]
      cases ofOffer t o with
      | ok lens => exact congrArg (lens :: ·) (ih (n + 1))
      | error f => exact ih (n + 1)

/-- **Two lenses each**: uncancelled, declarations in a file whose path is a text have the lenses of
the actions, one declaration after another. -/
theorem lenses_never {text file : String} {ds : List Declaration}
    (h : ∀ d ∈ ds, d.file.toString? = some file) :
    lenses text ds Walk.never = ds.flatMap fun d => Action.all.map (on (.ofText text) file d) := by
  rw [lenses, ofOffers_never, offers, List.filterMap_flatMap]
  refine List.flatMap_congr fun d hd => ?_
  have hlens : ((fun o => (ofOffer (.ofText text) o).toOption) ∘ fun a => ⟨d.span, a, d⟩) =
      some ∘ on (.ofText text) file d := by
    funext a
    rw [Function.comp_apply, ofOffer_eq (h d hd)]
    rfl
  rw [List.filterMap_map, hlens, List.filterMap_eq_map]

end Lens

namespace Request

open Json

lemma readList_readAny (items : List Json) : readList readAny (.arr items) = .ok items := by
  have h := @readList_map Json Json readAny id id (fun _ => rfl) items
  rwa [List.map_id] at h

lemma readExecute_obj {members : List (String × Json)} {id : String} {arguments : List Json}
    (hcommand : members.lookup "command" = some (.str id))
    (harguments : members.lookup "arguments" = some (.arr arguments)) :
    readExecute (.obj members) = .ok (.execute id arguments) := by
  have hid : (Json.Field.required "command" readString).Gives members id :=
    gives_required hcommand rfl
  have hargs : (Json.Field.defaulting "arguments" (readList readAny) []).Gives members arguments :=
    gives_defaulting harguments (readList_readAny arguments)
  unfold readExecute readMembers
  simp only
  rw [bind_of_ok (readFields_obj (by simp [hid.passes, hargs.passes])), bind_of_ok hid.of,
    bind_of_ok hargs.of]
  rfl

lemma readExecute_lens (l : Lens) :
    ∃ params, l.toJson.member? "command" = some params ∧
      readExecute params = .ok (.execute l.command [l.argument]) :=
  ⟨_, rfl, readExecute_obj rfl rfl⟩

end Request

end TestScout
