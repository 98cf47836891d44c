import TestScout.Proofs.Server.Run

/-!
What the server keeps of the documents that an editor tells it of. What is kept under an identifier
follows from the notifications for that identifier alone: the last one that opened a document, if
none has closed it since, and the last text that came after it. Requests of any other kind, and
whatever is said of other documents, leave it as it is; so the lenses of a document depend on these
notifications and on the active settings, and on nothing else that has been asked.
-/

namespace TestScout

namespace Request

/-- The document that a request opens, changes or closes. -/
def target? : Request → Option Uri
  | .opened uri _ _ => some uri
  | .changed uri _ _ => some uri
  | .closed uri => some uri
  | _ => none

def opens (uri : Uri) : Request → Bool
  | .opened other _ _ => other = uri
  | _ => false

def closes (uri : Uri) : Request → Bool
  | .closed other => other = uri
  | _ => false

/-- The texts that a request gives a document one after another, each with its number. -/
def edits (uri : Uri) : Request → List (String × Int)
  | .changed other texts version => if other = uri then texts.map (·, version) else []
  | _ => []

def setsUp : Request → Bool
  | .setUp _ => true
  | _ => false

/-- The settings that are active after a request, by those that were active before. -/
def settings (active : Settings) : Request → Settings
  | .setUp options => (Server.wanted? options).getD active
  | _ => active

/-- Only setting up changes the settings. -/
lemma foldl_settings_filter (active : Settings) (requests : List Request) :
    (requests.filter setsUp).foldl settings active = requests.foldl settings active := by
  rw [List.foldl_filter]
  refine congrArg (fun f => requests.foldl f active) (funext fun active => funext fun r => ?_)
  cases r <;> rfl

end Request

namespace Document

/-- The document with the last of some texts, if there is one. -/
def edited (d : Document) (edits : List (String × Int)) : Document :=
  match edits.getLast? with
  | none => d
  | some (text, version) => { d with text := text, version := version }

@[simp] lemma edited_nil (d : Document) : d.edited [] = d := rfl

lemma edited_append (d : Document) (a b : List (String × Int)) :
    d.edited (a ++ b) = (d.edited a).edited b := by
  unfold edited
  rw [List.getLast?_append]
  rcases b.getLast? with _ | ⟨text, version⟩
  · rfl
  · rcases a.getLast? with _ | e <;> rfl

lemma foldl_replace (d : Document) (texts : List String) (version : Int) :
    texts.foldl (fun d text => d.replace text version) d = d.edited (texts.map (·, version)) := by
  induction texts generalizing d with
  | nil => rfl
  | cons text texts ih =>
      rw [List.foldl_cons, ih, List.map_cons, ← List.singleton_append, edited_append]
      rfl

lemma eq_edited_ofText_iff {d : Document} {uri : Uri} {text : String} {version : Int}
    {edits : List (String × Int)} :
    d = (ofText uri text version).edited edits ↔
      d.uri = uri ∧ d.path = uri.filePath ∧
        (d.text, d.version) = edits.getLast?.getD (text, version) := by
  obtain ⟨uri', path', text', version'⟩ := d
  unfold edited ofText
  rcases edits.getLast? with _ | ⟨last, number⟩ <;> simp

/-- What is kept of a document after a request, by what was kept before. -/
def next? (uri : Uri) (kept : Option Document) (r : Request) : Option Document :=
  match r with
  | .opened other text version => if other = uri then some (.ofText uri text version) else kept
  | .closed other => if other = uri then none else kept
  | r => kept.map fun d => d.edited (r.edits uri)

variable {uri : Uri} {kept : Option Document} {d : Document} {r : Request}

lemma next?_opened (text : String) (version : Int) :
    next? uri kept (.opened uri text version) = some (.ofText uri text version) := if_pos rfl

lemma next?_closed : next? uri kept (.closed uri) = none := if_pos rfl

lemma next?_of_not (hopens : r.opens uri = false) (hcloses : r.closes uri = false) :
    next? uri kept r = kept.map fun d => d.edited (r.edits uri) := by
  have hkept : kept = kept.map fun d => d.edited [] := by simp
  cases r with
  | opened other text version =>
      rw [next?, if_neg (by simpa [Request.opens] using hopens)]
      exact hkept
  | closed other =>
      rw [next?, if_neg (by simpa [Request.closes] using hcloses)]
      exact hkept
  | _ => rfl

lemma next?_of_target?_ne (h : r.target? ≠ some uri) : next? uri kept r = kept := by
  cases r with
  | opened other text version => exact if_neg fun e => h (congrArg some e)
  | closed other => exact if_neg fun e => h (congrArg some e)
  | changed other texts version =>
      have hne : other ≠ uri := fun e => h (congrArg some e)
      simp [next?, Request.edits, hne]
  | _ => simp [next?, Request.edits]

lemma opens_iff : r.opens uri = true ↔ ∃ text version, r = .opened uri text version := by
  cases r <;> simp [Request.opens]

lemma closes_iff : r.closes uri = true ↔ r = .closed uri := by
  cases r <;> simp [Request.closes]

lemma foldl_next?_of_not {rest : List Request}
    (h : ∀ r ∈ rest, r.opens uri = false ∧ r.closes uri = false) :
    rest.foldl (next? uri) (some d) = some (d.edited (rest.flatMap (·.edits uri))) := by
  induction rest generalizing d with
  | nil => rfl
  | cons r rest ih =>
      obtain ⟨hopens, hcloses⟩ := h r List.mem_cons_self
      rw [List.foldl_cons, next?_of_not hopens hcloses, Option.map_some,
        ih fun q hq => h q (List.mem_cons_of_mem _ hq), List.flatMap_cons, edited_append]

/-- What is kept after some requests was opened by one of them and not closed since, or was kept
before and has neither been opened again nor closed. -/
lemma of_foldl_next? {requests : List Request} (h : requests.foldl (next? uri) kept = some d) :
    (∃ before text version rest, requests = before ++ .opened uri text version :: rest ∧
      (∀ r ∈ rest, r.opens uri = false ∧ r.closes uri = false) ∧
      d = (ofText uri text version).edited (rest.flatMap (·.edits uri))) ∨
    ((∀ r ∈ requests, r.opens uri = false ∧ r.closes uri = false) ∧
      ∃ d', kept = some d' ∧ d = d'.edited (requests.flatMap (·.edits uri))) := by
  induction requests generalizing kept with
  | nil => exact Or.inr ⟨by simp, d, h, rfl⟩
  | cons r requests ih =>
      rw [List.foldl_cons] at h
      rcases ih h with ⟨before, text, version, rest, rfl, hrest⟩ | ⟨hquiet, d', hkept, rfl⟩
      · exact Or.inl ⟨r :: before, text, version, rest, rfl, hrest⟩
      · cases hopens : r.opens uri with
        | true =>
            obtain ⟨text, version, rfl⟩ := opens_iff.mp hopens
            rw [next?_opened] at hkept
            obtain rfl := Option.some.inj hkept
            exact Or.inl ⟨[], text, version, requests, rfl, hquiet, rfl⟩
        | false =>
            cases hcloses : r.closes uri with
            | true =>
                rw [closes_iff.mp hcloses, next?_closed] at hkept
                cases hkept
            | false =>
                rw [next?_of_not hopens hcloses] at hkept
                obtain ⟨d'', hkept', rfl⟩ := Option.map_eq_some_iff.mp hkept
                refine Or.inr ⟨?_, d'', hkept', ?_⟩
                · rintro q (_ | ⟨_, hq⟩)
                  · exact ⟨hopens, hcloses⟩
                  · exact hquiet q hq
                · rw [List.flatMap_cons, edited_append]

lemma foldl_next?_filter (requests : List Request) :
    (requests.filter (·.target? = some uri)).foldl (next? uri) kept =
      requests.foldl (next? uri) kept := by
  rw [List.foldl_filter]
  refine congrArg (fun f => requests.foldl f kept) (funext fun kept => funext fun r => ?_)
  split
  · rfl
  · next h => exact (next?_of_target?_ne (by simpa using h)).symm

end Document

namespace Documents

variable {ds : Documents} {uri : Uri}

lemma change_nil (ds : Documents) (uri : Uri) (version : Int) : ds.change uri [] version = ds := by
  simp [change]

lemma change_of_get?_eq_none (h : ds.get? uri = none) (texts : List String) (version : Int) :
    ds.change uri texts version = ds := by
  have hne : ∀ d ∈ ds.opened, d.uri ≠ uri := by simpa [get?] using h
  have hmap : ds.opened.map (fun d =>
      if d.uri = uri then texts.foldl (fun d text => d.replace text version) d else d) =
        ds.opened.map id := List.map_congr_left fun d hd => if_neg (hne d hd)
  rw [change, hmap, List.map_id]

end Documents

namespace Server

variable {s : Server}

/-- **One request**: what is kept of a document follows from what was kept before. -/
theorem get?_handle (s : Server) (w : World) (r : Request) (uri : Uri) :
    (s.handle w r).1.documents.get? uri = Document.next? uri (s.documents.get? uri) r := by
  cases r with
  | opened other text version =>
      simp only [handle, Documents.get?_insert, Document.next?, Document.ofText]
      by_cases h : uri = other
      · rw [if_pos h, if_pos h.symm, h]
      · rw [if_neg h, if_neg (Ne.symm h)]
  | closed other =>
      simp only [handle, Documents.get?_erase, Document.next?]
      by_cases h : uri = other
      · rw [if_pos h, if_pos h.symm]
      · rw [if_neg h, if_neg (Ne.symm h)]
  | changed other texts version =>
      simp only [handle, Documents.get?_change, Document.next?, Request.edits,
        Document.foldl_replace]
      by_cases h : uri = other
      · rw [if_pos h, if_pos h.symm]
      · rw [if_neg h, if_neg (Ne.symm h)]
        simp
  | setUp options => simp [handle, Document.next?, Request.edits]
  | _ => simp [handle, Document.next?, Request.edits]

/-- **A run**: what is kept of a document follows from the requests one after another. -/
theorem get?_after (s : Server) (history : List (World × Request)) (uri : Uri) :
    (s.after history).documents.get? uri =
      (history.map (·.2)).foldl (Document.next? uri) (s.documents.get? uri) := by
  induction history generalizing s with
  | nil => rfl
  | cons e history ih =>
      rw [List.map_cons, List.foldl_cons, ← get?_handle s e.1 e.2 uri, ← ih]
      rfl

lemma launching_handle (s : Server) (w : World) (r : Request) :
    (s.handle w r).1.launching = r.settings s.launching := by
  cases r with
  | setUp options =>
      simp only [handle, configure, Request.settings]
      cases wanted? options <;> rfl
  | _ => rfl

/-- **The active settings** follow from the requests one after another. -/
theorem launching_after (s : Server) (history : List (World × Request)) :
    (s.after history).launching = (history.map (·.2)).foldl Request.settings s.launching := by
  induction history generalizing s with
  | nil => rfl
  | cons e history ih =>
      rw [List.map_cons, List.foldl_cons, ← launching_handle s e.1 e.2, ← ih]
      rfl

/-- The notifications for a document among some requests, in their order. -/
def notifications (uri : Uri) (history : List (World × Request)) : List Request :=
  (history.map (·.2)).filter (·.target? = some uri)

def setUps (history : List (World × Request)) : List Request :=
  (history.map (·.2)).filter Request.setsUp

lemma get?_after_notifications (s : Server) (history : List (World × Request)) (uri : Uri) :
    (s.after history).documents.get? uri =
      (notifications uri history).foldl (Document.next? uri) (s.documents.get? uri) := by
  rw [get?_after, notifications, Document.foldl_next?_filter]

lemma launching_after_setUps (s : Server) (history : List (World × Request)) :
    (s.after history).launching = (setUps history).foldl Request.settings s.launching := by
  rw [launching_after, setUps, Request.foldl_settings_filter]

lemma answer_codeLens {s t : Server} {uri : Uri} (hmarkers : t.markers = s.markers)
    (hdocument : t.documents.get? uri = s.documents.get? uri) (w w' : World) :
    (t.handle w' (.codeLens uri)).2 = (s.handle w (.codeLens uri)).2 := by
  simp only [handle, codeLens, hmarkers, hdocument]

/-- **What is kept of documents**: an identifier stands for a document just when it was opened and
neither opened nor closed since. The document keeps the identifier and the file of it, and has the
text and the number that came last since, or those it was opened with. The lenses of a document
follow from the active settings and the notifications for it; the active settings follow from how
the server was set up. Asking for lenses and executing commands change nothing, and neither does a
change without texts or of a document that is not open. -/
theorem documents_follow_notifications (c : Settings) (history : List (World × Request))
    (uri : Uri) :
    (∀ d, ((ofSettings c).after history).documents.get? uri = some d ↔
      ∃ before w text version rest,
        history = before ++ (w, .opened uri text version) :: rest ∧
        (∀ e ∈ rest, e.2.opens uri = false ∧ e.2.closes uri = false) ∧
        d.uri = uri ∧ d.path = uri.filePath ∧
        (d.text, d.version) = (rest.flatMap (·.2.edits uri)).getLast?.getD (text, version)) ∧
    (∀ c' history', ((ofSettings c').after history').launching =
        ((ofSettings c).after history).launching →
      notifications uri history' = notifications uri history →
      ∀ w w', (((ofSettings c').after history').handle w' (.codeLens uri)).2 =
        (((ofSettings c).after history).handle w (.codeLens uri)).2) ∧
    (∀ history', setUps history' = setUps history →
      ((ofSettings c).after history').launching = ((ofSettings c).after history).launching ∧
      (notifications uri history' = notifications uri history →
        ∀ w w', (((ofSettings c).after history').handle w' (.codeLens uri)).2 =
          (((ofSettings c).after history).handle w (.codeLens uri)).2)) ∧
    ∀ (s : Server) (w : World),
      (s.handle w (.codeLens uri)).1 = s ∧
      (∀ command arguments, (s.handle w (.execute command arguments)).1 = s) ∧
      (∀ version, (s.handle w (.changed uri [] version)).1 = s) ∧
      (s.documents.get? uri = none →
        ∀ texts version, (s.handle w (.changed uri texts version)).1 = s) := by
  have hkept (c : Settings) (history : List (World × Request)) :
      ((ofSettings c).after history).documents.get? uri =
        (notifications uri history).foldl (Document.next? uri) none :=
    get?_after_notifications _ history uri
  have hanswer (c' : Settings) (history' : List (World × Request))
      (hactive : ((ofSettings c').after history').launching =
        ((ofSettings c).after history).launching)
      (hsame : notifications uri history' = notifications uri history) (w w' : World) :
      (((ofSettings c').after history').handle w' (.codeLens uri)).2 =
        (((ofSettings c).after history).handle w (.codeLens uri)).2 := by
    refine answer_codeLens ?_ ?_ w w'
    · rw [markers_after rfl, markers_after rfl, hactive]
    · rw [hkept, hkept, hsame]
  refine ⟨fun d => ⟨fun h => ?_, ?_⟩, hanswer, fun history' hsetUps => ?_,
    fun s w => ⟨rfl, fun _ _ => rfl, fun version => ?_, fun hclosed texts version => ?_⟩⟩
  · rw [get?_after] at h
    rcases Document.of_foldl_next? h with ⟨before, text, version, rest, hsplit, hrest, rfl⟩ |
      ⟨-, d', hd', -⟩
    · obtain ⟨before, tail, rfl, rfl, htail⟩ := List.map_eq_append_iff.mp hsplit
      obtain ⟨⟨w, r⟩, rest, rfl, rfl, rfl⟩ := List.map_eq_cons_iff.mp htail
      refine ⟨before, w, text, version, rest, rfl, fun e he => ?_, ?_⟩
      · exact hrest e.2 (List.mem_map_of_mem he)
      · rw [← Document.eq_edited_ofText_iff, List.flatMap_map]
    · cases hd'
  · rintro ⟨before, w, text, version, rest, rfl, hrest, hkept⟩
    obtain rfl := Document.eq_edited_ofText_iff.mpr hkept
    rw [get?_after, List.map_append, List.map_cons, List.foldl_append, List.foldl_cons,
      Document.next?_opened, Document.foldl_next?_of_not ?_, List.flatMap_map]
    rintro r hr
    obtain ⟨e, he, rfl⟩ := List.mem_map.mp hr
    exact hrest e he
  · have hactive : ((ofSettings c).after history').launching =
        ((ofSettings c).after history).launching := by
      rw [launching_after_setUps, launching_after_setUps, hsetUps]
    exact ⟨hactive, hanswer c history' hactive⟩
  · rw [handle, Documents.change_nil]
  · rw [handle, Documents.change_of_get?_eq_none hclosed]

end Server

end TestScout
