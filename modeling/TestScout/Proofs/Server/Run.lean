import Mathlib.Tactic.Lemma
import TestScout.Server

/-!
Runs of the server: the states that it can get into, whatever is asked of it and whatever the
machine looks like meanwhile. Two things hold in all of them: declarations are found and launched
under the same settings, and every open document is as small as a text has to be. Each is kept by
every request, so a run keeps it from beginning to end.
-/

namespace TestScout

/-- A text has fewer than `2 ^ 63` bytes: no string held in memory is longer. -/
def Text.InMemory (text : String) : Prop := text.utf8ByteSize < 0x8000000000000000

instance (text : String) : Decidable (Text.InMemory text) :=
  inferInstanceAs (Decidable (text.utf8ByteSize < 0x8000000000000000))

def Request.InMemory : Request → Prop
  | .opened _ text _ => Text.InMemory text
  | .changed _ texts _ => ∀ text ∈ texts, Text.InMemory text
  | _ => True

namespace Documents

def InMemory (ds : Documents) : Prop := ∀ d ∈ ds.opened, Text.InMemory d.text

variable {ds : Documents}

lemma InMemory.erase (h : ds.InMemory) (uri : Uri) : (ds.erase uri).InMemory :=
  fun d hd => h d (List.mem_filter.mp hd).1

lemma InMemory.insert (h : ds.InMemory) {d : Document} (hd : Text.InMemory d.text) :
    (ds.insert d).InMemory := by
  intro e he
  rcases List.mem_cons.mp he with rfl | he
  · exact hd
  · exact h.erase d.uri e he

lemma inMemory_foldl_replace {texts : List String} (h : ∀ text ∈ texts, Text.InMemory text)
    (version : Int) {d : Document} (hd : Text.InMemory d.text) :
    Text.InMemory (texts.foldl (fun d text => d.replace text version) d).text := by
  induction texts generalizing d with
  | nil => exact hd
  | cons text rest ih =>
      rw [List.foldl_cons]
      exact ih (fun t ht => h t (List.mem_cons_of_mem _ ht)) (h text List.mem_cons_self)

lemma InMemory.change (h : ds.InMemory) {texts : List String}
    (htexts : ∀ text ∈ texts, Text.InMemory text) (uri : Uri) (version : Int) :
    (ds.change uri texts version).InMemory := by
  intro e he
  obtain ⟨d, hd, rfl⟩ := List.mem_map.mp he
  split
  · exact inMemory_foldl_replace htexts version (h d hd)
  · exact h d hd

lemma InMemory.of_get? (h : ds.InMemory) {uri : Uri} {d : Document}
    (hd : ds.get? uri = some d) : Text.InMemory d.text :=
  h d (List.mem_of_find?_eq_some hd)

end Documents

namespace Server

/-- The state after some requests, each made while the machine looks somehow. -/
def after (s : Server) (history : List (World × Request)) : Server :=
  history.foldl (fun s e => (s.handle e.1 e.2).1) s

/-- The states that a server gets into, under whatever settings it is started. -/
def Reachable (s : Server) : Prop :=
  ∃ c history, (∀ e ∈ history, Request.InMemory e.2) ∧ s = (ofSettings c).after history

structure Sound (s : Server) : Prop where
  markers : s.markers = s.launching.discovery
  inMemory : s.documents.InMemory

lemma sound_ofSettings (c : Settings) : (ofSettings c).Sound :=
  ⟨rfl, fun _ hd => absurd hd List.not_mem_nil⟩

lemma markers_handle {s : Server} (h : s.markers = s.launching.discovery) (w : World)
    (r : Request) : (s.handle w r).1.markers = (s.handle w r).1.launching.discovery := by
  cases r with
  | setUp options =>
      simp only [Server.handle, configure]
      split
      · rfl
      · exact h
  | _ => exact h

lemma markers_after {s : Server} (h : s.markers = s.launching.discovery)
    (history : List (World × Request)) :
    (s.after history).markers = (s.after history).launching.discovery := by
  induction history generalizing s with
  | nil => exact h
  | cons e rest ih => exact ih (markers_handle h e.1 e.2)

@[simp] lemma documents_configure (s : Server) (options : Option Json) :
    (s.configure options).documents = s.documents := by
  unfold configure
  split <;> rfl

/-- **One request**: whatever is asked, a sound state is followed by a sound state. -/
theorem Sound.handle {s : Server} (h : s.Sound) (w : World) {r : Request} (hr : r.InMemory) :
    (s.handle w r).1.Sound := by
  refine ⟨markers_handle h.markers w r, ?_⟩
  cases r with
  | setUp options =>
      simp only [Server.handle, documents_configure]
      exact h.inMemory
  | opened uri text version => exact h.inMemory.insert hr
  | changed uri texts version => exact h.inMemory.change hr uri version
  | closed uri => exact h.inMemory.erase uri
  | _ => exact h.inMemory

/-- **A run**: a sound state is followed by sound states only. -/
theorem Sound.after {s : Server} (h : s.Sound) {history : List (World × Request)}
    (hr : ∀ e ∈ history, Request.InMemory e.2) : (s.after history).Sound := by
  induction history generalizing s with
  | nil => exact h
  | cons e rest ih =>
      exact ih (h.handle e.1 (hr e List.mem_cons_self)) fun f hf =>
        hr f (List.mem_cons_of_mem _ hf)

theorem Reachable.sound {s : Server} (h : s.Reachable) : s.Sound := by
  obtain ⟨c, history, hr, rfl⟩ := h
  exact (sound_ofSettings c).after hr

end Server

end TestScout
