import TestScout.Proofs.Server.Documents
import TestScout.Proofs.Server.Lenses
import TestScout.Proofs.Settings.Defaults

/-!
The active settings of a server. Declarations are found and launched under the same settings, and
these can be worked with: what an editor asks for when it sets the server up becomes active as a
whole, or is passed over as a whole.
-/

namespace TestScout

open Json

namespace Server

/-- Some settings are active in a server: declarations are found by their markers and launched under
them, and they can be worked with. -/
structure Active (s : Server) (c : Settings) : Prop where
  markers : s.markers = c.discovery
  launching : s.launching = c
  valid : c.fault? = none

variable {s : Server} {c : Settings} {options : Option Json}

/-! ### What an editor asks for -/

/-- Why what an editor asks for is passed over: it asks for nothing, it cannot be read, or it cannot
be worked with. -/
inductive Unwanted : Option Json → Prop where
  | absent : Unwanted none
  | unreadable {v : Json} {e : DecodeError} (read : Settings.read v = .error e) :
      Unwanted (some v)
  | invalid {v : Json} {c : Settings} {fault : SettingsFault} (read : Settings.read v = .ok c)
      (invalid : c.fault? = some fault) : Unwanted (some v)

lemma wanted?_of_unwanted (h : Unwanted options) : wanted? options = none := by
  cases h with
  | absent => rfl
  | unreadable read => simp [wanted?, read, Except.toOption]
  | invalid read invalid => simp [wanted?, read, invalid, Except.toOption]

lemma wanted?_of_valid {v : Json} (hread : Settings.read v = .ok c) (hvalid : c.fault? = none) :
    wanted? (some v) = some c := by
  simp [wanted?, hread, hvalid, Except.toOption]

lemma unwanted_or_valid (options : Option Json) :
    Unwanted options ∨
      ∃ v c, options = some v ∧ Settings.read v = .ok c ∧ c.fault? = none := by
  cases options with
  | none => exact Or.inl .absent
  | some v =>
      cases hread : Settings.read v with
      | error fault => exact Or.inl (.unreadable hread)
      | ok c =>
          cases hfault : c.fault? with
          | some fault => exact Or.inl (.invalid hread hfault)
          | none => exact Or.inr ⟨v, c, rfl, hread, hfault⟩

lemma fault?_of_wanted? (h : wanted? options = some c) : c.fault? = none := by
  rcases unwanted_or_valid options with hun | ⟨v, d, rfl, hread, hvalid⟩
  · rw [wanted?_of_unwanted hun] at h
    cases h
  · rw [wanted?_of_valid hread hvalid] at h
    obtain rfl := Option.some.inj h
    exact hvalid

lemma handle_setUp_of_unwanted (h : Unwanted options) (s : Server) (w : World) :
    (s.handle w (.setUp options)).1 = s := by
  simp only [handle, configure, wanted?_of_unwanted h]

lemma handle_setUp_of_valid {v : Json} (hread : Settings.read v = .ok c)
    (hvalid : c.fault? = none) (s : Server) (w : World) :
    (s.handle w (.setUp (some v))).1 = ⟨c.discovery, c, s.documents⟩ := by
  simp only [handle, configure, wanted?_of_valid hread hvalid]

/-! ### Runs -/

lemma fault?_settings (h : c.fault? = none) (r : Request) : (r.settings c).fault? = none := by
  cases r with
  | setUp options =>
      rw [Request.settings]
      cases hwanted : wanted? options with
      | none => exact h
      | some d => exact fault?_of_wanted? hwanted
  | _ => exact h

/-- **One request**: some settings are active after it, if some were before. -/
theorem Active.handle (h : s.Active c) (w : World) (r : Request) :
    (s.handle w r).1.Active (r.settings c) := by
  -- markers and settings are replaced together, so it is enough to know the settings
  have hsame : s.markers = s.launching.discovery := by rw [h.markers, h.launching]
  have hlaunching : (s.handle w r).1.launching = r.settings c := by
    rw [launching_handle, h.launching]
  refine ⟨?_, hlaunching, fault?_settings h.valid r⟩
  rw [markers_handle hsame, hlaunching]

/-- **A run**: some settings are active in every state of it, and it is the requests that say
which. -/
theorem Active.after (h : s.Active c) (history : List (World × Request)) :
    (s.after history).Active ((history.map (·.2)).foldl Request.settings c) := by
  induction history generalizing s c with
  | nil => exact h
  | cons e rest ih => exact ih (h.handle e.1 e.2)

/-- **Setting up**: in every state of a server that is started under settings that can be worked
with, declarations are found and launched under the same settings, which can be worked with. What an
editor asks for leaves these as they are if it is passed over; otherwise it replaces them as a
whole, and whatever it says nothing of is as built in. Documents stay open as they are. -/
theorem setUp_replaces_active {c : Settings} (valid : c.fault? = none) {s : Server}
    {history : List (World × Request)} (run : s = (ofSettings c).after history) :
    (∃ active, s.Active active) ∧ ∀ w options,
      (s.handle w (.setUp options)).1.documents = s.documents ∧
      (Unwanted options → (s.handle w (.setUp options)).1 = s) ∧
      ∀ v chosen, options = some v → Settings.read v = .ok chosen → chosen.fault? = none →
        (s.handle w (.setUp options)).1 = ⟨chosen.discovery, chosen, s.documents⟩ ∧
        ∀ sec field, Settings.given? v sec field = none →
          Settings.given? chosen.toJson sec field =
            Settings.given? Settings.builtIn.toJson sec field := by
  subst run
  have hstart : (ofSettings c).Active c := ⟨rfl, rfl, valid⟩
  refine ⟨⟨_, hstart.after history⟩, fun w options => ⟨documents_configure _ options,
    fun hun => handle_setUp_of_unwanted hun _ w, ?_⟩⟩
  rintro v chosen rfl hread hvalid
  exact ⟨handle_setUp_of_valid hread hvalid _ w,
    fun sec field habsent => Settings.toJson_of_absent hread habsent⟩

/-- What an editor asks for when suites are to be marked by another name. -/
def contextOptions : Json := .obj [("discovery", .obj [("suite_markers", .texts ["context"])])]

/-- What an editor asks for when no directory may be looked at. -/
def rootlessOptions : Json := .obj [("runner", .obj [("max_root_hops", .nat 0)])]

/-- What an editor asks for when sessions are to have another name. -/
def renamedOptions : Json := .obj [("launch", .obj [("name", .str "Tests")])]

/-- A server in which suites are marked by another name. -/
def contextServer : Server :=
  (ofSettings .builtIn).after [(sampleWorld, .setUp (some contextOptions))]

/-- Options that cannot be worked with leave that server as it is; options that say nothing of
markers bring the built-in ones back. -/
theorem contextServer_setUp :
    Settings.builtIn.fault? = none ∧ contextServer.markers.suites = ["context"] ∧
    (contextServer.handle sampleWorld (.setUp (some rootlessOptions))).1 = contextServer ∧
    (contextServer.handle sampleWorld (.setUp (some renamedOptions))).1.markers = .builtIn := by
  have hvalid : Settings.builtIn.fault? = none := by decide
  have hcontext : Settings.read contextOptions =
      .ok ⟨.builtIn, ⟨["context"], Markers.builtIn.tests⟩, .builtIn⟩ :=
    Settings.read_obj (means_absent rfl) (means_defaulting rfl (Markers.read_obj
      (means_defaulting rfl (readStrings_texts _)) (means_absent rfl))) (means_absent rfl)
  have hrootless : Settings.read rootlessOptions =
      .ok ⟨{ RunnerSettings.builtIn with maxHops := 0 }, .builtIn, .builtIn⟩ :=
    Settings.read_obj (means_defaulting rfl (RunnerSettings.read_obj (means_absent rfl)
      (means_absent rfl) (means_absent rfl) (means_absent rfl) (means_defaulting rfl rfl)))
      (means_absent rfl) (means_absent rfl)
  have hrenamed : Settings.read renamedOptions =
      .ok ⟨.builtIn, .builtIn, { LaunchSettings.builtIn with name := "Tests" }⟩ :=
    Settings.read_obj (means_absent rfl) (means_absent rfl) (means_defaulting rfl
      (LaunchSettings.read_obj (means_defaulting rfl rfl) (means_absent rfl) (means_absent rfl)
        (means_absent rfl) (means_absent rfl) (means_absent rfl) (means_absent rfl)
        (means_absent rfl)))
  have run : contextServer =
      (ofSettings .builtIn).after [(sampleWorld, .setUp (some contextOptions))] := rfl
  obtain ⟨-, hset⟩ := setUp_replaces_active hvalid run
  refine ⟨hvalid, ?_, ?_, ?_⟩
  · have hs : contextServer = _ := handle_setUp_of_valid hcontext (by decide) (ofSettings .builtIn)
      sampleWorld
    rw [hs]
  · obtain ⟨-, hkept, -⟩ := hset sampleWorld (some rootlessOptions)
    exact hkept (.invalid hrootless rfl)
  · obtain ⟨-, -, hreplaced⟩ := hset sampleWorld (some renamedOptions)
    rw [(hreplaced _ _ rfl hrenamed (by decide)).1]

end Server

end TestScout
