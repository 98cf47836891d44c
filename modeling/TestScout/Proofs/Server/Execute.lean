import TestScout.Proofs.Declaration.Reading
import TestScout.Proofs.Server.Lenses

/-!
Executing commands. What comes of it is told in one of two ways: the launch is started, once, and is
the answer; or the first thing that is wrong is shown, once, and is the answer. The stages at which
something can be wrong follow one another: the command, its argument, the kind that the argument
names, the root of the project. Nothing is kept of what was executed, whatever came of it.
-/

namespace TestScout

namespace Registry

variable {s : Settings} {w : World} {id : String}

lemma ids_ofSettings (s : Settings) :
    (ofSettings s).ids = [Action.debug.command, Action.run.command] := rfl

lemma mem_ids_iff : id ∈ (ofSettings s).ids ↔ ∃ a : Action, id = a.command := by
  rw [ids_ofSettings, List.mem_cons, List.mem_singleton]
  constructor
  · rintro (h | h)
    · exact ⟨_, h⟩
    · exact ⟨_, h⟩
  · rintro ⟨a, rfl⟩
    cases a with
    | run => exact Or.inr rfl
    | debug => exact Or.inl rfl

lemma execute_of_not_mem (h : id ∉ (ofSettings s).ids) (w : World) (arguments : List Json) :
    (ofSettings s).execute w id arguments = .error (.unknownCommand id) := by
  have hne (a : Action) : id ≠ a.command := fun e => h (mem_ids_iff.mpr ⟨a, e⟩)
  have hnone : (ofSettings s).handlers.get? id = none := by
    unfold ofSettings Action.all
    rw [List.foldl_cons, List.foldl_cons, List.foldl_nil, get?_register, get?_register,
      if_neg (hne .debug), if_neg (hne .run)]
    rfl
  rw [execute, hnone]

lemma execute_nil (s : Settings) (w : World) (a : Action) :
    (ofSettings s).execute w a.command [] = .error (.invalidArgument .missing) := by
  rw [execute, get?_ofSettings]

lemma execute_cons_of_error {v : Json} {f : Failure} (h : Declaration.ofJson v = .error f)
    (w : World) (a : Action) (more : List Json) :
    (ofSettings s).execute w a.command (v :: more) = .error f := by
  unfold execute
  rw [get?_ofSettings]
  simp only [h]

lemma execute_cons_congr (s : Settings) (w : World) (id : String) (v : Json)
    (more more' : List Json) : (ofSettings s).execute w id (v :: more) =
      (ofSettings s).execute w id (v :: more') := by
  unfold execute
  cases (ofSettings s).handlers.get? id <;> rfl

end Registry

namespace RpcFault

/-- The number by which it is told that there is no such command. -/
def methodNotFound : Int := -32601

/-- The number by which it is told that an argument is not as it should be. -/
def invalidParams : Int := -32602

/-- The number by which it is told that something could not be done. -/
def internalError : Int := -32603

end RpcFault

/-- What an editor is sent so that it starts a launch. -/
def Note.starting (v : Json) : Json :=
  .obj [("jsonrpc", .str "2.0"), ("method", .str "vitestLens/startDebugging"),
    ("params", .obj [("configuration", v)])]

/-- What an editor is sent so that it shows a text as an error. -/
def Note.showing (text : String) : Json :=
  .obj [("jsonrpc", .str "2.0"), ("method", .str "window/showMessage"),
    ("params", .obj [("type", .nat 1), ("message", .str text)])]

namespace Outcome

/-- The outcome is a launch: the editor is sent one message, which starts it, and the answer is the
very value that this message carries. -/
structure Starts (o : Outcome) (spec : LaunchSpec) : Prop where
  notes : o.notes = [.start ⟨spec⟩]
  answer : ∃ v, spec.toJson? = some v ∧ o.notes.filterMap Note.toJson? = [Note.starting v] ∧
    o.answer = .ok v

/-- The outcome is a failure: the editor is sent one message, which shows it as an error, and the
answer is a fault of some number with the same text. -/
structure Fails (o : Outcome) (f : Failure) (code : Int) : Prop where
  notes : o.notes.filterMap Note.toJson? = [Note.showing f.message]
  answer : o.answer = .error (.failed f)
  fault : (RpcFault.failed f).toJson = .obj [("code", .int code), ("message", .str f.message)]

variable {o : Outcome}

lemma Reports.starts_iff {r : Except Failure LaunchSpec} (h : o.Reports r) {spec : LaunchSpec} :
    o.Starts spec ↔ r = .ok spec := by
  cases r with
  | error f =>
      obtain rfl := h
      refine ⟨fun hstarts => ?_, fun e => by cases e⟩
      cases hstarts.notes
  | ok spec' =>
      obtain ⟨v, hv, rfl⟩ := h
      constructor
      · intro hstarts
        have hnotes := hstarts.notes
        simp only [List.cons.injEq, Note.start.injEq, StartRequest.mk.injEq, and_true] at hnotes
        rw [hnotes]
      · intro heq
        obtain rfl := Except.ok.inj heq
        have hnote : (Note.start ⟨spec'⟩).toJson? = some (Note.starting v) := by
          simp only [Note.toJson?, StartRequest.toJson?, hv, Option.map_some]
          rfl
        exact ⟨rfl, v, hv, by simp [hnote], rfl⟩

lemma Reports.fails_iff {r : Except Failure LaunchSpec} (h : o.Reports r) {f : Failure}
    {code : Int} : o.Fails f code ↔ r = .error f ∧ f.code = code := by
  cases r with
  | error f' =>
      obtain rfl := h
      constructor
      · intro hfails
        have hf : f' = f := RpcFault.failed.inj (Except.error.inj hfails.answer)
        have hfault := hfails.fault
        simp only [RpcFault.toJson, Json.obj.injEq, List.cons_append, List.cons.injEq,
          Prod.mk.injEq, Json.int.injEq] at hfault
        exact ⟨congrArg Except.error hf, hfault.1.2⟩
      · rintro ⟨heq, rfl⟩
        obtain rfl := Except.error.inj heq
        exact ⟨rfl, rfl, rfl⟩
  | ok spec =>
      obtain ⟨v, -, rfl⟩ := h
      refine ⟨fun hfails => ?_, fun e => by cases e.1⟩
      cases hfails.answer

/-- What tells of a launch or of a failure tells of one of them only. -/
lemma Reports.starts_or_fails {r : Except Failure LaunchSpec} (h : o.Reports r) :
    (∃ spec, o.Starts spec) ∧ (∀ f code, ¬ o.Fails f code) ∨
      (∃ f code, o.Fails f code) ∧ ∀ spec, ¬ o.Starts spec := by
  cases r with
  | ok spec =>
      refine Or.inl ⟨⟨spec, h.starts_iff.mpr rfl⟩, fun f code hfails => ?_⟩
      cases (h.fails_iff.mp hfails).1
  | error f =>
      refine Or.inr ⟨⟨f, f.code, h.fails_iff.mpr ⟨rfl, rfl⟩⟩, fun spec hstarts => ?_⟩
      cases h.starts_iff.mp hstarts

end Outcome

def Request.executes : Request → Bool
  | .execute _ _ => true
  | _ => false

namespace Server

/-- The first thing that is wrong with executing a command, with the number of its kind. Each stage
is reached only if nothing was wrong before it. -/
inductive FirstFault (s : Server) (w : World) (command : String) :
    List Json → Failure → Int → Prop where
  | unknown {arguments : List Json} (absent : command ∉ s.commands.ids) :
      FirstFault s w command arguments (.unknownCommand command) RpcFault.methodNotFound
  | missing (known : command ∈ s.commands.ids) :
      FirstFault s w command [] (.invalidArgument .missing) RpcFault.invalidParams
  | malformed {v : Json} {more : List Json} {fault : Json.DecodeError}
      (known : command ∈ s.commands.ids) (read : Declaration.readWithKind v = .error fault) :
      FirstFault s w command (v :: more) (.invalidArgument (.malformed fault))
        RpcFault.invalidParams
  | noKind {v : Json} {more : List Json} {kind : String} {make : DeclarationKind → Declaration}
      (known : command ∈ s.commands.ids) (read : Declaration.readWithKind v = .ok (kind, make))
      (named : kind ∉ DeclarationKind.spellings) :
      FirstFault s w command (v :: more) (.invalidKind kind) RpcFault.invalidParams
  | noRoot {v : Json} {more : List Json} {kind : String} {make : DeclarationKind → Declaration}
      {k : DeclarationKind} {lastTried : Path} (known : command ∈ s.commands.ids)
      (read : Declaration.readWithKind v = .ok (kind, make))
      (named : DeclarationKind.ofText kind = .ok k)
      (found : s.launching.projectRoot w (make k).file =
        .error (.rootNotFound ((make k).file.absolutize w.cwd) lastTried)) :
      FirstFault s w command (v :: more)
        (.rootNotFound ((make k).file.absolutize w.cwd) lastTried) RpcFault.internalError

inductive Launched (s : Server) (w : World) : String → List Json → LaunchSpec → Prop where
  | mk {v : Json} {more : List Json} {kind : String} {make : DeclarationKind → Declaration}
      {k : DeclarationKind} {root : Path} (a : Action)
      (read : Declaration.readWithKind v = .ok (kind, make))
      (named : DeclarationKind.ofText kind = .ok k)
      (found : s.launching.projectRoot w (make k).file = .ok root) :
      Launched s w a.command (v :: more) (s.launching.launchFrom root (make k) a.mode)

variable {s : Server} {w : World} {command : String} {arguments : List Json}

lemma execute_declared (s : Server) (w : World) (a : Action) {v : Json} (more : List Json)
    {kind : String} {make : DeclarationKind → Declaration} {k : DeclarationKind}
    (read : Declaration.readWithKind v = .ok (kind, make))
    (named : DeclarationKind.ofText kind = .ok k) :
    s.commands.execute w a.command (v :: more) = s.launching.build w (make k) a.mode :=
  Registry.execute_ofSettings (Declaration.ofJson_of_named read named) w a more

/-- **The stages**: executing a command gives the launch, if nothing is wrong, and otherwise the
first thing that is. -/
theorem execute_cases (s : Server) (w : World) (command : String) (arguments : List Json) :
    (∃ f, s.commands.execute w command arguments = .error f ∧
      FirstFault s w command arguments f f.code) ∨
    ∃ spec, s.commands.execute w command arguments = .ok spec ∧
      Launched s w command arguments spec := by
  by_cases known : command ∈ s.commands.ids
  · obtain ⟨a, rfl⟩ := Registry.mem_ids_iff.mp known
    rcases arguments with _ | ⟨v, more⟩
    · exact Or.inl ⟨_, Registry.execute_nil _ _ _, .missing known⟩
    · cases read : Declaration.readWithKind v with
      | error fault =>
          have hread := Declaration.ofJson_of_error read
          exact Or.inl ⟨_, Registry.execute_cons_of_error hread _ _ _, .malformed known read⟩
      | ok given =>
          obtain ⟨kind, make⟩ := given
          cases named : DeclarationKind.ofText kind with
          | error f =>
              have hread := Declaration.ofJson_of_unnamed read named
              obtain ⟨hkind, rfl⟩ := DeclarationKind.ofText_eq_error_iff.mp named
              exact Or.inl ⟨_, Registry.execute_cons_of_error hread _ _ _,
                .noKind known read hkind⟩
          | ok k =>
              rw [execute_declared s w a more read named, Settings.build]
              cases found : s.launching.projectRoot w (make k).file with
              | error f =>
                  obtain ⟨lastTried, rfl⟩ := ProjectRoot.error_of_resolve found
                  exact Or.inl ⟨_, rfl, .noRoot known read named found⟩
              | ok dir => exact Or.inr ⟨_, rfl, .mk a read named found⟩
  · exact Or.inl ⟨_, Registry.execute_of_not_mem known w arguments, .unknown known⟩

lemma FirstFault.execute_eq {f : Failure} {code : Int}
    (h : FirstFault s w command arguments f code) :
    s.commands.execute w command arguments = .error f ∧ f.code = code := by
  cases h with
  | unknown absent => exact ⟨Registry.execute_of_not_mem absent w arguments, rfl⟩
  | missing known =>
      obtain ⟨a, rfl⟩ := Registry.mem_ids_iff.mp known
      exact ⟨Registry.execute_nil _ w a, rfl⟩
  | malformed known read =>
      obtain ⟨a, rfl⟩ := Registry.mem_ids_iff.mp known
      exact ⟨Registry.execute_cons_of_error (Declaration.ofJson_of_error read) w a _, rfl⟩
  | noKind known read named =>
      obtain ⟨a, rfl⟩ := Registry.mem_ids_iff.mp known
      have hkind := DeclarationKind.ofText_eq_error_iff.mpr ⟨named, rfl⟩
      exact ⟨Registry.execute_cons_of_error (Declaration.ofJson_of_unnamed read hkind) w a _, rfl⟩
  | noRoot known read named found =>
      obtain ⟨a, rfl⟩ := Registry.mem_ids_iff.mp known
      rw [execute_declared s w a _ read named, Settings.build, found]
      exact ⟨rfl, rfl⟩

lemma Launched.execute_eq {spec : LaunchSpec} (h : Launched s w command arguments spec) :
    s.commands.execute w command arguments = .ok spec := by
  obtain ⟨a, read, named, found⟩ := h
  rw [execute_declared s w a _ read named, Settings.build, found]
  rfl

lemma launched_iff {spec : LaunchSpec} : Launched s w command arguments spec ↔
    s.commands.execute w command arguments = .ok spec := by
  refine ⟨Launched.execute_eq, fun hresult => ?_⟩
  rcases execute_cases s w command arguments with ⟨f, hfault, -⟩ | ⟨spec', hspec, hlaunched⟩
  · cases hfault.symm.trans hresult
  · obtain rfl := Except.ok.inj (hspec.symm.trans hresult)
    exact hlaunched

lemma firstFault_iff {f : Failure} {code : Int} : FirstFault s w command arguments f code ↔
    s.commands.execute w command arguments = .error f ∧ f.code = code := by
  refine ⟨FirstFault.execute_eq, ?_⟩
  rintro ⟨hresult, rfl⟩
  rcases execute_cases s w command arguments with ⟨f', hf, hfault⟩ | ⟨spec, hspec, -⟩
  · obtain rfl := Except.error.inj (hf.symm.trans hresult)
    exact hfault
  · cases hspec.symm.trans hresult

/-- What is launched can be written as JSON: its paths are put together from the working directory,
a path that the argument gives as a text, and settings. -/
lemma Launched.exists_toJson? {spec : LaunchSpec} (hcwd : Text.IsText w.cwd.bytes)
    (h : Launched s w command arguments spec) : ∃ v, spec.toJson? = some v := by
  cases h with
  | @mk v more kind make k root a read named found =>
      have hfile : Text.IsText (make k).file.bytes := Declaration.isText_of_readWithKind read k
      have hroot : Text.IsText root.bytes :=
        ProjectRoot.isText_of_resolve (Path.isText_absolutize hfile hcwd) found
      obtain ⟨hprogram, hdir⟩ := s.launching.isText_launchFrom (make k) a.mode hroot
      exact LaunchSpec.exists_toJson? hprogram hdir

/-! ### Runs -/

/-- Executing commands leaves no trace in a run. -/
theorem after_filter_executes (s : Server) (history : List (World × Request)) :
    s.after (history.filter fun e => !e.2.executes) = s.after history := by
  unfold after
  rw [List.foldl_filter]
  refine congrArg (fun step => history.foldl step s) (funext fun s => funext fun e => ?_)
  obtain ⟨w, r⟩ := e
  cases r <;> rfl

/-- **Executing a command**: in every state, and as long as the path of the working directory is a
text, the launch is started and is the answer, or a failure is shown and is the answer, never both
and never neither. It is a launch when nothing is wrong, and otherwise the failure is the first
thing that is. Of the arguments only the first one counts, and no later request is answered
differently for whatever has been executed. -/
theorem execute_starts_or_fails (s : Server) {w : World} {cwd : String}
    (hcwd : w.cwd.toString? = some cwd) (command : String) (arguments : List Json) :
    ∃ o, s.handle w (.execute command arguments) = (s, o) ∧
      ((∃ spec, o.Starts spec) ∧ (∀ f code, ¬ o.Fails f code) ∨
        (∃ f code, o.Fails f code) ∧ ∀ spec, ¬ o.Starts spec) ∧
      (∀ spec, o.Starts spec ↔ Launched s w command arguments spec) ∧
      (∀ f code, o.Fails f code ↔ FirstFault s w command arguments f code) ∧
      (∀ v more more', arguments = v :: more → s.execute w command (v :: more') = o) ∧
      ∀ (history : List (World × Request)) (w' : World) (r : Request),
        (s.after (history.filter fun e => !e.2.executes)).handle w' r =
          (s.after history).handle w' r := by
  have htext : Text.IsText w.cwd.bytes := Path.exists_toString?_iff.mp ⟨cwd, hcwd⟩
  have hreports : (s.execute w command arguments).Reports
      (s.commands.execute w command arguments) :=
    reports_execute rfl fun spec hspec => (launched_iff.mpr hspec).exists_toJson? htext
  refine ⟨s.execute w command arguments, rfl, hreports.starts_or_fails,
    fun spec => hreports.starts_iff.trans launched_iff.symm,
    fun f code => hreports.fails_iff.trans firstFault_iff.symm, ?_, ?_⟩
  · rintro v more more' rfl
    have hsame := Registry.execute_cons_congr s.launching w command v more' more
    unfold execute commands
    rw [hsame]
  · intro history w' r
    rw [after_filter_executes]

/-- An argument that would be a declaration, but for its kind. -/
def sampleBench : Json :=
  .obj [("kind", .str "bench"), ("sourceFile", .str "/p/a.test.ts"),
    ("span", Span.toJson ⟨0, 3⟩), ("name", .str "a")]

/-- Under a name that is no command the argument is not looked at; under one that is, its kind is
what is wrong, and what follows it is not looked at. -/
theorem sampleBench_fails :
    sampleWorld.cwd.toString? = some "/" ∧
    (∃ o, sampleServer.handle sampleWorld (.execute "vitest.bench" [sampleBench]) =
        (sampleServer, o) ∧ o.Fails (.unknownCommand "vitest.bench") RpcFault.methodNotFound) ∧
    ∃ o, sampleServer.handle sampleWorld (.execute "vitest.debugTest" [sampleBench, .null]) =
        (sampleServer, o) ∧ o.Fails (.invalidKind "bench") RpcFault.invalidParams := by
  have hcwd : sampleWorld.cwd.toString? = some "/" := Path.toString?_ofString "/"
  refine ⟨hcwd, ?_, ?_⟩
  · obtain ⟨o, hhandle, -, -, hfails, -⟩ :=
      execute_starts_or_fails sampleServer hcwd "vitest.bench" [sampleBench]
    exact ⟨o, hhandle, (hfails _ _).mpr (.unknown (by decide))⟩
  · obtain ⟨o, hhandle, -, -, hfails, -⟩ :=
      execute_starts_or_fails sampleServer hcwd "vitest.debugTest" [sampleBench, .null]
    have known : "vitest.debugTest" ∈ sampleServer.commands.ids := by decide
    have hspan : Span.Small ⟨0, 3⟩ := ⟨by decide, by decide⟩
    have read : Declaration.readWithKind sampleBench =
        .ok ("bench", fun k => ⟨k, .ofString "/p/a.test.ts", ⟨0, 3⟩, "a", []⟩) :=
      Declaration.readWithKind_obj (Json.gives_required rfl rfl) (Json.gives_required rfl rfl)
        (Json.gives_required rfl (Span.read_toJson hspan)) (Json.gives_required rfl rfl)
        (Json.means_absent rfl)
    exact ⟨o, hhandle, (hfails _ _).mpr (.noKind known read (by decide))⟩

end Server

end TestScout
