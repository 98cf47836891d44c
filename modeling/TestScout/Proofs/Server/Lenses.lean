import TestScout.Proofs.Launch
import TestScout.Proofs.Lens
import TestScout.Proofs.Position.Steps
import TestScout.Proofs.Registry
import TestScout.Proofs.Server.Run
import TestScout.Proofs.Walk.Span

/-!
Lenses and what comes of them. A lens carries its declaration to the editor and back, through JSON
both ways; what is launched when it is clicked on is what would have been launched for the
declaration as it was found, in whatever state the server is.
-/

namespace TestScout

namespace Outcome

/-- An outcome tells what became of a launch: the launch itself is the answer, and is started; or
what has gone wrong is the answer, and is shown. -/
def Reports (o : Outcome) : Except Failure LaunchSpec → Prop
  | .ok spec => ∃ v, spec.toJson? = some v ∧ o = ⟨.ok v, [.start ⟨spec⟩]⟩
  | .error f => o = ⟨.error (.failed f), [.complaint f.message]⟩

/-- Two outcomes are the same fault, or two results that differ in whether the debugger stays away:
it does in the first. -/
def DebugOf (run debug : Outcome) : Prop :=
  (∃ f, run.answer = .error f ∧ debug = run) ∨
    ∃ v w, run.answer = .ok v ∧ debug.answer = .ok w ∧ Json.DifferIn "noDebug" v w

end Outcome

namespace Server

/-- Sends the command of a lens with its arguments back, as an editor does for a click on it. -/
def click (s : Server) (w : World) (lens : Json) : Option (Server × Outcome) := do
  let params ← lens.member? "command"
  let request ← (Request.readExecute params).toOption
  return s.handle w request

variable {s : Server} {w : World} {d : Declaration} {file : String}

lemma click_lens (s : Server) (w : World) (l : Lens) :
    s.click w l.toJson = some (s, s.execute w l.command [l.argument]) := by
  obtain ⟨params, hparams, hread⟩ := Request.readExecute_lens l
  unfold click
  rw [hparams, Option.bind_eq_bind, Option.bind_some, hread]
  rfl

lemma reports_execute {command : String} {arguments : List Json} {r : Except Failure LaunchSpec}
    (h : s.commands.execute w command arguments = r)
    (hjson : ∀ spec, r = .ok spec → ∃ v, spec.toJson? = some v) :
    (s.execute w command arguments).Reports r := by
  unfold execute
  rw [h]
  cases r with
  | error f => rfl
  | ok spec =>
      obtain ⟨v, hv⟩ := hjson spec rfl
      simp only [hv]
      exact ⟨v, hv, rfl⟩

/-- **A click**: the lens of a declaration launches the declaration, under the settings of the
server. -/
theorem reports_click (hfile : d.file.toString? = some file) (habs : d.file.isAbsolute = true)
    (hsmall : d.span.Small) (t : LineTable) (a : Action) :
    ∃ o, s.click w (Lens.on t file d a).toJson = some (s, o) ∧
      o.Reports (s.launching.build w d a.mode) := by
  have hread : Declaration.ofJson (.obj (d.members file)) = .ok d :=
    Declaration.ofJson_members hfile hsmall
  have htext : Text.IsText (d.file.absolutize w.cwd).bytes := by
    rw [Path.absolutize_of_isAbsolute habs]
    exact Path.exists_toString?_iff.mp ⟨file, hfile⟩
  exact ⟨_, click_lens s w _, reports_execute (Registry.execute_ofSettings hread w a [])
    fun spec hspec => Settings.toJson?_of_build htext hspec⟩

lemma debugOf_of_reports {c : Settings} {run debug : Outcome}
    (hrun : run.Reports (c.build w d .run)) (hdebug : debug.Reports (c.build w d .debug)) :
    run.DebugOf debug := by
  rcases c.build_run_or_debug w d with ⟨f, hr, hd⟩ | ⟨spec, hn, hr, hd⟩
  · rw [hr] at hrun
    rw [hd] at hdebug
    exact Or.inl ⟨_, congrArg Outcome.answer hrun, hdebug.trans hrun.symm⟩
  · rw [hr] at hrun
    rw [hd] at hdebug
    obtain ⟨v, hv, rfl⟩ := hrun
    obtain ⟨v', hv', rfl⟩ := hdebug
    obtain ⟨u, hu, hdiffer⟩ := LaunchSpec.differIn_noDebug hv hn
    obtain rfl : v' = u := Option.some.inj (hv'.symm.trans hu)
    exact Or.inr ⟨v, v', rfl, rfl, hdiffer⟩

/-! ### The lenses of an open document -/

lemma handle_codeLens {uri : Uri} {doc : Document} (h : s.documents.get? uri = some doc)
    (w : World) : s.handle w (.codeLens uri) =
      (s, ⟨.ok (.arr ((doc.lenses s.markers).map Lens.toJson)), []⟩) := by
  have hlenses : s.codeLens uri = some (doc.lenses s.markers) := by rw [codeLens, h]; rfl
  simp only [handle, hlenses]
  rfl

end Server

namespace Lens

lemma liesAt_range (text file : String) (d : Declaration) :
    ∃ start stop : Position, start.LiesAt text d.span.start ∧ stop.LiesAt text d.span.stop ∧
      ∀ a, (on (.ofText text) file d a).toJson.member? "range" = some (.obj
        [("start", .obj [("line", .nat start.line), ("character", .nat start.character)]),
          ("end", .obj [("line", .nat stop.line), ("character", .nat stop.character)])]) :=
  ⟨_, _, LineTable.liesAt_position text _, LineTable.liesAt_position text _, fun _ => rfl⟩

end Lens

namespace Document

/-- The declarations that a walk finds in the text of a document. -/
def found (doc : Document) (m : Markers) : List Declaration :=
  (discover m doc.source Walk.never).declarations

variable {doc : Document} {m : Markers} {d : Declaration}

lemma file_of_mem_found (h : d ∈ doc.found m) : d.file = doc.path :=
  (Walk.file_and_span_of_mem_through h).1

/-- The offsets of a declaration in a text held in memory are small. -/
lemma small_of_mem_found (htext : Text.InMemory doc.text) (h : d ∈ doc.found m) :
    d.span.Small := by
  obtain ⟨hlong, hstop⟩ : d.span.Quotes doc.text := (Walk.file_and_span_of_mem_through h).2
  unfold Text.InMemory at htext
  constructor <;> omega

lemma lenses_eq {file : String} (hfile : doc.path.toString? = some file) :
    doc.lenses m = (doc.found m).flatMap fun d =>
      Action.all.map (Lens.on (.ofText doc.text) file d) :=
  Lens.lenses_never fun d hd => by rw [file_of_mem_found hd, hfile]

end Document

namespace Server

/-- **Lenses launch what has been found**: in every state that the server gets into, the lenses of
an open document are two for each declaration that a walk under the active markers finds in its
text, to run it and to debug it, both between the places of the two ends of its span; and a click on
one comes to what the active settings make of that declaration, be it a launch or that its project
has no root. -/
theorem lenses_launch_found {s : Server} (reachable : s.Reachable) {uri : Uri} {doc : Document}
    (opened : s.documents.get? uri = some doc) (absolute : doc.path.isAbsolute = true)
    {file : String} (text : doc.path.toString? = some file) (w : World) :
    s.markers = s.launching.discovery ∧
    s.handle w (.codeLens uri) = (s, ⟨.ok (.arr ((doc.found s.markers).flatMap fun d =>
      [(Lens.on (.ofText doc.text) file d .run).toJson,
        (Lens.on (.ofText doc.text) file d .debug).toJson])), []⟩) ∧
    ∀ d ∈ doc.found s.markers,
      (∃ start stop : Position,
        start.LiesAt doc.text d.span.start ∧ stop.LiesAt doc.text d.span.stop ∧
        ∀ a, (Lens.on (.ofText doc.text) file d a).toJson.member? "range" = some (.obj
          [("start", .obj [("line", .nat start.line), ("character", .nat start.character)]),
            ("end", .obj [("line", .nat stop.line), ("character", .nat stop.character)])])) ∧
      ∃ run debug,
        s.click w (Lens.on (.ofText doc.text) file d .run).toJson = some (s, run) ∧
        s.click w (Lens.on (.ofText doc.text) file d .debug).toJson = some (s, debug) ∧
        run.Reports (s.launching.build w d .run) ∧
        debug.Reports (s.launching.build w d .debug) ∧
        run.DebugOf debug ∧
        ∀ mode f, s.launching.build w d mode = .error f →
          ∃ lastTried, f = .rootNotFound doc.path lastTried := by
  have hsound := reachable.sound
  refine ⟨hsound.markers, ?_, fun d hd => ?_⟩
  · rw [handle_codeLens opened, Document.lenses_eq text, List.map_flatMap]
    rfl
  · have hd_file := Document.file_of_mem_found hd
    have hsmall := Document.small_of_mem_found (hsound.inMemory.of_get? opened) hd
    rw [← hd_file] at absolute text
    obtain ⟨run, hrun, hreports⟩ := reports_click text absolute hsmall (.ofText doc.text) .run
    obtain ⟨debug, hdebug, hreports'⟩ :=
      reports_click text absolute hsmall (.ofText doc.text) .debug
    have hrange := Lens.liesAt_range doc.text file d
    refine ⟨hrange, run, debug, hrun, hdebug, hreports, hreports',
      debugOf_of_reports hreports hreports', fun mode f hf => ?_⟩
    obtain ⟨lastTried, rfl⟩ := Settings.error_of_build hf
    refine ⟨lastTried, ?_⟩
    rw [Path.absolutize, if_pos absolute, hd_file]

/-- A machine without files. -/
def sampleWorld : World := ⟨⟨.dir []⟩, .ofString "/", fun _ => none, none⟩

/-- A file that an editor has open, with a test in a suite. -/
def sampleDocument : Document :=
  .ofText ⟨"file", "", none, none, .segments ["p", "a.test.ts"], none, none⟩
    "describe('é', () => \x7b it('a', () => \x7b\x7d) \x7d)" 1

def sampleSuite : Declaration := ⟨.suite, .ofString "/p/a.test.ts", ⟨9, 13⟩, "é", []⟩

def sampleTest : Declaration := ⟨.test, .ofString "/p/a.test.ts", ⟨26, 29⟩, "a", ["é"]⟩

/-- A server that has been told of that file. -/
def sampleServer : Server :=
  (ofSettings .builtIn).after
    [(sampleWorld, .opened sampleDocument.uri sampleDocument.text sampleDocument.version)]

/-- A test in a suite has lenses after those of the suite, and a click on its first one runs it. -/
theorem sampleTest_lenses :
    sampleServer.handle sampleWorld (.codeLens sampleDocument.uri) =
      (sampleServer, ⟨.ok (.arr ([sampleSuite, sampleTest].flatMap fun d =>
        [(Lens.on (.ofText sampleDocument.text) "/p/a.test.ts" d .run).toJson,
          (Lens.on (.ofText sampleDocument.text) "/p/a.test.ts" d .debug).toJson])), []⟩) ∧
    ∃ run, sampleServer.click sampleWorld (Lens.on (.ofText sampleDocument.text) "/p/a.test.ts"
        sampleTest .run).toJson = some (sampleServer, run) ∧
      run.Reports (Settings.builtIn.build sampleWorld sampleTest .run) := by
  have hreach : sampleServer.Reachable := by
    refine ⟨.builtIn, _, fun e he => ?_, rfl⟩
    obtain rfl := List.mem_singleton.mp he
    show Text.InMemory sampleDocument.text
    decide
  have hopened : sampleServer.documents.get? sampleDocument.uri = some sampleDocument := by
    decide +kernel
  have hfound : sampleDocument.found sampleServer.markers = [sampleSuite, sampleTest] := by
    decide +kernel
  obtain ⟨-, hlenses, hclick⟩ := lenses_launch_found hreach hopened (by decide +kernel)
    (Path.toString?_ofString "/p/a.test.ts") sampleWorld
  rw [hfound] at hlenses hclick
  obtain ⟨-, run, -, hrun, -, hreports, -⟩ := hclick sampleTest (by simp)
  exact ⟨hlenses, run, hrun, hreports⟩

end Server

end TestScout
