import TestScout.Document
import TestScout.Registry
import TestScout.Request
import TestScout.Rpc.Fault

/-!
The server of an editor. It keeps the open documents and what the settings say about them: the
markers that make declarations, and the settings under which declarations are launched. Both come
from the same settings, which can be worked with. What the server tells the editor without being
asked comes with the answer, as a list of notes.
-/

namespace TestScout

inductive Note where
  | log (text : String)
  | complaint (text : String)
  | start (request : StartRequest)

/-- A note as JSON; there is none if it would start what has none. -/
def Note.toJson? (n : Note) : Option Json :=
  match n with
  | log text => some (message "window/logMessage" (.obj [("type", .nat 3), ("message", .str text)]))
  | complaint text =>
    some (message "window/showMessage" (.obj [("type", .nat 1), ("message", .str text)]))
  | start request => request.toJson?.map (message "vitestLens/startDebugging")
where
  message (method : String) (params : Json) : Json :=
    .obj [("jsonrpc", .str "2.0"), ("method", .str method), ("params", params)]

structure Outcome where
  answer : Except RpcFault Json
  notes : List Note

/-- The state of the server: the markers that make declarations, the settings under which they are
launched, and the open documents. -/
structure Server where
  markers : Markers
  launching : Settings
  documents : Documents
  deriving DecidableEq

namespace Server

/-- The server under some settings, before any document is open. -/
def ofSettings (s : Settings) : Server := ⟨s.discovery, s, .empty⟩

def commands (s : Server) : Registry := .ofSettings s.launching

/-- The settings that an editor asks for, if they are settings that can be worked with. -/
def wanted? (options : Option Json) : Option Settings := do
  let s ← (Settings.read (← options)).toOption
  if s.fault?.isSome then failure
  return s

/-- The server under the settings that an editor asks for, or as it was. -/
def configure (s : Server) (options : Option Json) : Server :=
  match wanted? options with
  | some settings => { s with markers := settings.discovery, launching := settings }
  | none => s

/-- What the server says of itself at the beginning. -/
def greeting (s : Server) : Json :=
  .obj [
    ("capabilities", .obj [
      ("textDocumentSync", .nat 1),
      ("codeLensProvider", .obj [("resolveProvider", .bool false)]),
      ("executeCommandProvider", .obj [("commands", .texts s.commands.ids)])]),
    ("serverInfo", .obj [("name", .str "vitest-lens"), ("version", .str "0.1.0")])]

def codeLens (s : Server) (uri : Uri) : Option (List Lens) :=
  (s.documents.get? uri).map fun d => d.lenses s.markers

/-- Executes a command. What can be launched is started by the editor, and is the answer; what has
gone wrong is shown, and is the answer too. -/
def execute (s : Server) (w : World) (command : String) (arguments : List Json) : Outcome :=
  match s.commands.execute w command arguments with
  | .error failure => ⟨.error (.failed failure), [.complaint failure.message]⟩
  | .ok spec =>
    match spec.toJson? with
    | some v => ⟨.ok v, [.start ⟨spec⟩]⟩
    | none => ⟨.error .internal, []⟩

/-- The outcome of what needs no answer. -/
def quiet : Outcome := ⟨.ok .null, []⟩

def handle (s : Server) (w : World) : Request → Server × Outcome
  | .setUp options =>
    let s := s.configure options
    (s, ⟨.ok s.greeting, []⟩)
  | .ready => (s, ⟨.ok .null, [.log "vitest-lens server initialized"]⟩)
  | .opened uri text version =>
    ({ s with documents := s.documents.insert (.ofText uri text version) }, quiet)
  | .changed uri texts version =>
    ({ s with documents := s.documents.change uri texts version }, quiet)
  | .closed uri => ({ s with documents := s.documents.erase uri }, quiet)
  | .codeLens uri =>
    (s, ⟨.ok (((s.codeLens uri).map fun ls => Json.arr (ls.map Lens.toJson)).getD .null), []⟩)
  | .execute command arguments => (s, s.execute w command arguments)

end Server

end TestScout
