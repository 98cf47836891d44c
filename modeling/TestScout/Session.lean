import TestScout.Server

/-!
A session of an editor with the server, message by message. It begins with a request that starts the
server and ends with one that stops it and a message after which nothing is answered; what comes out
of turn is refused. A message with an identifier asks for an answer; one without tells something,
and what cannot be made of it is passed over.
-/

namespace TestScout

structure Message where
  method : String
  params : Option Json
  id : Option Json

/-- The message that a value is, if it names its method. -/
def Message.ofJson? (v : Json) : Option Message :=
  match v.member? "method" with
  | some (.str method) => some ⟨method, v.member? "params", v.member? "id"⟩
  | _ => none

inductive Method where
  | setUp
  | ready
  | shutdown
  | exit
  | cancel
  | didOpen
  | didChange
  | didClose
  | codeLens
  | executeCommand
  | unsupported
  | unheeded
  deriving DecidableEq, Repr

namespace Method

/-- The questions of editors that this server has no answers to. -/
def questions : List String := [
  "textDocument/willSaveWaitUntil", "textDocument/declaration", "textDocument/definition",
  "textDocument/typeDefinition", "textDocument/implementation", "textDocument/references",
  "textDocument/prepareCallHierarchy", "callHierarchy/incomingCalls",
  "callHierarchy/outgoingCalls", "textDocument/prepareTypeHierarchy", "typeHierarchy/supertypes",
  "typeHierarchy/subtypes", "textDocument/documentHighlight", "textDocument/documentLink",
  "documentLink/resolve", "textDocument/hover", "codeLens/resolve", "textDocument/foldingRange",
  "textDocument/selectionRange", "textDocument/documentSymbol",
  "textDocument/semanticTokens/full", "textDocument/semanticTokens/full/delta",
  "textDocument/semanticTokens/range", "textDocument/inlineValue", "textDocument/inlayHint",
  "inlayHint/resolve", "textDocument/moniker", "textDocument/completion",
  "completionItem/resolve", "textDocument/diagnostic", "workspace/diagnostic",
  "textDocument/signatureHelp", "textDocument/codeAction", "codeAction/resolve",
  "textDocument/documentColor", "textDocument/colorPresentation", "textDocument/formatting",
  "textDocument/rangeFormatting", "textDocument/onTypeFormatting", "textDocument/rename",
  "textDocument/prepareRename", "textDocument/linkedEditingRange", "workspace/symbol",
  "workspaceSymbol/resolve", "workspace/willCreateFiles", "workspace/willRenameFiles",
  "workspace/willDeleteFiles"]

/-- What editors tell that this server does nothing about. -/
def news : List String := [
  "textDocument/willSave", "textDocument/didSave", "workspace/didChangeConfiguration",
  "workspace/didChangeWorkspaceFolders", "workspace/didCreateFiles", "workspace/didRenameFiles",
  "workspace/didDeleteFiles", "workspace/didChangeWatchedFiles"]

def ofName? (name : String) : Option Method :=
  match name with
  | "initialize" => some setUp
  | "initialized" => some ready
  | "shutdown" => some shutdown
  | "exit" => some exit
  | "$/cancelRequest" => some cancel
  | "textDocument/didOpen" => some didOpen
  | "textDocument/didChange" => some didChange
  | "textDocument/didClose" => some didClose
  | "textDocument/codeLens" => some codeLens
  | "workspace/executeCommand" => some executeCommand
  | other =>
    if questions.contains other then some unsupported
    else if news.contains other then some unheeded
    else none

/-- Whether a message about this asks for an answer. -/
def asks : Method → Bool
  | setUp | shutdown | codeLens | executeCommand | unsupported => true
  | ready | exit | cancel | didOpen | didChange | didClose | unheeded => false

/-- How the parameters are read, where the server does something about them. -/
def reader? : Method → Option (Json.Reader Request)
  | setUp => some Request.readSetUp
  | ready => some Request.readReady
  | didOpen => some Request.readOpened
  | didChange => some Request.readChanged
  | didClose => some Request.readClosed
  | codeLens => some Request.readCodeLens
  | executeCommand => some Request.readExecute
  | shutdown | exit | cancel | unsupported | unheeded => none

end Method

inductive Phase where
  | fresh
  | running
  | stopped
  | ended
  deriving DecidableEq, Repr

/-- What a message out of turn is refused with. -/
def Phase.fault : Phase → RpcFault
  | fresh => .notInitialized
  | running | stopped | ended => .outOfTurn

structure Session where
  server : Server
  phase : Phase

structure Reaction where
  response : Option Json
  notes : List Note

def Reaction.silent : Reaction := ⟨none, []⟩

def responseJson (id : Json) : Except RpcFault Json → Json
  | .ok result => .obj [("jsonrpc", .str "2.0"), ("result", result), ("id", id)]
  | .error fault => .obj [("jsonrpc", .str "2.0"), ("error", fault.toJson), ("id", id)]

namespace Session

def ofSettings (s : Settings) : Session := ⟨.ofSettings s, .fresh⟩

/-- The reaction to a message whose outcome is known. -/
def react (m : Message) (o : Outcome) : Reaction :=
  ⟨m.id.map fun id => responseJson id o.answer, o.notes⟩

/-- The reaction to a message that cannot be heeded. -/
def refuse (m : Message) (fault : RpcFault) : Reaction := react m ⟨.error fault, []⟩

def request (method : Method) (params : Option Json) : Except RpcFault (Option Request) :=
  match method.reader?, params with
  | some _, none => .error .missingParams
  | some read, some v =>
    match read v with
    | .ok r => .ok (some r)
    | .error fault => .error (.malformedParams fault)
  | none, params =>
    match method, params with
    | .shutdown, some v => .error (.unexpectedParams v)
    | .unsupported, none => .error .missingParams
    | .unsupported, some _ => .error .unsupported
    | _, _ => .ok none

/-- Does what a message in turn says. -/
def heed (s : Server) (w : World) (method : Method) (m : Message) : Server × Outcome :=
  if m.id.isSome ≠ method.asks then (s, Server.quiet)
  else
    match request method m.params with
    | .error fault => (s, ⟨.error fault, []⟩)
    | .ok none => (s, Server.quiet)
    | .ok (some r) => s.handle w r

/-- The reaction to a message in turn. One that tells something gets no answer, nor does one that
should tell something and asks. -/
def reaction (method : Method) (m : Message) (o : Outcome) : Reaction :=
  if method.asks then react m o else ⟨none, o.notes⟩

/-- Takes a message; there is no reaction once the session has ended. -/
def receive (s : Session) (w : World) (m : Message) : Session × Option Reaction :=
  if s.phase = .ended then (s, none)
  else
    match Method.ofName? m.method with
    | none =>
      if m.method.startsWith "$/" then (s, some .silent)
      else (s, some (refuse m (.unknownMethod m.method)))
    | some .exit => ({ s with phase := .ended }, some .silent)
    | some .cancel => (s, some .silent)
    | some .setUp =>
      if s.phase = .fresh then
        let (server, outcome) := heed s.server w .setUp m
        let begun := m.id.isSome && outcome.answer.toOption.isSome
        (⟨server, if begun then .running else .fresh⟩, some (reaction .setUp m outcome))
      else (s, some (refuse m .outOfTurn))
    | some method =>
      if s.phase = .running then
        let (server, outcome) := heed s.server w method m
        let phase := if method = .shutdown then .stopped else s.phase
        (⟨server, phase⟩, some (reaction method m outcome))
      else (s, some (refuse m s.phase.fault))

/-- The files that the server looks for when it takes a message. -/
def places (s : Session) (cwd : Path) (m : Message) : List Path :=
  match (Method.ofName? m.method).map fun method => request method m.params with
  | some (.ok (some (.execute _ (argument :: _)))) =>
    match Declaration.ofJson argument with
    | .ok d =>
      let runner := s.server.launching.runner
      ProjectRoot.candidates cwd d.file runner.manifest runner.maxHops
    | .error _ => []
  | _ => []

end Session

end TestScout
