import TestScout.Json.Decode
import TestScout.Uri.Basic

/-!
What an editor tells and asks the server, and how that is read from the parameters of a message.
Changes of a document always give its whole new text; a range that comes along is read but says
nothing.
-/

namespace TestScout

inductive Request where
  | setUp (options : Option Json)
  | ready
  | opened (uri : Uri) (text : String) (version : Int)
  | changed (uri : Uri) (texts : List String) (version : Int)
  | closed (uri : Uri)
  | codeLens (uri : Uri)
  | execute (command : String) (arguments : List Json)

namespace Request

open Json (Reader readFields)

def readUri : Reader Uri
  | .str s =>
    match Uri.ofText s with
    | .ok uri => .ok uri
    | .error fault => .error (.wrongValue (.str s) fault.message)
  | v => .error (.wrongType v "a string representing an URL")

/-- A record whose fields are not looked at. -/
def readRecord (name : String) : Reader Unit
  | .obj _ | .arr _ => .ok ()
  | v => .error (.wrongType v ("struct " ++ name))

/-- The fields of a record that only an object can be. -/
def readMembers (record : String) (slots : List Json.Slot) (v : Json) :
    Except Json.DecodeError Json.Given :=
  match v with
  | .arr items => .error (.wrongType (.arr items) ("struct " ++ record))
  | v => readFields record slots v

/-! ### Parts of parameters -/

def uriField : Json.Field Uri := .required "uri" readUri

def versionField : Json.Field Int := .required "version" Json.readInt32

def textField : Json.Field String := .required "text" Json.readString

def languageField : Json.Field String := .required "languageId" Json.readString

/-- A document, by its identifier. -/
def readDocumentName : Reader Uri := fun v => do
  uriField.of (← readFields "TextDocumentIdentifier" [uriField.slot] v)

/-- A document with the number of its new state. -/
def readDocumentState : Reader (Uri × Int) := fun v => do
  let given ← readFields "VersionedTextDocumentIdentifier" [uriField.slot, versionField.slot] v
  return (← uriField.of given, ← versionField.of given)

def readDocument : Reader (Uri × String × Int) := fun v => do
  let given ← readFields "TextDocumentItem"
    [uriField.slot, languageField.slot, versionField.slot, textField.slot] v
  discard (languageField.of given)
  return (← uriField.of given, ← textField.of given, ← versionField.of given)

def lineField : Json.Field Nat := .required "line" Json.readNat32

def characterField : Json.Field Nat := .required "character" Json.readNat32

def readPosition : Reader Unit := fun v => do
  let given ← readFields "Position" [lineField.slot, characterField.slot] v
  discard (lineField.of given)
  discard (characterField.of given)

def startField : Json.Field Unit := .required "start" readPosition

def stopField : Json.Field Unit := .required "end" readPosition

def readRange : Reader Unit := fun v => do
  let given ← readFields "Range" [startField.slot, stopField.slot] v
  startField.of given
  stopField.of given

def rangeField : Json.Field (Option Unit) := .omissible "range" (Json.readOption readRange)

def rangeLengthField : Json.Field (Option Nat) :=
  .omissible "rangeLength" (Json.readOption Json.readNat32)

def readChange : Reader String := fun v => do
  let given ← readFields "TextDocumentContentChangeEvent"
    [rangeField.slot, rangeLengthField.slot, textField.slot] v
  textField.of given

/-! ### The beginning of a session -/

def readCapabilities : Reader Unit := fun v =>
  let field (name record : String) : Json.Field (Option Unit) :=
    .omissible name (Json.readOption (readRecord record))
  let slots := [
    (field "workspace" "WorkspaceClientCapabilities").slot,
    (field "textDocument" "TextDocumentClientCapabilities").slot,
    (field "window" "WindowClientCapabilities").slot,
    (field "general" "GeneralClientCapabilities").slot]
  discard (readMembers "ClientCapabilities" slots v)

def processField : Json.Field (Option Nat) :=
  .omissible "processId" (Json.readOption Json.readNat32)

def rootPathField : Json.Field (Option String) :=
  .omissible "rootPath" (Json.readOption Json.readString)

def rootUriField : Json.Field (Option Uri) := .defaulting "rootUri" (Json.readOption readUri) none

def optionsField : Json.Field (Option Json) :=
  .omissible "initializationOptions" (Json.readOption Json.readAny)

def capabilitiesField : Json.Field Unit := .required "capabilities" readCapabilities

def traceField : Json.Field (Option Unit) :=
  .defaulting "trace"
    (Json.readOption (Json.readVariant [("off", ()), ("messages", ()), ("verbose", ())])) none

def foldersField : Json.Field (Option (List Unit)) :=
  .omissible "workspaceFolders"
    (Json.readOption (Json.readList fun v => do
      let name : Json.Field String := .required "name" Json.readString
      let given ← readFields "WorkspaceFolder" [uriField.slot, name.slot] v
      discard (uriField.of given)
      discard (name.of given)))

def clientField : Json.Field (Option Unit) :=
  .omissible "clientInfo"
    (Json.readOption fun v => do
      let name : Json.Field String := .required "name" Json.readString
      let version : Json.Field (Option String) :=
        .omissible "version" (Json.readOption Json.readString)
      let given ← readFields "ClientInfo" [name.slot, version.slot] v
      discard (name.of given))

def localeField : Json.Field (Option String) :=
  .omissible "locale" (Json.readOption Json.readString)

/-- Reads the parameters of the first request. -/
def readSetUp : Reader Request := fun v => do
  let given ← readFields "InitializeParams"
    [processField.slot, rootPathField.slot, rootUriField.slot, optionsField.slot,
      capabilitiesField.slot, traceField.slot, foldersField.slot, clientField.slot,
      localeField.slot] v
  capabilitiesField.of given
  return .setUp (← optionsField.of given)

/-- Reads the parameters that follow the first answer. -/
def readReady : Reader Request := fun v => do
  discard (readFields "InitializedParams" [] v)
  return .ready

/-! ### Documents and commands -/

def readOpened : Reader Request := fun v => do
  let document : Json.Field (Uri × String × Int) := .required "textDocument" readDocument
  let given ← readFields "DidOpenTextDocumentParams" [document.slot] v
  let (uri, text, version) ← document.of given
  return .opened uri text version

def readChanged : Reader Request := fun v => do
  let document : Json.Field (Uri × Int) := .required "textDocument" readDocumentState
  let changes : Json.Field (List String) := .required "contentChanges" (Json.readList readChange)
  let given ← readFields "DidChangeTextDocumentParams" [document.slot, changes.slot] v
  let (uri, version) ← document.of given
  return .changed uri (← changes.of given) version

def documentField : Json.Field Uri := .required "textDocument" readDocumentName

def readClosed : Reader Request := fun v => do
  let given ← readFields "DidCloseTextDocumentParams" [documentField.slot] v
  return .closed (← documentField.of given)

def readCodeLens : Reader Request := fun v => do
  let given ← readMembers "CodeLensParams" [documentField.slot] v
  return .codeLens (← documentField.of given)

def readExecute : Reader Request := fun v => do
  let command : Json.Field String := .required "command" Json.readString
  let arguments : Json.Field (List Json) :=
    .defaulting "arguments" (Json.readList Json.readAny) []
  let given ← readMembers "ExecuteCommandParams" [command.slot, arguments.slot] v
  return .execute (← command.of given) (← arguments.of given)

end Request

end TestScout
