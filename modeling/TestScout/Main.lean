import TestScout.CommandLine.Report
import TestScout.Json.Reader
import TestScout.Rpc.Frame
import TestScout.Session

/-!
The program. It looks at as much of the file system as what it is asked for depends on, and leaves
the rest to definitions that know nothing of the machine.
-/

namespace TestScout

/-- The real place of a path, if it leads to something. -/
def realPlace? (path : String) : IO (Option String) :=
  try return some (← IO.FS.realPath path).toString catch _ => return none

/-- Adds what is at a real place. -/
def record (fs : FileSystem) (here : String) : IO FileSystem := do
  let path := if here.isEmpty then "/" else here
  match fs.lookup (.ofString path) with
  | .ok _ => return fs
  | .error _ =>
    if ← (← IO.FS.realPath path).isDir then return fs.insert (.ofString path) (.dir [])
    else
      try return fs.insert (.ofString path) (.file (← IO.FS.readBinFile path).toList)
      catch _ => return fs

/-- Adds what names lead to from a real place, with the links on the way. -/
def survey (fs : FileSystem) (here : String) : List String → IO FileSystem
  | [] => record fs here
  | "." :: names => survey fs here names
  | ".." :: names =>
    survey fs ((Path.ofString here).parent?.map (·.display) |>.filter (· ≠ "/") |>.getD "") names
  | name :: names => do
    let next := here ++ "/" ++ name
    match ← realPlace? next with
    | none => record fs here
    | some real =>
      if real = next then survey fs real names
      else survey (fs.insert (.ofString next) (.link (.ofString real))) real names

/-- Adds what some paths lead to. -/
def World.explore (w : World) (paths : List Path) : IO World := do
  let files ← paths.foldlM (fun fs path => do
    let names := (FileSystem.steps (path.absolutize w.cwd)).map Text.ofBytesLossy
    survey fs "" names) w.files
  return { w with files := files }

/-- The world before anything in it has been looked at. -/
def World.unexplored : IO World := do
  let values ← Settings.variableNames.mapM fun name => do return (name, ← IO.getEnv name)
  let here ← try pure (← IO.currentDir).toString catch _ => pure ""
  return {
    files := ⟨.dir []⟩
    cwd := .ofString here
    vars := fun name => (values.lookup name).join }

/-- Reads a header, and says how many bytes follow it. -/
partial def readHeader (input : IO.FS.Stream) (length : Option Nat) : IO (Option Nat) := do
  let line ← input.getLine
  if line.isEmpty then return none
  else if Rpc.endsHeader line then return some (length.getD 0)
  else readHeader input (Rpc.announced? line <|> length)

/-- Reads so many bytes, or as many as there are. -/
partial def readBytes (input : IO.FS.Stream) (count : Nat) (found : ByteArray) : IO ByteArray := do
  if count ≤ found.size then return found
  let more ← input.read (count - found.size).toUSize
  if more.isEmpty then return found
  readBytes input count (found ++ more)

/-- Answers an editor until it ends the session or goes away. -/
partial def converse (w : World) (s : Session) (input output : IO.FS.Stream) : IO Unit := do
  match ← readHeader input none with
  | none => return
  | some length =>
    let text := Text.ofBytesLossy (← readBytes input length .empty).toList
    match (Json.ofText? text).bind Message.ofJson? with
    | none => converse w s input output
    | some m =>
      let (s, reaction) := s.receive (← w.explore (s.places w.cwd m)) m
      match reaction with
      | none => return
      | some r =>
        for v in r.notes.filterMap Note.toJson? ++ r.response.toList do
          output.putStr (Rpc.framed v)
        output.flush
        if s.phase = .ended then return
        converse w s input output

def run (arguments : List String) : IO UInt32 := do
  let here := Path.ofString "."
  let w ← World.unexplored
  let w ← w.explore (Settings.places w here)
  let w ← match Invocation.ofArguments arguments, Settings.load w here with
    | .run command, .ok s => w.explore (CommandLine.places w.cwd s command)
    | _, _ => pure w
  let ending := Ending.ofArguments w arguments
  match ending, Invocation.ofArguments arguments, Settings.load w here with
  | .printed _, .run .serve, .ok s =>
    converse w (.ofSettings s) (← IO.getStdin) (← IO.getStdout)
  | .printed text, _, _ => IO.print text
  | .failed error, _, _ =>
    for cause in error.causes do IO.eprintln cause
  | .help, _, _ => IO.print Ending.usageText
  | .misuse, _, _ => IO.eprint Ending.usageText
  return ending.code.toUInt32

end TestScout

def main (arguments : List String) : IO UInt32 := TestScout.run arguments
