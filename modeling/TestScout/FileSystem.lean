import TestScout.Path

/-!
A file system as a value: a tree of directories, files and symbolic links. A path is followed name
by name from the directory it starts in; `..` leads to the directory above the one that has been
reached, so after a link it need not undo the name before it.
-/

namespace TestScout

inductive IoError where
  | notFound
  | notDirectory
  | isDirectory
  | nameTooLong
  | tooManyLinks
  | zeroByte
  | notText
  deriving DecidableEq, Repr

def IoError.message : IoError → String
  | .notFound => "No such file or directory (os error 2)"
  | .notDirectory => "Not a directory (os error 20)"
  | .isDirectory => "Is a directory (os error 21)"
  | .nameTooLong => "File name too long (os error 36)"
  | .tooManyLinks => "Too many levels of symbolic links (os error 40)"
  | .zeroByte => "file name contained an unexpected NUL byte"
  | .notText => "stream did not contain valid UTF-8"

inductive Entry where
  | file (content : List UInt8)
  | link (target : Path)
  | dir (children : List (List UInt8 × Entry))
  deriving Repr, Inhabited

structure FileSystem where
  root : Entry
  deriving Repr, Inhabited

namespace FileSystem

/-- How many links may be followed on one path. -/
def maxLinks : Nat := 40

def maxName : Nat := 255

def maxPath : Nat := 4095

/-- The names to follow, one after another. A separator at the end asks for a directory, as `.`
does. -/
def steps (p : Path) : List (List UInt8) :=
  let names := (Path.splitParts p.body).filter (! ·.isEmpty)
  if p.bytes.getLast? = some slash then names ++ [Path.dot] else names

/-- What is reached from `here`, with the directories `above` it, by following `names`. -/
def follow (root : Entry) (links : Nat) (above : List Entry) (here : Entry)
    (names : List (List UInt8)) : Except IoError Entry :=
  match names with
  | [] => .ok here
  | name :: rest =>
    match here with
    | .file _ => .error .notDirectory
    | .link _ => .error .notDirectory
    | .dir children =>
      if name = Path.dot then follow root links above here rest
      else if name = Path.dotDot then
        match above with
        | [] => follow root links [] here rest
        | parent :: more => follow root links more parent rest
      else if maxName < name.length then .error .nameTooLong
      else
        match children.lookup name with
        | none => .error .notFound
        | some (.link target) =>
          match links with
          | 0 => .error .tooManyLinks
          | links + 1 =>
            if target.isAbsolute then follow root links [] root (steps target ++ rest)
            else follow root links above here (steps target ++ rest)
        | some child => follow root links (here :: above) child rest
termination_by (links, names.length)

/-- What an absolute path leads to. A relative one leads nowhere. -/
def lookup (fs : FileSystem) (p : Path) : Except IoError Entry :=
  if p.bytes.isEmpty then .error .notFound
  else if p.bytes.contains 0 then .error .zeroByte
  else if maxPath < p.bytes.length then .error .nameTooLong
  else if p.isAbsolute then follow fs.root maxLinks [] fs.root (steps p)
  else .error .notFound

/-- Puts `e` at the end of `names`, making directories on the way. -/
def put (e : Entry) : List (List UInt8) → Entry → Entry
  | [], _ => e
  | name :: rest, .dir children =>
    match children.lookup name with
    | some child =>
      .dir (children.map fun c => if c.1 = name then (name, put e rest child) else c)
    | none => .dir (children ++ [(name, put e rest (.dir []))])
  | name :: rest, _ => .dir [(name, put e rest (.dir []))]

def insert (fs : FileSystem) (p : Path) (e : Entry) : FileSystem :=
  ⟨put e ((steps p).filter (· ≠ Path.dot)) fs.root⟩

end FileSystem

/-- What a program sees of the machine it runs on: files, the working directory, variables, and the
home directory that is on record for its user. The working directory cannot always be told, since it
may have been removed; then it is the empty path, and a relative path read from it stays as it is
and leads nowhere. -/
structure World where
  files : FileSystem
  cwd : Path
  vars : String → Option String
  home : Option Path := none

namespace World

/-- A path as the file system takes it. The empty path leads nowhere. -/
def place (w : World) (p : Path) : Path := if p.bytes.isEmpty then p else p.absolutize w.cwd

def has (w : World) (p : Path) : Bool :=
  match w.files.lookup (w.place p) with
  | .ok _ => true
  | .error _ => false

def readBytes (w : World) (p : Path) : Except IoError (List UInt8) :=
  match w.files.lookup (w.place p) with
  | .ok (.file content) => .ok content
  | .ok _ => .error .isDirectory
  | .error e => .error e

def readText (w : World) (p : Path) : Except IoError String := do
  match Text.ofBytes? (← w.readBytes p) with
  | some s => return s
  | none => throw .notText

end World

end TestScout
