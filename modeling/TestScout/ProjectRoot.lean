import TestScout.Failure
import TestScout.Path.Parent

/-!
The root of a project: the nearest directory above a file that holds a manifest. Directories are
looked at from the one that holds the file upwards, and only so many of them.
-/

namespace TestScout

/-- A path and everything above it, from below. -/
def Path.chain (p : Path) : List Path :=
  p :: match _h : p.parent? with
    | some q => q.chain
    | none => []
termination_by p.bytes.length
decreasing_by exact Path.length_lt_of_parent? _h

namespace ProjectRoot

/-- The directory that a file lies in; the root of the file system lies in itself. -/
def directoryOf (file : Path) : Path := file.parent?.getD file

/-- The directories that may be looked into for a file. -/
def tried (cwd file : Path) (maxHops : Nat) : List Path :=
  (directoryOf (file.absolutize cwd)).chain.take maxHops

/-- The files that may be looked for. -/
def candidates (cwd file : Path) (manifest : String) (maxHops : Nat) : List Path :=
  (tried cwd file maxHops).map fun dir => dir.join (.ofString manifest)

/-- A search for the root of a project: the directory it ended at, whether that is the root, and the
directories that were looked into, one after another. -/
structure Search where
  dir : Path
  found : Bool
  looked : List Path
  deriving DecidableEq, Repr

/-- Searches from `dir` upwards for a directory that `holds` something, with `hops` looks left to
take and those into `looked` taken before. -/
def climb (holds : Path → Bool) (looked : List Path) (hops : Nat) (dir : Path) : Search :=
  match hops with
  | 0 => ⟨dir, false, looked⟩
  | hops + 1 =>
    if holds dir then ⟨dir, true, looked ++ [dir]⟩
    else if hops = 0 then ⟨dir, false, looked ++ [dir]⟩
    else
      match dir.parent? with
      | some up => climb holds (looked ++ [dir]) hops up
      | none => ⟨dir, false, looked ++ [dir]⟩

/-- Searches for the root of the project of a file: a directory in which something has the name of
the manifest. -/
def search (w : World) (file : Path) (manifest : String) (maxHops : Nat) : Search :=
  climb (fun dir => w.has (dir.join (.ofString manifest))) [] maxHops
    (directoryOf (file.absolutize w.cwd))

/-- The root of the project of a file, looked for in at most `maxHops` directories. -/
def resolve (w : World) (file : Path) (manifest : String) (maxHops : Nat) : Except Failure Path :=
  let s := search w file manifest maxHops
  if s.found then .ok s.dir else .error (.rootNotFound (file.absolutize w.cwd) s.dir)

end ProjectRoot

end TestScout
