import TestScout.Text.Utf8

/-!
Paths of files: bytes in which `/` separates names. A path is kept as it was written, so `a//b/.`
and `a/b` are different paths; only taking the parent or the last name looks through repeated
separators and through `.` that says nothing. `..` is a name like any other here, since what it
leads to depends on the file system.
-/

namespace TestScout

/-- The separator of names. -/
def slash : UInt8 := 0x2F

structure Path where
  bytes : List UInt8
  deriving DecidableEq, Repr, Inhabited

namespace Path

def ofString (s : String) : Path := ⟨Text.toBytes s⟩

/-- The text of a path, if it is one. -/
def toString? (p : Path) : Option String := Text.ofBytes? p.bytes

def display (p : Path) : String := Text.ofBytesLossy p.bytes

@[simp] theorem toString?_ofString (s : String) : (ofString s).toString? = some s := by
  simp [toString?, ofString]

@[simp] theorem display_ofString (s : String) : (ofString s).display = s := by
  simp [display, ofString]

def isAbsolute (p : Path) : Bool := p.bytes.head? = some slash

/-- The parts between separators, without the separator of the root. -/
def splitParts : List UInt8 → List (List UInt8)
  | [] => [[]]
  | b :: rest =>
    if b = slash then [] :: splitParts rest
    else
      match splitParts rest with
      | [] => [[b]]
      | part :: parts => (b :: part) :: parts

def joinParts : List (List UInt8) → List UInt8
  | [] => []
  | [part] => part
  | part :: parts => part ++ slash :: joinParts parts

/-- The name of the directory itself. -/
def dot : List UInt8 := [0x2E]

/-- The name of the directory above. -/
def dotDot : List UInt8 := [0x2E, 0x2E]

/-- The bytes after the separator of the root. -/
def body (p : Path) : List UInt8 := if p.isAbsolute then p.bytes.tail else p.bytes

/-- Drops parts at the end that name nothing. The first part of a relative path may be a `.` that
names the directory it starts from. -/
def dropIdle (absolute : Bool) (parts : List (List UInt8)) : List (List UInt8) :=
  match parts with
  | [] => []
  | first :: rest =>
    match (rest.reverse.dropWhile fun part => part.isEmpty || part = dot).reverse with
    | [] => if first.isEmpty || (absolute && first = dot) then [] else [first]
    | more => first :: more

/-- The parts of a path up to its last name. -/
def parts (p : Path) : List (List UInt8) := dropIdle p.isAbsolute (splitParts p.body)

def ofParts (p : Path) (parts : List (List UInt8)) : Path :=
  ⟨(if p.isAbsolute then [slash] else []) ++ joinParts parts⟩

/-- The path without its last name; the root and the empty path have none. -/
def parent? (p : Path) : Option Path :=
  match p.parts with
  | [] => none
  | parts => some (p.ofParts (dropIdle p.isAbsolute parts.dropLast))

/-- The last name of a path, unless that is `.` or `..`. -/
def fileName? (p : Path) : Option (List UInt8) :=
  match p.parts.getLast? with
  | some name => if name = dotDot || name = dot then none else some name
  | none => none

/-- The part of the last name after its last point, unless the name begins there. -/
def extension? (p : Path) : Option (List UInt8) := do
  let name ← p.fileName?
  let after := (name.reverse.takeWhile (· ≠ 0x2E)).reverse
  if after.length + 1 < name.length then some after else none

/-- `q` read from `p`. -/
def join (p q : Path) : Path :=
  if q.isAbsolute then q
  else
    match p.bytes.getLast? with
    | some b => if b = slash then ⟨p.bytes ++ q.bytes⟩ else ⟨p.bytes ++ slash :: q.bytes⟩
    | none => q

/-- `p` itself if it is absolute, otherwise `p` read from `cwd`. -/
def absolutize (p cwd : Path) : Path := if p.isAbsolute then p else cwd.join p

instance : Div Path := ⟨join⟩

end Path

end TestScout
