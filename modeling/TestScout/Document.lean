import TestScout.Lens
import TestScout.Uri.Basic
import TestScout.Walk

/-!
The documents that an editor has open. Only the text of a document is kept; what it declares is
found again whenever it is asked for. Each identifier stands for at most one open document.
-/

namespace TestScout

structure Document where
  uri : Uri
  path : Path
  text : String
  version : Int
  deriving DecidableEq, Repr

namespace Document

def ofText (uri : Uri) (text : String) (version : Int) : Document :=
  ⟨uri, uri.filePath, text, version⟩

def replace (d : Document) (text : String) (version : Int) : Document :=
  { d with text := text, version := version }

def source (d : Document) : Syntax.Source := .ofText d.path d.text

def lenses (d : Document) (m : Markers) : List Lens :=
  TestScout.lenses d.text (discover m d.source Walk.never).declarations Walk.never

end Document

/-- The open documents, the one opened last first. -/
structure Documents where
  opened : List Document
  deriving DecidableEq, Repr

namespace Documents

def empty : Documents := ⟨[]⟩

def get? (ds : Documents) (uri : Uri) : Option Document := ds.opened.find? fun d => d.uri = uri

def erase (ds : Documents) (uri : Uri) : Documents := ⟨ds.opened.filter fun d => d.uri ≠ uri⟩

/-- The documents with one more, in place of that of the same identifier. -/
def insert (ds : Documents) (d : Document) : Documents := ⟨d :: (ds.erase d.uri).opened⟩

/-- The documents with that of an identifier, if it is open, given new texts one after another. -/
def change (ds : Documents) (uri : Uri) (texts : List String) (version : Int) : Documents :=
  ⟨ds.opened.map fun d =>
    if d.uri = uri then texts.foldl (fun d text => d.replace text version) d else d⟩

theorem uri_foldl_replace (texts : List String) (version : Int) (d : Document) :
    (texts.foldl (fun d text => d.replace text version) d).uri = d.uri := by
  induction texts generalizing d with
  | nil => rfl
  | cons t ts ih => rw [List.foldl_cons, ih]; rfl

theorem get?_erase (ds : Documents) (uri other : Uri) :
    (ds.erase uri).get? other = if other = uri then none else ds.get? other := by
  obtain ⟨opened⟩ := ds
  simp only [get?, erase]
  induction opened with
  | nil => simp
  | cons d rest ih => grind

theorem get?_insert (ds : Documents) (d : Document) (other : Uri) :
    (ds.insert d).get? other = if other = d.uri then some d else ds.get? other := by
  have h := get?_erase ds d.uri other
  simp only [get?, insert] at *
  grind

theorem get?_change (ds : Documents) (uri other : Uri) (texts : List String) (version : Int) :
    (ds.change uri texts version).get? other =
      if other = uri then
        (ds.get? other).map fun d => texts.foldl (fun d text => d.replace text version) d
      else ds.get? other := by
  obtain ⟨opened⟩ := ds
  simp only [get?, change]
  induction opened with
  | nil => simp
  | cons d rest ih =>
    have := uri_foldl_replace texts version d
    grind

end Documents

end TestScout
