import TestScout.FileSystem
import TestScout.Proofs.Path.Resolved

/-!
Following a path through directories. A name in a directory that stands for no link leads one
directory down, and what is left of the path is followed from there. Where there are no links at all
the names of a path lead to the place that they resolve to, so paths that resolve to one place and
lead somewhere lead to the same thing and go on from there in the same way.
-/

namespace TestScout.FileSystem

open TestScout.Path (enter)

variable {fs : FileSystem} {root here child e : Entry} {links : Nat} {above : List Entry}
  {p : Path} {name : List UInt8} {names rest : List (List UInt8)}
  {children : List (List UInt8 × Entry)}

lemma follow_nil : follow root links above here [] = .ok here := by
  rw [follow.eq_def]

lemma follow_cons (hdot : name ≠ Path.dot) (hdotDot : name ≠ Path.dotDot)
    (hlength : name.length ≤ maxName) (hchild : children.lookup name = some child)
    (hlink : ∀ target, child ≠ .link target) :
    follow root links above (.dir children) (name :: rest) =
      follow root links (.dir children :: above) child rest := by
  rw [follow.eq_def]
  simp only [if_neg hdot, if_neg hdotDot, if_neg (Nat.not_lt.mpr hlength), hchild]

lemma lookup_eq_follow (habs : p.isAbsolute = true) (hzero : p.bytes.contains 0 = false)
    (hlength : p.bytes.length ≤ maxPath) :
    fs.lookup p = follow fs.root maxLinks [] fs.root (steps p) := by
  have hempty : p.bytes.isEmpty = false := by rw [Path.bytes_of_isAbsolute habs]; rfl
  rw [lookup, hempty, hzero, if_neg Bool.false_ne_true, if_neg Bool.false_ne_true,
    if_neg (Nat.not_lt.mpr hlength), if_pos habs]

/-- From a working directory that cannot be told, relative paths lead nowhere. -/
theorem has_of_untold {w : World} (hcwd : w.cwd.bytes = []) (hp : p.isAbsolute = false) :
    w.has p = false := by
  have hplace : w.place p = p := by
    have hjoin : w.cwd.join p = p := by
      simp only [Path.join, hp, hcwd, List.getLast?_nil, Bool.false_eq_true, if_false]
    rw [World.place, Path.absolutize, hp, if_neg Bool.false_ne_true, hjoin, ite_self]
  obtain ⟨fault, hfault⟩ : ∃ fault, w.files.lookup p = .error fault := by
    rw [lookup, hp, if_neg Bool.false_ne_true]
    split_ifs <;> exact ⟨_, rfl⟩
  rw [World.has, hplace, hfault]

/-! ### Places -/

/-- `names` lead from the root down to `here`, through the directories `above` it. -/
inductive Place (root : Entry) : List (List UInt8) → List Entry → Entry → Prop
  | top : Place root [] [] root
  | down {names : List (List UInt8)} {above : List Entry} {name : List UInt8} {child : Entry}
      {children : List (List UInt8 × Entry)} :
      Place root names above (.dir children) → children.lookup name = some child →
      Place root (names ++ [name]) (.dir children :: above) child

/-- Nothing below the root is a link. -/
def LinkFree (root : Entry) : Prop :=
  ∀ names above target, ¬ Place root names above (.link target)

mutual
def linkless : Entry → Bool
  | .file _ => true
  | .link _ => false
  | .dir children => linklessIn children

def linklessIn : List (List UInt8 × Entry) → Bool
  | [] => true
  | (_, child) :: more => linkless child && linklessIn more
end

lemma linkless_of_lookup (h : linklessIn children = true)
    (hchild : children.lookup name = some child) : linkless child = true := by
  induction children with
  | nil => cases hchild
  | cons first more ih =>
      obtain ⟨key, entry⟩ := first
      rw [linklessIn, Bool.and_eq_true] at h
      rw [List.lookup_cons] at hchild
      split at hchild
      · cases hchild
        exact h.1
      · exact ih h.2 hchild

lemma linkFree_of_linkless (h : linkless root = true) : LinkFree root := by
  have hplace {names : List (List UInt8)} {above : List Entry} {here : Entry}
      (hhere : Place root names above here) : linkless here = true := by
    induction hhere with
    | top => exact h
    | down _ hchild ih => exact linkless_of_lookup ih hchild
  intro names above target hlink
  have hnot := hplace hlink
  rw [linkless] at hnot
  cases hnot

lemma Place.cases_or (h : Place root names above here) :
    (names = [] ∧ above = [] ∧ here = root) ∨
      ∃ before name children more, names = before ++ [name] ∧ above = .dir children :: more ∧
        Place root before more (.dir children) ∧ children.lookup name = some here := by
  cases h with
  | top => exact Or.inl ⟨rfl, rfl, rfl⟩
  | down hplace hchild => exact Or.inr ⟨_, _, _, _, rfl, rfl, hplace, hchild⟩

lemma Place.unique {above' : List Entry} {here' : Entry} (h : Place root names above here)
    (h' : Place root names above' here') : above' = above ∧ here' = here := by
  induction h generalizing above' here' with
  | top =>
      rcases h'.cases_or with ⟨-, ha, hh⟩ | ⟨before, name, _, _, hnil, -⟩
      · exact ⟨ha, hh⟩
      · exact absurd hnil.symm (List.append_ne_nil_of_right_ne_nil _ (List.cons_ne_nil _ _))
  | @down before above name child children hplace hchild ih =>
      rcases h'.cases_or with ⟨hnil, -⟩ | ⟨before', name', children', more, hnames, ha, hplace', hh⟩
      · exact absurd hnil (List.append_ne_nil_of_right_ne_nil _ (List.cons_ne_nil _ _))
      · obtain ⟨rfl, hname⟩ := List.append_inj' hnames rfl
        obtain rfl := List.singleton_inj.mp hname
        obtain ⟨rfl, hdir⟩ := ih hplace'
        obtain rfl : children' = children := Entry.dir.inj hdir
        exact ⟨ha, Option.some.inj (hh.symm.trans hchild)⟩

/-! ### One step -/

lemma follow_dot :
    follow root links above (.dir children) (Path.dot :: rest) =
      follow root links above (.dir children) rest := by
  rw [follow.eq_def]
  simp only [if_pos]

lemma follow_dotDot_top :
    follow root links [] (.dir children) (Path.dotDot :: rest) =
      follow root links [] (.dir children) rest := by
  rw [follow.eq_def]
  rfl

lemma follow_dotDot :
    follow root links (e :: above) (.dir children) (Path.dotDot :: rest) =
      follow root links above e rest := by
  rw [follow.eq_def]
  rfl

/-- What a step that succeeds has found. -/
lemma exists_of_follow_cons (h : follow root links above here (name :: rest) = .ok e) :
    ∃ children, here = .dir children ∧
      (name ≠ Path.dot → name ≠ Path.dotDot →
        name.length ≤ maxName ∧ ∃ child, children.lookup name = some child) := by
  rw [follow.eq_def] at h
  cases here with
  | file _ => cases h
  | link _ => cases h
  | dir children =>
      refine ⟨children, rfl, fun hdot hdotDot => ?_⟩
      simp only [if_neg hdot, if_neg hdotDot] at h
      split at h
      · cases h
      · next hlength =>
        refine ⟨Nat.le_of_not_lt hlength, ?_⟩
        split at h
        · cases h
        · next target hchild => exact ⟨_, hchild⟩
        · next child _ hchild => exact ⟨_, hchild⟩

/-- Names that lead somewhere, followed by others, lead to the place that they resolve to, and the
others are followed from there. -/
theorem exists_place_of_follow (free : LinkFree root) (hplace : Place root names above here)
    {xs ys : List (List UInt8)} (h : follow root links above here (xs ++ ys) = .ok e) :
    ∃ above' here', Place root ((xs.filter (· ≠ Path.dot)).foldl enter names) above' here' ∧
      ∀ zs, follow root links above here (xs ++ zs) = follow root links above' here' zs := by
  induction xs generalizing names above here with
  | nil => exact ⟨above, here, hplace, fun _ => rfl⟩
  | cons name xs ih =>
      rw [List.cons_append] at h
      obtain ⟨children, rfl, hname⟩ := exists_of_follow_cons h
      by_cases hdot : name = Path.dot
      · subst hdot
        rw [follow_dot] at h
        obtain ⟨above', here', hplace', hzs⟩ := ih hplace h
        refine ⟨above', here', ?_, fun zs => ?_⟩
        · rw [List.filter_cons_of_neg (by simp)]
          exact hplace'
        · rw [List.cons_append, follow_dot, hzs]
      · rw [List.filter_cons_of_pos (by simpa using hdot), List.foldl_cons, enter]
        by_cases hdotDot : name = Path.dotDot
        · subst hdotDot
          rw [if_pos rfl]
          rcases hplace.cases_or with ⟨rfl, rfl, hroot⟩ | ⟨before, last, up, more, rfl, rfl, hup, -⟩
          · rw [follow_dotDot_top] at h
            obtain ⟨above', here', hplace', hzs⟩ := ih hplace h
            exact ⟨above', here', hplace', fun zs => by
              rw [List.cons_append, follow_dotDot_top, hzs]⟩
          · rw [follow_dotDot] at h
            obtain ⟨above', here', hplace', hzs⟩ := ih hup h
            rw [List.dropLast_concat]
            exact ⟨above', here', hplace', fun zs => by
              rw [List.cons_append, follow_dotDot, hzs]⟩
        · rw [if_neg hdotDot]
          obtain ⟨hlength, child, hchild⟩ := hname hdot hdotDot
          have hdown := hplace.down hchild
          have hlink : ∀ target, child ≠ .link target := by
            rintro target rfl
            exact free _ _ _ hdown
          rw [follow_cons hdot hdotDot hlength hchild hlink] at h
          obtain ⟨above', here', hplace', hzs⟩ := ih hdown h
          exact ⟨above', here', hplace', fun zs => by
            rw [List.cons_append, follow_cons hdot hdotDot hlength hchild hlink, hzs]⟩

end TestScout.FileSystem
