import Mathlib
import TestScout.Proofs.FileSystem
import TestScout.Proofs.ProjectRoot.Search

/-!
Whether the root of a project encloses the file. The directories on the way are found by leaving out
one written name after another, so going up from a path that ends in `..` leads down into the
directory before it. The root encloses the file as long as the names between the two never climb
above the root; where the directory of the file exists and nothing is a link it does so in no other
case, since names that come back to the root lead to a directory that was looked into before.
-/

namespace TestScout

open Text
open TestScout.Path (enter dot dotDot StaysBelow)

namespace FileSystem

variable {w : World} {p q m dir : Path}

/-! ### A relative path in a directory -/

/-- The names to follow from a directory on a relative path. -/
def stepsAfter (m : Path) : List (List UInt8) :=
  let names := (Path.splitParts m.bytes).filter (! ·.isEmpty)
  if (slash :: m.bytes).getLast? = some slash then names ++ [dot] else names

lemma steps_join (hp : p.isAbsolute = true) (hm : m.isAbsolute = false) :
    steps (p.join m) = p.written ++ stepsAfter m := by
  obtain ⟨front, hjoin, -⟩ := Path.exists_join_bytes hp hm
  have hlast : (p.join m).bytes.getLast? = (slash :: m.bytes).getLast? := by
    rw [hjoin, List.getLast?_append_of_ne_nil _ (List.cons_ne_nil _ _)]
  have hwritten := (Path.written_join hp hm).2
  rw [Path.written] at hwritten
  rw [steps, stepsAfter, hlast, hwritten]
  split
  · rw [List.append_assoc]
  · rfl

lemma exists_steps (p : Path) : ∃ more, steps p = p.written ++ more := by
  unfold steps
  simp only
  split
  · exact ⟨_, rfl⟩
  · exact ⟨[], (List.append_nil _).symm⟩

lemma has_iff (hp : p.isAbsolute = true) :
    w.has p = true ↔ 0 ∉ p.bytes ∧ p.bytes.length ≤ maxPath ∧
      ∃ e, follow w.files.root maxLinks [] w.files.root (steps p) = .ok e := by
  have hempty : p.bytes.isEmpty = false := by rw [Path.bytes_of_isAbsolute hp]; rfl
  have hplace : w.place p = p := by
    rw [World.place, hempty, if_neg Bool.false_ne_true, Path.absolutize, if_pos hp]
  rw [World.has, hplace]
  constructor
  · intro h
    split at h
    · next e he =>
      rw [lookup, hempty, if_neg Bool.false_ne_true] at he
      split at he
      · cases he
      · next hzero =>
        split at he
        · cases he
        · next hlength =>
          exact ⟨by simpa using hzero, Nat.le_of_not_lt hlength, e, he⟩
    · cases h
  · rintro ⟨hzero, hlength, e, he⟩
    rw [lookup_eq_follow hp (by simpa using hzero) hlength, he]

/-- Of two paths that resolve to one place and lead somewhere, what has something at a relative
path from the one has it from the other, as long as the path is not too long. -/
theorem has_join_of_resolved (free : LinkFree w.files.root) (hp : p.isAbsolute = true)
    (hq : q.isAbsolute = true) (hm : m.isAbsolute = false) (hplace : p.resolved = q.resolved)
    {xs : List (List UInt8)} {e : Entry}
    (hleads : follow w.files.root maxLinks [] w.files.root (p.written ++ xs) = .ok e)
    (hzero : 0 ∉ p.bytes) (hlength : (p.join m).bytes.length ≤ maxPath)
    (h : w.has (q.join m) = true) : w.has (p.join m) = true := by
  obtain ⟨hzeroq, -, found, hfound⟩ := (has_iff (Path.written_join hq hm).1).mp h
  rw [steps_join hq hm] at hfound
  obtain ⟨above, here, hhere, hgo⟩ := exists_place_of_follow free .top hfound
  obtain ⟨above', here', hhere', hgo'⟩ := exists_place_of_follow free .top hleads
  obtain ⟨rfl, rfl⟩ : above' = above ∧ here' = here := by
    refine hhere.unique ?_
    have hnames : (q.written.filter (· ≠ dot)).foldl enter [] =
        (p.written.filter (· ≠ dot)).foldl enter [] := hplace.symm
    rw [hnames]
    exact hhere'
  refine (has_iff (Path.written_join hp hm).1).mpr ⟨?_, hlength, found, ?_⟩
  · obtain ⟨front, hjoin, hfront⟩ := Path.exists_join_bytes hp hm
    obtain ⟨front', hjoin', -⟩ := Path.exists_join_bytes hq hm
    rw [hjoin'] at hzeroq
    rw [hjoin]
    have hslash : (0 : UInt8) ≠ slash := by decide
    have hzerop : 0 ∉ front := by
      rcases hfront with he | he <;> rw [he] at hzero
      · exact hzero
      · exact fun hmem => hzero (List.mem_append_left _ hmem)
    simp only [List.mem_append, List.mem_cons, not_or] at hzeroq ⊢
    exact ⟨hzerop, hslash, hzeroq.2.2⟩
  · rw [steps_join hp hm, hgo', ← hgo, hfound]

end FileSystem

namespace ProjectRoot

variable {w : World} {file root : Path} {manifest : String} {hops : Nat}

lemma of_getElem?_chain {p q : Path} {i : ℕ} (ha : p.isAbsolute = true)
    (h : p.chain[i]? = some q) :
    q.isAbsolute = true ∧ q.bytes <+: p.bytes ∧
      ∃ more, p.written = q.written ++ more ∧ (more.filter (· ≠ dot)).length = i := by
  induction i generalizing q with
  | zero =>
      rw [Path.getElem?_chain_zero] at h
      obtain rfl := Option.some.inj h
      exact ⟨ha, List.prefix_rfl, [], (List.append_nil _).symm, rfl⟩
  | succ i ih =>
      rw [Path.getElem?_chain_succ] at h
      obtain ⟨below, hbelow, hq⟩ := Option.bind_eq_some_iff.mp h
      obtain ⟨habelow, hbytes, more, hmore, hlength⟩ := ih hbelow
      obtain ⟨haq, hbytes', last, more', hmore', hlast⟩ := Path.written_of_parent? habelow hq
      refine ⟨haq, hbytes'.trans hbytes, more' ++ more, ?_, ?_⟩
      · rw [hmore, hmore', List.append_assoc]
      · rw [List.filter_append, List.length_append, hlast, hlength, List.length_singleton,
          Nat.add_comm]

lemma names_of_written {p q : Path} {more : List (List UInt8)}
    (h : p.written = q.written ++ more) : p.names = q.names ++ more.filter (· ≠ dot) := by
  rw [Path.names, h, List.filter_append]
  rfl

/-- Every place that the names between two directories on a chain go through is on the chain. -/
lemma exists_between {p q : Path} {i : ℕ} (ha : p.isAbsolute = true) (h : p.chain[i]? = some q)
    {back rest : List (List UInt8)} (hnames : p.names = q.names ++ (back ++ rest))
    (hback : back ≠ []) :
    ∃ d ∈ p.chain.take i, d.isAbsolute = true ∧ d.bytes <+: p.bytes ∧
      d.names = q.names ++ back ∧ ∃ more, p.written = d.written ++ more := by
  obtain ⟨-, -, below, hbelow, hlength⟩ := of_getElem?_chain ha h
  have hi : back.length + rest.length = i := by
    have heq := List.append_cancel_left (hnames.symm.trans (names_of_written hbelow))
    rw [← hlength, ← heq, List.length_append]
  have hpos : 0 < back.length := List.length_pos_of_ne_nil hback
  obtain ⟨hlt, -⟩ := List.getElem?_eq_some_iff.mp h
  have hd : p.chain[rest.length]? = some p.chain[rest.length] :=
    List.getElem?_eq_getElem (by omega)
  obtain ⟨hdabs, hbytes, more, hmore, hlength'⟩ := of_getElem?_chain ha hd
  refine ⟨_, List.mem_take_iff_getElem.mpr ⟨rest.length, by omega, rfl⟩, hdabs, hbytes, ?_, more,
    hmore⟩
  have hsame : p.chain[rest.length].names ++ more.filter (· ≠ dot) =
      (q.names ++ back) ++ rest := by
    rw [← names_of_written hmore, hnames, List.append_assoc]
  exact (List.append_inj' hsame hlength').1

lemma isAbsolute_directoryOf (absolute : w.cwd.isAbsolute = true) (file : Path) :
    (directoryOf (file.absolutize w.cwd)).isAbsolute = true := by
  have hwhole := Path.isAbsolute_absolutize absolute file
  rw [directoryOf]
  cases hup : (file.absolutize w.cwd).parent? with
  | none => exact hwhole
  | some up => exact (Path.written_of_parent? hwhole hup).1

lemma resolved_of_names {p q : Path} {below : List (List UInt8)} (h : p.names = q.names ++ below) :
    p.resolved = below.foldl enter (q.resolved ++ []) := by
  rw [Path.resolved, h, List.foldl_append, List.append_nil]
  rfl

/-- Names that lead above the root and back into it come through it, at a directory that was looked
into before. So where nothing was found before the root they do not lead above it. -/
lemma staysBelow_of_prefix {dir m : Path} {i : ℕ} {below : List (List UInt8)}
    (hdir : dir.isAbsolute = true) (hroot : dir.chain[i]? = some root)
    (hnames : dir.names = root.names ++ below) (hholds : w.has (root.join m) = true)
    (hbefore : ∀ d ∈ dir.chain.take i, w.has (d.join m) = false)
    (free : FileSystem.LinkFree w.files.root) (relative : m.isAbsolute = false)
    (hexists : w.has dir = true) (hshort : (dir.join m).bytes.length ≤ FileSystem.maxPath)
    (hin : root.resolved <+: dir.resolved) : StaysBelow 0 below := by
  by_contra habove
  obtain ⟨hrootAbs, -⟩ := of_getElem?_chain hdir hroot
  have habove' : ¬ StaysBelow ([] : List (List UInt8)).length below := habove
  rw [resolved_of_names hnames] at hin
  obtain ⟨back, rest, hsplit, hback, hcome⟩ := Path.exists_back_of_not_staysBelow habove' hin
  rw [hsplit] at hnames
  obtain ⟨d, hd, hdabs, hbytes, hdnames, more, hmore⟩ := exists_between hdir hroot hnames hback
  have hplace : d.resolved = root.resolved := by
    rw [resolved_of_names hdnames, hcome]
  obtain ⟨hzero, -, e, hleads⟩ := (FileSystem.has_iff hdir).mp hexists
  obtain ⟨idle, hsteps⟩ := FileSystem.exists_steps dir
  rw [hsteps, hmore, List.append_assoc] at hleads
  have hlength : (d.join m).bytes.length ≤ FileSystem.maxPath :=
    Nat.le_trans (Path.length_join_le hdabs hdir relative hbytes) hshort
  have hholds' : w.has (d.join m) = true :=
    FileSystem.has_join_of_resolved free hdabs hrootAbs relative hplace hleads
      (fun hmem => hzero (hbytes.mem hmem)) hlength hholds
  rw [hbefore d hd] at hholds'
  cases hholds'

/-- **Where the root of a project lies**: the directory of the file is written as the root and some
names below it. The root encloses the directory as long as these names never climb above the root,
so always where no `..` is written. Where the directory exists and nothing is a link, it does so in
no other case. -/
theorem resolve_encloses (absolute : w.cwd.isAbsolute = true)
    (found : resolve w file manifest hops = .ok root) :
    let dir := directoryOf (file.absolutize w.cwd)
    ∃ below, dir.names = root.names ++ below ∧
      (StaysBelow 0 below → root.resolved <+: dir.resolved) ∧
      (dotDot ∉ dir.names → root.resolved <+: dir.resolved) ∧
      (FileSystem.LinkFree w.files.root → (Path.ofString manifest).isAbsolute = false →
        w.has dir = true → (dir.join (.ofString manifest)).bytes.length ≤ FileSystem.maxPath →
        root.resolved <+: dir.resolved → StaysBelow 0 below) := by
  intro dir
  have hdir : dir.isAbsolute = true := isAbsolute_directoryOf absolute file
  obtain ⟨i, -, hroot, hholds, hbefore⟩ := exists_of_resolve found
  obtain ⟨-, -, more, hmore, -⟩ := of_getElem?_chain hdir hroot
  have hnames := names_of_written hmore
  have hstays (h : StaysBelow 0 (more.filter (· ≠ dot))) : root.resolved <+: dir.resolved := by
    rw [resolved_of_names hnames]
    exact Path.prefix_of_staysBelow h
  refine ⟨_, hnames, hstays, fun h => hstays ?_, fun free relative hexists hshort hin => ?_⟩
  · rw [hnames, List.mem_append, not_or] at h
    exact Path.staysBelow_of_not_mem h.2
  · exact staysBelow_of_prefix hdir hroot hnames hholds hbefore free relative hexists hshort hin

/-- A package beside the directory of a test, both below the directory of another package. -/
def siblings : World where
  files := ⟨.dir [(toBytes "t", .dir [
    (toBytes "package.json", .file []),
    (toBytes "r", .dir [
      (toBytes "u", .dir [(toBytes "package.json", .file [])]),
      (toBytes "w", .dir [(toBytes "x.test.ts", .file [])])])])]⟩
  cwd := .ofString "/t"
  vars := fun _ => none

def isPackage (dir : Path) : Bool :=
  siblings.has (dir.join (.ofString "package.json"))

lemma search_siblings :
    search siblings (.ofString "r/u/../w/x.test.ts") "package.json" 20 =
      ⟨.ofString "/t/r/u", true,
        [.ofString "/t/r/u/../w", .ofString "/t/r/u/..", .ofString "/t/r/u"]⟩ := by
  have hdirectory : directoryOf ((Path.ofString "r/u/../w/x.test.ts").absolutize siblings.cwd) =
      .ofString "/t/r/u/../w" := by decide +kernel
  have hup : (Path.ofString "/t/r/u/../w").parent? = some (.ofString "/t/r/u/..") := by
    decide +kernel
  have hup' : (Path.ofString "/t/r/u/..").parent? = some (.ofString "/t/r/u") := by
    decide +kernel
  have hw : isPackage (.ofString "/t/r/u/../w") = false := by cbv
  have hr : isPackage (.ofString "/t/r/u/..") = false := by cbv
  have hu : isPackage (.ofString "/t/r/u") = true := by cbv
  rw [search, hdirectory]
  calc climb isPackage [] 20 (.ofString "/t/r/u/../w")
    _ = climb isPackage _ 19 (.ofString "/t/r/u/..") := climb_of_parent? hw hup
    _ = climb isPackage _ 18 (.ofString "/t/r/u") := climb_of_parent? hr hup'
    _ = _ := climb_of_holds hu

/-- The root that this search finds does not enclose the test. -/
theorem resolve_strays :
    FileSystem.LinkFree siblings.files.root ∧
      resolve siblings (.ofString "r/u/../w/x.test.ts") "package.json" 20 =
        .ok (.ofString "/t/r/u") ∧
      ¬ (Path.ofString "/t/r/u").resolved <+:
        (directoryOf ((Path.ofString "r/u/../w/x.test.ts").absolutize siblings.cwd)).resolved :=
  ⟨FileSystem.linkFree_of_linkless (by decide), resolve_of_found search_siblings,
    by decide +kernel⟩

/-- The names that lead from that root to the test climb above it. -/
theorem resolve_encloses_siblings :
    siblings.cwd.isAbsolute = true ∧
      resolve siblings (.ofString "r/u/../w/x.test.ts") "package.json" 20 =
        .ok (.ofString "/t/r/u") ∧
      ∃ below, (Path.ofString "/t/r/u/../w").names = (Path.ofString "/t/r/u").names ++ below ∧
        ¬ StaysBelow 0 below := by
  have absolute : siblings.cwd.isAbsolute = true := by decide
  have found := resolve_of_found search_siblings
  obtain ⟨below, hnames, hstays, -⟩ := resolve_encloses absolute found
  refine ⟨absolute, found, below, ?_, fun h => ?_⟩
  · rw [← hnames]
    decide +kernel
  · have hout : ¬ (Path.ofString "/t/r/u").resolved <+:
        (directoryOf ((Path.ofString "r/u/../w/x.test.ts").absolutize siblings.cwd)).resolved := by
      decide +kernel
    exact hout (hstays h)

end ProjectRoot

end TestScout
