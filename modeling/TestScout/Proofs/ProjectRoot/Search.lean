import Mathlib.Tactic.Lemma
import TestScout.ProjectRoot

/-!
How far the search for the root of a project gets. The search looks into one directory after another
on the chain of parents and stops at the first that holds the manifest, at the cap or at the end of
the chain; what it has looked into is a beginning of the chain, and where it stopped is the last
directory of that.
-/

namespace TestScout

namespace Path

/-! ### The chain of parents -/

lemma chain_of_parent? {p up : Path} (h : p.parent? = some up) : p.chain = p :: up.chain := by
  rw [chain]
  split
  · next q hq =>
    obtain rfl : up = q := Option.some.inj (h.symm.trans hq)
    rfl
  · next hnone => rw [h] at hnone; cases hnone

lemma chain_of_no_parent? {p : Path} (h : p.parent? = none) : p.chain = [p] := by
  rw [chain]
  split
  · next q hq => rw [h] at hq; cases hq
  · rfl

lemma getElem?_chain_zero (p : Path) : p.chain[0]? = some p := by
  rw [chain]
  rfl

lemma getElem?_chain_succ (p : Path) (i : Nat) :
    p.chain[i + 1]? = p.chain[i]?.bind parent? := by
  induction i generalizing p with
  | zero =>
      rw [getElem?_chain_zero, Option.bind_some]
      cases hup : p.parent? with
      | none => rw [chain_of_no_parent? hup]; rfl
      | some up => rw [chain_of_parent? hup, List.getElem?_cons_succ, getElem?_chain_zero]
  | succ i ih =>
      cases hup : p.parent? with
      | none => rw [chain_of_no_parent? hup]; rfl
      | some up =>
          rw [chain_of_parent? hup, List.getElem?_cons_succ, List.getElem?_cons_succ]
          exact ih up

lemma length_chain_pos (p : Path) : 0 < p.chain.length :=
  List.length_pos_of_mem (List.mem_of_getElem? (getElem?_chain_zero p))

lemma exists_last_take_chain (p : Path) (n : Nat) :
    ∃ last, p.chain[min n p.chain.length - 1]? = some last ∧
      (p.chain.take n).getLast?.getD p = last ∧
      (0 < n → (p.chain.take n).getLast? = some last) := by
  have hpos := length_chain_pos p
  rcases Nat.eq_zero_or_pos n with rfl | hn
  · refine ⟨p, ?_, rfl, fun h => absurd h (Nat.lt_irrefl 0)⟩
    rw [Nat.zero_min, getElem?_chain_zero]
  · have hlast : (p.chain.take n).getLast? = some p.chain[min n p.chain.length - 1] := by
      rw [List.getLast?_eq_getElem?, List.length_take, List.getElem?_take_of_lt (by omega),
        List.getElem?_eq_getElem]
    exact ⟨_, List.getElem?_eq_getElem _, by rw [hlast]; rfl, fun _ => hlast⟩

end Path

namespace ProjectRoot

variable {holds : Path → Bool} {looked : List Path} {hops : Nat} {dir up : Path}

/-! ### One step -/

lemma climb_of_holds (h : holds dir = true) :
    climb holds looked (hops + 1) dir = ⟨dir, true, looked ++ [dir]⟩ := by
  rw [climb, if_pos h]

lemma climb_one (h : holds dir = false) :
    climb holds looked 1 dir = ⟨dir, false, looked ++ [dir]⟩ := by
  rw [climb, h, if_neg Bool.false_ne_true, if_pos rfl]

lemma climb_of_no_parent? (h : holds dir = false) (hup : dir.parent? = none) :
    climb holds looked (hops + 1) dir = ⟨dir, false, looked ++ [dir]⟩ := by
  rw [climb, h, if_neg Bool.false_ne_true]
  split
  · rfl
  · rw [hup]

lemma climb_of_parent? (h : holds dir = false) (hup : dir.parent? = some up) :
    climb holds looked (hops + 2) dir = climb holds (looked ++ [dir]) (hops + 1) up := by
  rw [climb, h, if_neg Bool.false_ne_true, if_neg (Nat.succ_ne_zero hops), hup]

/-! ### A whole search -/

lemma climb_found {i : Nat} {root : Path} (hi : i < hops) (hroot : dir.chain[i]? = some root)
    (h : holds root = true) (hbefore : ∀ d ∈ dir.chain.take i, holds d = false) :
    climb holds looked hops dir = ⟨root, true, looked ++ dir.chain.take (i + 1)⟩ := by
  induction i generalizing dir looked hops with
  | zero =>
      obtain ⟨hops, rfl⟩ : ∃ n, hops = n + 1 := ⟨hops - 1, by omega⟩
      obtain rfl : dir = root := by
        rw [Path.getElem?_chain_zero] at hroot
        exact Option.some.inj hroot
      rw [climb_of_holds h, Path.chain]
      rfl
  | succ i ih =>
      obtain ⟨hops, rfl⟩ : ∃ n, hops = n + 2 := ⟨hops - 2, by omega⟩
      cases hup : dir.parent? with
      | none =>
          rw [Path.chain_of_no_parent? hup] at hroot
          cases hroot
      | some up =>
          rw [Path.chain_of_parent? hup, List.getElem?_cons_succ] at hroot
          rw [Path.chain_of_parent? hup, List.take_succ_cons] at hbefore
          have hdir : holds dir = false := hbefore dir List.mem_cons_self
          rw [climb_of_parent? hdir hup, Path.chain_of_parent? hup, List.take_succ_cons,
            ih (by omega) hroot fun d hd => hbefore d (List.mem_cons_of_mem _ hd),
            List.append_assoc, List.singleton_append]

lemma climb_missed (h : ∀ d ∈ dir.chain.take hops, holds d = false) :
    climb holds looked hops dir =
      ⟨((dir.chain.take hops).getLast?).getD dir, false, looked ++ dir.chain.take hops⟩ := by
  induction hops generalizing dir looked with
  | zero => simp [climb]
  | succ hops ih =>
      have hdir : holds dir = false := h dir (by rw [Path.chain]; exact List.mem_cons_self)
      cases hup : dir.parent? with
      | none =>
          rw [climb_of_no_parent? hdir hup, Path.chain_of_no_parent? hup, List.take_succ_cons,
            List.take_nil]
          rfl
      | some up =>
          rw [Path.chain_of_parent? hup, List.take_succ_cons] at h ⊢
          cases hops with
          | zero =>
              rw [climb_one hdir]
              rfl
          | succ hops =>
              have hnext := @ih (looked ++ [dir]) up fun d hd => h d (List.mem_cons_of_mem _ hd)
              rw [climb_of_parent? hdir hup, hnext, List.append_assoc, List.singleton_append]
              obtain ⟨above, habove⟩ : ∃ above, up.chain = up :: above := by
                rw [Path.chain]
                exact ⟨_, rfl⟩
              rw [habove, List.take_succ_cons, List.getLast?_cons_cons]
              simp [List.getLast?_cons]

/-- A search finds something first in one of the directories it may look into, or in none. -/
lemma found_or_missed (holds : Path → Bool) (hops : Nat) (dir : Path) :
    (∃ i < hops, ∃ root, dir.chain[i]? = some root ∧ holds root = true ∧
      ∀ d ∈ dir.chain.take i, holds d = false) ∨
    ∀ d ∈ dir.chain.take hops, holds d = false := by
  rcases hfind : (dir.chain.take hops).find? holds with _ | root
  · rw [List.find?_eq_none] at hfind
    exact Or.inr fun d hd => Bool.eq_false_iff.mpr (hfind d hd)
  · obtain ⟨hroot, before, after, hsplit, hbefore⟩ := List.find?_eq_some_iff_append.mp hfind
    have hlength : before.length < hops := by
      have hle := List.length_take_le hops dir.chain
      rw [hsplit, List.length_append, List.length_cons] at hle
      omega
    have htake : dir.chain.take before.length = before := by
      rw [← Nat.min_eq_left (Nat.le_of_lt hlength), ← List.take_take, hsplit, List.take_left]
    refine Or.inl ⟨before.length, hlength, root, ?_, hroot, fun d hd => ?_⟩
    · rw [← List.getElem?_take_of_lt hlength, hsplit, List.getElem?_append_right (Nat.le_refl _),
        Nat.sub_self, List.getElem?_cons_zero]
    · rw [htake] at hd
      simpa using hbefore d hd

section Outcome

variable {w : World} {file root : Path} {manifest : String} {hops : Nat}

lemma resolve_of_found (h : search w file manifest hops = ⟨root, true, looked⟩) :
    resolve w file manifest hops = .ok root := by
  rw [resolve, h]
  rfl

lemma resolve_of_missed (h : search w file manifest hops = ⟨dir, false, looked⟩) :
    resolve w file manifest hops = .error (.rootNotFound (file.absolutize w.cwd) dir) := by
  rw [resolve, h]
  rfl

lemma exists_of_resolve (h : resolve w file manifest hops = .ok root) :
    ∃ i < hops, (directoryOf (file.absolutize w.cwd)).chain[i]? = some root ∧
      w.has (root.join (.ofString manifest)) = true ∧
      ∀ d ∈ (directoryOf (file.absolutize w.cwd)).chain.take i,
        w.has (d.join (.ofString manifest)) = false := by
  rcases found_or_missed (fun d => w.has (d.join (.ofString manifest))) hops
    (directoryOf (file.absolutize w.cwd)) with ⟨i, hi, found, hfound, hholds, hbefore⟩ | hmissed
  · rw [resolve_of_found (climb_found hi hfound hholds hbefore)] at h
    obtain rfl := Except.ok.inj h
    exact ⟨i, hi, hfound, hholds, hbefore⟩
  · rw [resolve_of_missed (climb_missed hmissed)] at h
    cases h

lemma mem_tried_of_resolve (h : resolve w file manifest hops = .ok root) :
    root ∈ tried w.cwd file hops := by
  obtain ⟨i, hi, hroot, -⟩ := exists_of_resolve h
  have htaken : (tried w.cwd file hops)[i]? = some root := by
    rw [tried, List.getElem?_take_of_lt hi]
    exact hroot
  exact List.mem_of_getElem? htaken

lemma error_of_resolve {f : Failure} (h : resolve w file manifest hops = .error f) :
    ∃ lastTried, f = .rootNotFound (file.absolutize w.cwd) lastTried := by
  unfold resolve at h
  simp only at h
  split at h
  · cases h
  · exact ⟨_, (Except.error.inj h).symm⟩

end Outcome

/-- **The root of a project** is the nearest directory that holds the manifest. The directories on
the way are the one that the file lies in and the parent of each, as long as there is one; with `m`
the smaller of the cap and their number, the root is the first of the first `m` that holds the
manifest, and the search has looked into the directories up to that one. If none of them holds it,
the search has looked into all `m`, and the failure names the whole path of the file and the last
directory that was looked into. -/
theorem resolve_nearest (w : World) (file : Path) (manifest : String) (maxHops : Nat) :
    let whole := if file.isAbsolute then file else w.cwd.join file
    let dirs := (directoryOf whole).chain
    let m := min maxHops dirs.length
    let s := search w file manifest maxHops
    let holds := fun dir : Path => w.has (dir.join (.ofString manifest))
    dirs[0]? = some (whole.parent?.getD whole) ∧
    (∀ i, dirs[i + 1]? = dirs[i]?.bind Path.parent?) ∧
    (∀ i < m, ∀ root, dirs[i]? = some root → holds root = true →
      (∀ j < i, ∀ d, dirs[j]? = some d → holds d = false) →
      resolve w file manifest maxHops = .ok root ∧ s.looked = dirs.take (i + 1)) ∧
    ((∀ j < m, ∀ d, dirs[j]? = some d → holds d = false) →
      ∃ last, dirs[m - 1]? = some last ∧
        resolve w file manifest maxHops = .error (.rootNotFound whole last) ∧
        s.looked = dirs.take m ∧ (0 < maxHops → s.looked.getLast? = some last)) ∧
    s.looked.length ≤ m := by
  intro whole dirs m s holds
  have htake : dirs.take maxHops = dirs.take m := by
    rw [List.take_eq_take_iff]
    omega
  have hmem {n : Nat} (h : ∀ j < n, ∀ d, dirs[j]? = some d → holds d = false) :
      ∀ d ∈ dirs.take n, holds d = false := by
    intro d hd
    obtain ⟨j, hj, rfl⟩ := List.mem_take_iff_getElem.mp hd
    exact h j (by omega) _ (List.getElem?_eq_getElem _)
  have hfound {i : Nat} (hi : i < m) {root : Path} (hroot : dirs[i]? = some root)
      (hholds : holds root = true) (hbefore : ∀ d ∈ dirs.take i, holds d = false) :
      s = ⟨root, true, dirs.take (i + 1)⟩ :=
    climb_found (Nat.lt_of_lt_of_le hi (Nat.min_le_left _ _)) hroot hholds hbefore
  have hmissed (h : ∀ d ∈ dirs.take m, holds d = false) :
      s = ⟨(dirs.take maxHops).getLast?.getD (directoryOf whole), false, dirs.take maxHops⟩ := by
    rw [← htake] at h
    exact climb_missed h
  refine ⟨Path.getElem?_chain_zero _, Path.getElem?_chain_succ _, ?found, ?missed, ?bound⟩
  case found =>
    intro i hi root hroot hholds hbefore
    have hs := hfound hi hroot hholds (hmem hbefore)
    exact ⟨resolve_of_found hs, by rw [hs]⟩
  case missed =>
    intro h
    have hs := hmissed (hmem h)
    obtain ⟨last, hlast, hend, hlooked⟩ :=
      Path.exists_last_take_chain (directoryOf whole) maxHops
    rw [hend] at hs
    refine ⟨last, hlast, resolve_of_missed hs, by rw [hs, htake], ?_⟩
    rw [hs]
    exact hlooked
  case bound =>
    rcases found_or_missed holds m (directoryOf whole) with
      ⟨i, hi, root, hroot, hholds, hbefore⟩ | h
    · rw [hfound hi hroot hholds hbefore, List.length_take]
      omega
    · rw [hmissed h]
      exact Nat.le_of_eq List.length_take

end ProjectRoot

end TestScout
