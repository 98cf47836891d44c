import Mathlib.Data.List.DropRight
import TestScout.Path.Parent

/-!
Where a path leads if nothing on the way is a link. What is written between separators is a name,
unless it is empty or `.`; `..` undoes the name before it. The parent of an absolute path leaves out
the last name as written, and if that is `..` it leads further down and not up. So the place that
a path leads to encloses another just when the names between the two never climb above it, unless
they come back to it on the way.
-/

namespace TestScout.Path

variable {p q : Path} {parts : List (List UInt8)}

/-! ### Parts -/

lemma splitParts_append_slash (a b : List UInt8) :
    splitParts (a ++ slash :: b) = splitParts a ++ splitParts b := by
  induction a with
  | nil =>
      have hslash : splitParts (slash :: b) = [] :: splitParts b := if_pos rfl
      rw [List.nil_append, hslash]
      rfl
  | cons c a ih =>
      rw [List.cons_append, splitParts, splitParts]
      split
      · rw [ih, List.cons_append]
      · rw [ih]
        obtain ⟨part, parts, hsplit⟩ := List.exists_cons_of_ne_nil (splitParts_ne_nil a)
        rw [hsplit]
        rfl

lemma slash_not_mem_of_mem_splitParts {bs part : List UInt8} (h : part ∈ splitParts bs) :
    slash ∉ part := by
  induction bs generalizing part with
  | nil =>
      obtain rfl := List.mem_singleton.mp h
      exact List.not_mem_nil
  | cons b bs ih =>
      rw [splitParts] at h
      obtain ⟨first, rest, hsplit⟩ := List.exists_cons_of_ne_nil (splitParts_ne_nil bs)
      rw [hsplit] at h ih
      split at h
      · rcases List.mem_cons.mp h with rfl | h
        · exact List.not_mem_nil
        · exact ih h
      · next hb =>
        rcases List.mem_cons.mp h with rfl | h
        · have hfirst := ih List.mem_cons_self
          exact fun hmem => (List.mem_cons.mp hmem).elim (fun he => hb he.symm) hfirst
        · exact ih (List.mem_cons_of_mem _ h)

lemma splitParts_eq_singleton {part : List UInt8} (h : slash ∉ part) :
    splitParts part = [part] := by
  induction part with
  | nil => rfl
  | cons b part ih =>
      have hb : b ≠ slash := fun he => h (he ▸ List.mem_cons_self)
      rw [splitParts, if_neg hb, ih fun hmem => h (List.mem_cons_of_mem _ hmem)]

lemma splitParts_joinParts (hne : parts ≠ []) (h : ∀ part ∈ parts, slash ∉ part) :
    splitParts (joinParts parts) = parts := by
  induction parts with
  | nil => exact absurd rfl hne
  | cons part parts ih =>
      have hfirst := splitParts_eq_singleton (h part List.mem_cons_self)
      cases parts with
      | nil => exact hfirst
      | cons next rest =>
          have hrest := ih (List.cons_ne_nil _ _) fun q hq => h q (List.mem_cons_of_mem _ hq)
          rw [joinParts, splitParts_append_slash, hfirst, hrest, List.singleton_append]
          intro hnil
          cases hnil

/-- A part that names nothing. -/
def isIdle (part : List UInt8) : Bool := part.isEmpty || part = dot

lemma dropIdle_true (parts : List (List UInt8)) :
    dropIdle true parts = parts.rdropWhile isIdle := by
  cases parts with
  | nil => rfl
  | cons first rest =>
      have hidle : (fun part : List UInt8 => part.isEmpty || part = dot) = isIdle := rfl
      rw [dropIdle, hidle, List.rdropWhile, List.reverse_cons, List.dropWhile_append]
      cases hdrop : rest.reverse.dropWhile isIdle with
      | nil =>
          by_cases hfirst : isIdle first = true
          · rw [if_pos List.isEmpty_nil, List.dropWhile_cons_of_pos hfirst]
            exact if_pos hfirst
          · rw [if_pos List.isEmpty_nil, List.dropWhile_cons_of_neg hfirst]
            exact if_neg hfirst
      | cons part more =>
          have hsome : ¬ (part :: more).isEmpty = true := Bool.false_ne_true
          rw [if_neg hsome, List.reverse_append, List.reverse_singleton]
          obtain ⟨x, xs, hxs⟩ := List.exists_cons_of_ne_nil
            (mt List.reverse_eq_nil_iff.mp (List.cons_ne_nil part more))
          rw [hxs]
          rfl

/-! ### Names -/

/-- The parts of a path that are not empty, as they are written. -/
def written (p : Path) : List (List UInt8) := (splitParts p.body).filter (! ·.isEmpty)

def names (p : Path) : List (List UInt8) := p.written.filter (· ≠ dot)

lemma filter_isIdle (h : ∀ part ∈ parts, isIdle part = true) :
    (parts.filter (! ·.isEmpty)).filter (· ≠ dot) = [] := by
  rw [List.filter_filter, List.filter_eq_nil_iff]
  intro part hpart
  have hidle := h part hpart
  unfold isIdle at hidle
  grind

lemma bytes_of_isAbsolute (ha : p.isAbsolute = true) : p.bytes = slash :: p.body := by
  rw [body, if_pos ha]
  simp only [isAbsolute, decide_eq_true_eq] at ha
  exact (List.cons_head?_tail ha).symm

lemma prefix_joinParts (a b : List (List UInt8)) : joinParts a <+: joinParts (a ++ b) := by
  induction a with
  | nil => exact List.nil_prefix
  | cons part a ih =>
      cases a with
      | nil =>
          cases b with
          | nil => exact List.prefix_rfl
          | cons next b => exact List.prefix_append _ _
      | cons next a =>
          simp only [List.cons_append, joinParts, List.prefix_append_right_inj,
            List.cons_prefix_cons, true_and] at ih ⊢
          exact ih

lemma isAbsolute_ofParts (ha : p.isAbsolute = true) (parts : List (List UInt8)) :
    (p.ofParts parts).isAbsolute = true := by
  unfold ofParts
  rw [if_pos ha]
  rfl

lemma written_ofParts (ha : p.isAbsolute = true) (h : ∀ part ∈ parts, slash ∉ part) :
    (p.ofParts parts).written = parts.filter (! ·.isEmpty) := by
  have hbody : (p.ofParts parts).body = joinParts parts := by
    rw [body, if_pos (isAbsolute_ofParts ha parts), ofParts, if_pos ha]
    rfl
  rw [written, hbody]
  by_cases hnil : parts = []
  · rw [hnil]
    rfl
  · rw [splitParts_joinParts hnil h]

/-- What a path keeps of its parts when it loses its last name, and what it loses. -/
lemma exists_kept (h : dropIdle true parts ≠ []) :
    ∃ kept idle last idle', parts = kept ++ (idle ++ (last :: idle')) ∧
      dropIdle true (dropIdle true parts).dropLast = kept ∧
      (∀ part ∈ idle, isIdle part = true) ∧ isIdle last = false ∧
      ∀ part ∈ idle', isIdle part = true := by
  simp only [dropIdle_true] at h ⊢
  obtain ⟨init, last, hlast⟩ := (List.eq_nil_or_concat _).resolve_left h
  rw [List.concat_eq_append] at hlast
  have hnot : isIdle last = false := by
    have hgetLast := List.rdropWhile_last_not isIdle parts h
    simpa [hlast] using hgetLast
  refine ⟨init.rdropWhile isIdle, init.rtakeWhile isIdle, last, parts.rtakeWhile isIdle, ?_, ?_,
    fun _ => List.mem_rtakeWhile_imp, hnot, fun _ => List.mem_rtakeWhile_imp⟩
  · calc parts = parts.rdropWhile isIdle ++ parts.rtakeWhile isIdle :=
          List.rdropWhile_append_rtakeWhile.symm
      _ = init ++ (last :: parts.rtakeWhile isIdle) := by
          rw [hlast, List.append_assoc, List.singleton_append]
      _ = init.rdropWhile isIdle ++ init.rtakeWhile isIdle ++
            (last :: parts.rtakeWhile isIdle) := by
          rw [List.rdropWhile_append_rtakeWhile]
      _ = _ := List.append_assoc _ _ _
  · rw [hlast, List.dropLast_concat]

/-- The parent of an absolute path is a beginning of it, which ends before the last name. -/
lemma written_of_parent? (ha : p.isAbsolute = true) (h : p.parent? = some q) :
    q.isAbsolute = true ∧ q.bytes <+: p.bytes ∧
      ∃ last more, p.written = q.written ++ more ∧ more.filter (· ≠ dot) = [last] := by
  have hparts : p.parts = dropIdle true (splitParts p.body) := by rw [Path.parts, ha]
  unfold parent? at h
  rw [hparts, ha] at h
  split at h
  · cases h
  · next hne =>
    obtain rfl := Option.some.inj h
    obtain ⟨kept, idle, last, idle', hsplit, hkept, hidle, hlast, hidle'⟩ := exists_kept hne
    have hslash : ∀ part ∈ kept, slash ∉ part := fun part hpart =>
      slash_not_mem_of_mem_splitParts (by rw [hsplit]; exact List.mem_append_left _ hpart)
    refine ⟨isAbsolute_ofParts ha _, ?_, last, (idle ++ (last :: idle')).filter (! ·.isEmpty), ?_,
      ?_⟩
    · rw [hkept, ofParts, if_pos ha, bytes_of_isAbsolute ha, ← joinParts_splitParts p.body, hsplit]
      exact List.prefix_append_right_inj [slash] |>.mpr (prefix_joinParts _ _)
    · rw [hkept, written_ofParts ha hslash, written, hsplit, List.filter_append]
    · have hnonempty : last.isEmpty = false ∧ last ≠ dot := by
        simpa [isIdle] using hlast
      rw [List.filter_append, List.filter_append, filter_isIdle hidle, List.nil_append,
        List.filter_cons_of_pos (by simp [hnonempty.1]),
        List.filter_cons_of_pos (by simp [hnonempty.2]), filter_isIdle hidle']

lemma exists_join_bytes (ha : p.isAbsolute = true) (hq : q.isAbsolute = false) :
    ∃ front, (p.join q).bytes = front ++ slash :: q.bytes ∧
      (p.bytes = front ∨ p.bytes = front ++ [slash]) := by
  obtain ⟨front, last, hp⟩ : ∃ front last, p.bytes = front ++ [last] := by
    rw [bytes_of_isAbsolute ha]
    exact ⟨_, _, (List.dropLast_concat_getLast (List.cons_ne_nil _ _)).symm⟩
  have hlast : p.bytes.getLast? = some last := by rw [hp, List.getLast?_concat]
  have hnot : ¬ q.isAbsolute = true := by rw [hq]; exact Bool.false_ne_true
  rw [join, if_neg hnot, hlast]
  simp only
  by_cases hslash : last = slash
  · refine ⟨front, ?_, Or.inr (by rw [hp, hslash])⟩
    rw [if_pos hslash, hp, hslash, List.append_assoc, List.singleton_append]
  · exact ⟨p.bytes, by rw [if_neg hslash], Or.inl rfl⟩

lemma length_join_le {m : Path} (hp : p.isAbsolute = true) (hq : q.isAbsolute = true)
    (hm : m.isAbsolute = false) (h : p.bytes <+: q.bytes) :
    (p.join m).bytes.length ≤ (q.join m).bytes.length := by
  obtain ⟨front, hfront, hp'⟩ := exists_join_bytes hp hm
  obtain ⟨front', hfront', hq'⟩ := exists_join_bytes hq hm
  rcases Nat.lt_or_ge p.bytes.length q.bytes.length with hlt | hge
  · have hle : front.length ≤ p.bytes.length := by
      rcases hp' with he | he <;> simp [he]
    have hge' : q.bytes.length ≤ front'.length + 1 := by
      rcases hq' with he | he <;> simp [he]
    rw [hfront, hfront', List.length_append, List.length_append]
    omega
  · have heq : p = q := by
      obtain ⟨bytes⟩ := p
      obtain ⟨bytes'⟩ := q
      exact congrArg Path.mk (h.eq_of_length_le hge)
    rw [heq]

lemma written_join (ha : p.isAbsolute = true) (hq : q.isAbsolute = false) :
    (p.join q).isAbsolute = true ∧
      (p.join q).written = p.written ++ (splitParts q.bytes).filter (! ·.isEmpty) := by
  obtain ⟨front, hjoin, hp⟩ := exists_join_bytes ha hq
  have hbytes := bytes_of_isAbsolute ha
  rw [written, written, ← List.filter_append]
  rcases front with _ | ⟨b, front⟩
  · -- the root: the separator is its own
    have habs : (p.join q).isAbsolute = true := by rw [isAbsolute, hjoin]; rfl
    have hbody : p.body = [] := by
      rcases hp with hp | hp
      · rw [hp] at hbytes; cases hbytes
      · rw [hp] at hbytes; exact (List.cons.inj hbytes).2.symm
    rw [body, if_pos habs, hjoin, hbody]
    exact ⟨habs, rfl⟩
  · obtain rfl : b = slash := by
      rcases hp with hp | hp <;> rw [hp] at hbytes <;> exact (List.cons.inj hbytes).1
    have habs : (p.join q).isAbsolute = true := by rw [isAbsolute, hjoin]; rfl
    refine ⟨habs, ?_⟩
    have hbody : (p.join q).body = front ++ slash :: q.bytes := by
      rw [body, if_pos habs, hjoin]
      rfl
    rw [hbody, splitParts_append_slash]
    rcases hp with hp | hp
    · have hown : p.body = front := by rw [hp] at hbytes; exact (List.cons.inj hbytes).2.symm
      rw [hown]
    · have hown : p.body = front ++ slash :: [] := by
        rw [hp] at hbytes
        exact (List.cons.inj hbytes).2.symm
      rw [hown, splitParts_append_slash, List.filter_append, List.filter_append, List.filter_append]
      exact congrArg (· ++ _) (List.append_nil _).symm

lemma isAbsolute_absolutize (ha : p.isAbsolute = true) (q : Path) :
    (q.absolutize p).isAbsolute = true := by
  unfold absolutize
  split
  · assumption
  · next hq => exact (written_join ha (Bool.eq_false_iff.mpr hq)).1

lemma names_join (ha : p.isAbsolute = true) (hq : q.isAbsolute = false) :
    (p.join q).names = p.names ++ q.names := by
  have hbody : q.body = q.bytes := by
    rw [body, hq, if_neg Bool.false_ne_true]
  rw [names, (written_join ha hq).2, List.filter_append, ← hbody]
  rfl

/-! ### Places -/

variable {here start : List (List UInt8)} {name : List UInt8} {names : List (List UInt8)}

/-- Where a name leads from a place, both told by the names that lead there from the root. -/
def enter (here : List (List UInt8)) (name : List UInt8) : List (List UInt8) :=
  if name = dotDot then here.dropLast else here ++ [name]

/-- The names, free of `.` and `..`, that lead from the root to where a path leads if nothing on the
way is a link. -/
def resolved (p : Path) : List (List UInt8) := p.names.foldl enter []

lemma foldl_enter_of_not_mem (h : dotDot ∉ names) : names.foldl enter here = here ++ names := by
  induction names generalizing here with
  | nil => rw [List.foldl_nil, List.append_nil]
  | cons name rest ih =>
      rw [List.mem_cons, not_or] at h
      rw [List.foldl_cons, enter, if_neg (Ne.symm h.1), ih h.2, List.append_assoc,
        List.singleton_append]

lemma resolved_join (ha : p.isAbsolute = true) (hq : q.isAbsolute = false) :
    (p.join q).resolved = q.names.foldl enter p.resolved := by
  rw [resolved, names_join ha hq, List.foldl_append]
  rfl

/-- Names that never lead above the place `depth` levels higher. -/
def StaysBelow : ℕ → List (List UInt8) → Prop
  | _, [] => True
  | depth, name :: rest =>
    if name = dotDot then 0 < depth ∧ StaysBelow (depth - 1) rest
    else StaysBelow (depth + 1) rest

instance decidableStaysBelow : ∀ depth names, Decidable (StaysBelow depth names)
  | _, [] => isTrue trivial
  | depth, name :: rest =>
    have := decidableStaysBelow (depth - 1) rest
    have := decidableStaysBelow (depth + 1) rest
    inferInstanceAs (Decidable (if name = dotDot then 0 < depth ∧ StaysBelow (depth - 1) rest
      else StaysBelow (depth + 1) rest))

lemma staysBelow_of_not_mem {depth : ℕ} (h : dotDot ∉ names) : StaysBelow depth names := by
  induction names generalizing depth with
  | nil => trivial
  | cons name rest ih =>
      have hname : name ≠ dotDot := fun he => h (he ▸ List.mem_cons_self)
      rw [StaysBelow, if_neg hname]
      exact ih fun hmem => h (List.mem_cons_of_mem _ hmem)

/-- Names that never lead above a place lead to one that it encloses. -/
theorem prefix_of_staysBelow {deeper : List (List UInt8)} (h : StaysBelow deeper.length names) :
    here <+: names.foldl enter (here ++ deeper) := by
  induction names generalizing deeper with
  | nil => exact List.prefix_append _ _
  | cons name rest ih =>
      rw [StaysBelow] at h
      rw [List.foldl_cons, enter]
      split at h
      · next hname =>
        have hne : deeper ≠ [] := List.ne_nil_of_length_pos h.1
        rw [if_pos hname, List.dropLast_append_of_ne_nil hne]
        exact ih (by rw [List.length_dropLast]; exact h.2)
      · next hname =>
        rw [if_neg hname, List.append_assoc]
        exact ih (by rw [List.length_append]; exact h)

lemma exists_back_cons {rest : List (List UInt8)}
    (h : ∃ back more, rest = back ++ more ∧ back.foldl enter (enter start name) = here) :
    ∃ back more, name :: rest = back ++ more ∧ back ≠ [] ∧ back.foldl enter start = here := by
  obtain ⟨back, more, hsplit, hback⟩ := h
  exact ⟨name :: back, more, by rw [hsplit, List.cons_append], List.cons_ne_nil _ _, hback⟩

/-- From outside a place there is no way into it but through it. -/
lemma exists_back_of_outside (hout : ¬ here <+: start)
    (h : here <+: names.foldl enter start) :
    ∃ back more, names = back ++ more ∧ back ≠ [] ∧ back.foldl enter start = here := by
  induction names generalizing start with
  | nil => exact absurd h hout
  | cons name rest ih =>
      apply exists_back_cons
      by_cases hin : here <+: enter start name
      · have hname : name ≠ dotDot := by
          intro hname
          rw [enter, if_pos hname] at hin
          exact hout (hin.trans (List.dropLast_prefix start))
        refine ⟨[], rest, rfl, ?_⟩
        rw [enter, if_neg hname] at hin
        have heq := (List.prefix_concat_iff.mp hin).resolve_right hout
        rw [List.foldl_nil, enter, if_neg hname, heq]
      · obtain ⟨back, more, hsplit, -, hback⟩ := ih hin h
        exact ⟨back, more, hsplit, hback⟩

/-- Names that lead above a place and yet to one that it encloses come through it on the way. -/
theorem exists_back_of_not_staysBelow {deeper : List (List UInt8)}
    (habove : ¬ StaysBelow deeper.length names) (h : here <+: names.foldl enter (here ++ deeper)) :
    ∃ back more, names = back ++ more ∧ back ≠ [] ∧
      back.foldl enter (here ++ deeper) = here := by
  induction names generalizing deeper with
  | nil => exact absurd trivial habove
  | cons name rest ih =>
      apply exists_back_cons
      rw [StaysBelow] at habove
      rw [List.foldl_cons] at h
      by_cases hname : name = dotDot
      · rw [if_pos hname] at habove
        rw [enter, if_pos hname] at h ⊢
        by_cases hdeeper : deeper = []
        · -- this name is the first that leads above the place
          rw [hdeeper, List.append_nil] at h ⊢
          by_cases hroot : here = []
          · exact ⟨[], rest, rfl, by rw [hroot]; rfl⟩
          · have hout : ¬ here <+: here.dropLast := by
              intro hpre
              have hlength := hpre.length_le
              have hpos := List.length_pos_of_ne_nil hroot
              rw [List.length_dropLast] at hlength
              omega
            obtain ⟨back, more, hsplit, -, hback⟩ := exists_back_of_outside hout h
            exact ⟨back, more, hsplit, hback⟩
        · have hpos : 0 < deeper.length := List.length_pos_of_ne_nil hdeeper
          have hrest : ¬ StaysBelow deeper.dropLast.length rest := by
            rw [List.length_dropLast]
            exact fun hstays => habove ⟨hpos, hstays⟩
          rw [List.dropLast_append_of_ne_nil hdeeper] at h ⊢
          obtain ⟨back, more, hsplit, -, hback⟩ := ih hrest h
          exact ⟨back, more, hsplit, hback⟩
      · rw [if_neg hname] at habove
        rw [enter, if_neg hname, List.append_assoc] at h ⊢
        have hrest : ¬ StaysBelow (deeper ++ [name]).length rest := by
          rw [List.length_append]
          exact habove
        obtain ⟨back, more, hsplit, -, hback⟩ := ih hrest h
        exact ⟨back, more, hsplit, hback⟩

end TestScout.Path
