import Mathlib.Tactic.Lemma
import TestScout.Toml.Writer
import TestScout.Toml.Value

/-!
Tables that grow at their end. A document that is written in one go opens every table under a key
that is not there yet, and puts every entry under one that is not there yet either; so each step
adds to the table that came last.
-/

namespace TestScout.Toml

def Item.value : Item → Value
  | .text s => .str s
  | .nat n => .int n
  | .bool b => .bool b
  | .texts items => .arr (items.map .str)

namespace Table

/-- The table with values under more keys, behind the others. -/
def append (t : Table) (entries : List (String × Value)) : Table :=
  { t with entries := t.entries ++ entries }

def push (t : Table) (key : String) (sub : Table) : Table := t.append [(key, sub.value)]

lemma append_append (t : Table) (es fs : List (String × Value)) :
    (t.append es).append fs = t.append (es ++ fs) := by
  simp [append]

lemma get?_append_eq_none {t : Table} {k : String} {entries : List (String × Value)} :
    (t.append entries).get? k = none ↔ t.get? k = none ∧ ∀ e ∈ entries, k ≠ e.1 := by
  simp [get?, append, List.lookup_append, List.lookup_eq_none_iff]

variable {t : Table} {key : String}

lemma ne_of_get?_eq_none (h : t.get? key = none) : ∀ e ∈ t.entries, e.1 ≠ key := by
  rw [get?, List.lookup_eq_none_iff] at h
  intro e he heq
  exact absurd heq.symm (by simpa using h e he)

lemma set_absent (h : t.get? key = none) (v : Value) : t.set key v = t.append [(key, v)] := by
  have hany : t.entries.any (fun e => decide (e.1 = key)) = false := by
    simpa only [List.any_eq_false, decide_eq_true_eq] using ne_of_get?_eq_none h
  rw [set, hany, if_neg Bool.false_ne_true, append]

lemma get?_push (h : t.get? key = none) (sub : Table) : (t.push key sub).get? key = sub.value := by
  rw [get?] at h
  simp [get?, push, append, List.lookup_append, h]

lemma set_push (h : t.get? key = none) (sub c : Table) :
    (t.push key sub).set key c.value = t.push key c := by
  have hmap : t.entries.map (fun e => if e.1 = key then (key, c.value) else e) = t.entries :=
    (List.map_congr_left fun e he => if_neg (ne_of_get?_eq_none h e he)).trans (List.map_id _)
  simp [set, push, append, hmap]

/-- What happens on a path through the table that came last happens in that table. -/
lemma change?_push (h : t.get? key = none) (f : Table → Option Table) (path : List String)
    (sub : Table) :
    (t.push key sub).change? false f (key :: path) =
      (sub.change? false f path).map (t.push key) := by
  rw [change?, get?_push h, value]
  simp [set_push h]

lemma put?_absent (hdotted : t.dotted = false) (h : t.get? key = none) (v : Value) :
    t.put? [] key v = some (t.append [(key, v)]) := by
  simp [put?, change?, hdotted, h, set_absent h]

lemma openTable?_absent (h : t.get? key = none) :
    t.openTable? [] key = some (t.push key opened) := by
  simp [openTable?, change?, h, set_absent h, push]

lemma foldlM_put? {entries : List (String × Item)} (hdotted : t.dotted = false)
    (habsent : ∀ e ∈ entries, t.get? e.1 = none) (hdistinct : (entries.map (·.1)).Nodup) :
    entries.foldlM (fun t e => t.put? [] e.1 e.2.value) t =
      some (t.append (entries.map fun e => (e.1, e.2.value))) := by
  induction entries generalizing t with
  | nil => simp [append]
  | cons e entries ih =>
      rw [List.map_cons, List.nodup_cons] at hdistinct
      have hne : ∀ e' ∈ entries, e'.1 ≠ e.1 :=
        fun e' he' heq => hdistinct.1 (heq ▸ List.mem_map_of_mem he')
      have habsent' : ∀ e' ∈ entries, (t.append [(e.1, e.2.value)]).get? e'.1 = none := by
        intro e' he'
        refine get?_append_eq_none.mpr ⟨habsent e' (List.mem_cons_of_mem _ he'), ?_⟩
        simpa using hne e' he'
      rw [List.foldlM_cons, put?_absent hdotted (habsent e List.mem_cons_self)]
      change entries.foldlM _ (t.append [(e.1, e.2.value)]) = _
      rw [ih (show (t.append _).dotted = false from hdotted) habsent' hdistinct.2, append_append]
      rfl

/-- Steps on paths through the table that came last are steps in that table. -/
lemma foldlM_change?_push {β : Type} (h : t.get? key = none) (f : β → Table → Option Table)
    (path : List String) (entries : List β) (sub : Table) :
    entries.foldlM (fun t e => change? false (f e) (key :: path) t) (t.push key sub) =
      (entries.foldlM (fun t e => change? false (f e) path t) sub).map (t.push key) := by
  induction entries generalizing sub with
  | nil => rfl
  | cons e entries ih =>
      rw [List.foldlM_cons, List.foldlM_cons, change?_push h]
      cases hstep : sub.change? false (f e) path with
      | none => rfl
      | some sub' => exact ih sub'

lemma openTable?_push {outer : String} (h : t.get? outer = none) (sub : Table)
    (path : List String) (key : String) :
    (t.push outer sub).openTable? (outer :: path) key =
      (sub.openTable? path key).map (t.push outer) := change?_push h _ path sub

def filled (entries : List (String × Item)) : Table :=
  opened.append (entries.map fun e => (e.1, e.2.value))

lemma get?_filled_eq_none {entries : List (String × Item)} (h : key ∉ entries.map (·.1)) :
    (filled entries).get? key = none := by
  refine get?_append_eq_none.mpr ⟨rfl, fun e he => ?_⟩
  obtain ⟨item, hitem, rfl⟩ := List.mem_map.mp he
  rintro rfl
  exact h (List.mem_map_of_mem hitem)

end Table

namespace Section

variable {t : Table} {key : String} {entries : List (String × Item)}

/-- The tables with those of a section: its own is opened, and its entries are put there. -/
def add? (t : Table) (s : Section) : Option Table :=
  (t.openTable? s.header.dropLast (s.header.getLastD "")).bind fun t =>
    s.entries.foldlM (fun t e => t.change? false (fun t => t.put? [] e.1 e.2.value) s.header) t

lemma add?_absent (h : t.get? key = none) (hdistinct : (entries.map (·.1)).Nodup) :
    add? t ⟨[key], entries⟩ = some (t.push key (.filled entries)) := by
  have hput : entries.foldlM (fun t e => t.change? false (fun t => t.put? [] e.1 e.2.value) [])
      Table.opened = some (Table.filled entries) :=
    Table.foldlM_put? rfl (fun _ _ => rfl) hdistinct
  have hpush := Table.foldlM_change?_push h (fun (e : String × Item) (t : Table) =>
    t.put? [] e.1 e.2.value) [] entries Table.opened
  rw [hput, Option.map_some] at hpush
  simp only [add?, List.dropLast_singleton, List.getLastD_cons, List.getLastD_nil,
    Table.openTable?_absent h, Option.bind_some, hpush]

lemma add?_push {outer : String} (h : t.get? outer = none) (sub : Table) {header : List String}
    (hheader : header ≠ []) :
    add? (t.push outer sub) ⟨outer :: header, entries⟩ =
      (add? sub ⟨header, entries⟩).map (t.push outer) := by
  obtain ⟨name, header, rfl⟩ := List.exists_cons_of_ne_nil hheader
  have hpush := Table.foldlM_change?_push h (fun (e : String × Item) (t : Table) =>
    t.put? [] e.1 e.2.value) (name :: header) entries
  simp only [add?, List.dropLast_cons_cons, List.getLastD_cons, Table.openTable?_push h]
  cases sub.openTable? (name :: header).dropLast (header.getLastD name) with
  | none => rfl
  | some sub => exact hpush sub

end Section

end TestScout.Toml
