/-!
A table from names to values, kept in the order of the names. Names are compared code point by code
point, which for UTF-8 is the order of their bytes; each name stands at most once, so two tables
with the same look-ups are equal.
-/

namespace TestScout

/-- Puts `v` under `k` in entries ordered by name, replacing what was there. -/
def insertEntry (k : String) (v : α) : List (String × α) → List (String × α)
  | [] => [(k, v)]
  | (k', v') :: rest =>
    if k < k' then (k, v) :: (k', v') :: rest
    else if k = k' then (k, v) :: rest
    else (k', v') :: insertEntry k v rest

def NamesRise (entries : List (String × α)) : Prop :=
  entries.Pairwise (fun a b => a.1 < b.1)

theorem mem_insertEntry {k : String} {v : α} {entries : List (String × α)} {e : String × α}
    (h : e ∈ insertEntry k v entries) : e = (k, v) ∨ e ∈ entries := by
  induction entries with
  | nil => simp_all [insertEntry]
  | cons head rest ih =>
    obtain ⟨k', v'⟩ := head
    simp only [insertEntry] at h
    split at h
    · simp_all
    · split at h
      · simp only [List.mem_cons] at h ⊢
        rcases h with h | h <;> simp [h]
      · simp only [List.mem_cons] at h ⊢
        rcases h with h | h
        · simp [h]
        · rcases ih h with h | h <;> simp [h]

theorem NamesRise.insertEntry {entries : List (String × α)} (h : NamesRise entries) (k : String)
    (v : α) : NamesRise (insertEntry k v entries) := by
  induction entries with
  | nil => simp [TestScout.insertEntry, NamesRise]
  | cons head rest ih =>
    obtain ⟨k', v'⟩ := head
    simp only [NamesRise, List.pairwise_cons] at h
    simp only [TestScout.insertEntry]
    split
    · next hlt =>
      simp only [NamesRise, List.pairwise_cons, List.mem_cons]
      refine ⟨?_, h⟩
      rintro e (rfl | he)
      · exact hlt
      · exact String.lt_trans hlt (h.1 e he)
    · next hge =>
      split
      · next heq =>
        subst heq
        simpa [NamesRise] using h
      · next hne =>
        simp only [NamesRise, List.pairwise_cons]
        refine ⟨?_, ih h.2⟩
        intro e he
        rcases mem_insertEntry he with rfl | he
        · by_cases hlt : k' < k
          · exact hlt
          · exact absurd (String.le_antisymm (String.not_lt.1 hlt) (String.not_lt.1 hge)) hne
        · exact h.1 e he

structure Dict (α : Type u) where
  entries : List (String × α)
  rise : NamesRise entries

namespace Dict

instance : Inhabited (Dict α) := ⟨⟨[], .nil⟩⟩

instance [DecidableEq α] : DecidableEq (Dict α) := fun a b =>
  if h : a.entries = b.entries then .isTrue (by cases a; cases b; simp_all)
  else .isFalse (fun e => h (e ▸ rfl))

def empty : Dict α := ⟨[], .nil⟩

def insert (d : Dict α) (k : String) (v : α) : Dict α :=
  ⟨insertEntry k v d.entries, d.rise.insertEntry k v⟩

def get? (d : Dict α) (k : String) : Option α := d.entries.lookup k

def names (d : Dict α) : List String := d.entries.map (·.1)

/-- The table of a list of entries, in which the later of two entries with one name counts. -/
def ofList (entries : List (String × α)) : Dict α :=
  entries.foldl (fun d e => d.insert e.1 e.2) empty

end Dict

end TestScout
