import TestScout.Proofs.Toml.Value

/-!
Documents in TOML, written and read back. A line that is read changes the tables read so far and
leaves the lines after it, so reading a document is a sequence of such steps: one for a header, one
for each entry, and one for the blank line between two sections.
-/

namespace TestScout.Toml

/-! ### Keys -/

section Keys

variable {rest : List Char}

lemma keyChars_eq_cons (cs : List Char) :
    ∃ c more, keyChars cs = c :: more ∧ Solid c ∧ c ≠ '[' := by
  have hstyled : ∀ literal, ∃ c more, styled false literal cs = c :: more ∧ Solid c ∧ c ≠ '[' := by
    intro literal
    cases literal
    · exact ⟨'"', _, rfl, by decide, by decide⟩
    · exact ⟨'\'', _, rfl, by decide, by decide⟩
  unfold keyChars
  split
  · next h =>
    simp only [Bool.and_eq_true, Bool.not_eq_true', List.isEmpty_eq_false_iff,
      List.all_eq_true] at h
    obtain ⟨c, more, rfl⟩ := List.exists_cons_of_ne_nil h.1
    have hc := h.2 c List.mem_cons_self
    refine ⟨c, more, rfl, ⟨?_, ?_, ?_, ?_, ?_⟩, ?_⟩ <;> (rintro rfl; exact absurd hc (by decide))
  repeat' split
  all_goals exact hstyled _

lemma takeName_skipBlanks (hrest : EndsName rest) (k : String) :
    takeName (skipBlanks (keyChars k.toList ++ rest)) = some (k, rest) := by
  obtain ⟨c, more, heq, hsolid, -⟩ := keyChars_eq_cons k.toList
  rw [heq, List.cons_append, skipBlanks_solid hsolid, ← List.cons_append, ← heq,
    takeName_keyChars hrest, String.ofList_toList]

lemma takeKey_last {fuel : Nat} {path : List String} (hrest : EndsName rest) {c : Char}
    {more : List Char} (hskip : skipBlanks rest = c :: more) (hc : c ≠ '.') (k : String) :
    takeKey (fuel + 1) path (keyChars k.toList ++ rest) = some ((path, k), c :: more) := by
  simp only [takeKey, takeName_skipBlanks hrest, hskip]
  split
  · next heq => exact absurd (List.cons.inj heq).1 hc
  · rfl

lemma takeKey_dot {fuel : Nat} {path : List String} (k : String) :
    takeKey (fuel + 1) path (keyChars k.toList ++ '.' :: rest) =
      takeKey fuel (path ++ [k]) rest := by
  simp [takeKey, takeName_skipBlanks ⟨'.', rest, rfl, by decide⟩,
    skipBlanks_solid (show Solid '.' by decide)]

lemma takeKey_header {path : List String} {key : String} {fuel : Nat} (h : path.length < fuel)
    (pre : List String) :
    takeKey fuel pre (['.'].intercalate ((path ++ [key]).map fun k => keyChars k.toList) ++
      ']' :: rest) = some ((pre ++ path, key), ']' :: rest) := by
  induction path generalizing pre fuel with
  | nil =>
      obtain ⟨fuel, rfl⟩ := Nat.exists_eq_add_of_lt h
      simpa [List.intercalate] using takeKey_last ⟨']', rest, rfl, by decide⟩
        (skipBlanks_solid (show Solid ']' by decide)) (by decide) key
  | cons p path ih =>
      obtain ⟨fuel, rfl⟩ : ∃ n, fuel = n + 1 := ⟨fuel - 1, by simp at h; omega⟩
      have hnames : (path ++ [key]).map (fun k => keyChars k.toList) ≠ [] := by simp
      rw [List.cons_append, List.map_cons, List.intercalate_cons_of_ne_nil hnames,
        List.append_assoc, List.append_assoc, List.singleton_append, takeKey_dot,
        ih (by simpa using h)]
      simp

end Keys

/-! ### Lines -/

namespace Document

/-- Reading `cs` with the tables of `d` comes to the lines `rest` with the tables of `d'`. -/
def Reads (d : Document) (cs : List Char) (d' : Document) (rest : List Char) : Prop :=
  ∃ n, n + rest.length ≤ cs.length ∧ ∀ fuel, d.lines? (fuel + n) cs = d'.lines? fuel rest

section Reads

variable {d d₁ d₂ d₃ : Document} {cs cs₁ cs₂ cs₃ rest : List Char}

lemma Reads.refl (d : Document) (cs : List Char) : d.Reads cs d cs :=
  ⟨0, by simp, fun _ => rfl⟩

lemma Reads.trans (h : d₁.Reads cs₁ d₂ cs₂) (h' : d₂.Reads cs₂ d₃ cs₃) : d₁.Reads cs₁ d₃ cs₃ := by
  obtain ⟨n, hn, hread⟩ := h
  obtain ⟨m, hm, hread'⟩ := h'
  refine ⟨m + n, by omega, fun fuel => ?_⟩
  rw [← Nat.add_assoc, hread, hread']

/-- Fuel for each character is enough to read to the end. -/
lemma Reads.lines? (h : d.Reads cs d₁ []) : d.lines? (cs.length + 1) cs = some d₁ := by
  obtain ⟨n, hn, hread⟩ := h
  have hfuel : cs.length + 1 = (cs.length - n) + 1 + n := by
    simp at hn
    omega
  rw [hfuel, hread]
  rfl

lemma reads_statement {c : Char} (hc : Solid c) {rest : List Char}
    (h : d.statement? (c :: cs) = some (d₁, '\n' :: rest)) (hlength : rest.length ≤ cs.length) :
    d.Reads (c :: cs) d₁ rest := by
  refine ⟨1, by simp; omega, fun fuel => ?_⟩
  have hend : endLine? ('\n' :: rest) = some rest := rfl
  simp only [Document.lines?, skipBlanks_solid hc, endLine?_solid hc, h, hend]

lemma reads_blank (d : Document) (rest : List Char) : d.Reads ('\n' :: rest) d rest :=
  ⟨1, by simp; omega, fun _ => rfl⟩

end Reads

/-! ### Sections -/

section Sections

variable {d : Document} {root : Table} {rest : List Char}

lemma reads_header {path : List String} {key : String} (h : path.length < maxDepth)
    (hopen : d.root.openTable? path key = some root) :
    d.Reads ('[' :: (['.'].intercalate ((path ++ [key]).map fun k => keyChars k.toList) ++
      ']' :: '\n' :: rest)) ⟨root, path ++ [key]⟩ rest := by
  have hkey := @takeKey_header ('\n' :: rest) path key maxDepth h []
  generalize hnames : ['.'].intercalate ((path ++ [key]).map fun k => keyChars k.toList) = names
  rw [hnames, List.nil_append] at hkey
  have hbracket : ∀ more, names ++ ']' :: '\n' :: rest ≠ '[' :: more := by
    rintro more heq
    rw [heq] at hkey
    exact absurd hkey (by simp [show takeKey maxDepth [] ('[' :: more) = none from rfl])
  refine reads_statement (by decide) ?_ (by simp; omega)
  rw [statement?]
  · simp [header?, hkey, hopen]
  · exact hbracket

lemma chars_eq_cons (item : Item) : ∃ c more, item.chars = c :: more ∧ Solid c := by
  match item with
  | .text s => exact textChars_solid s.toList
  | .nat n =>
      obtain ⟨c, more, heq⟩ := List.exists_cons_of_ne_nil (@Nat.toDigits_ne_nil n 10)
      have hdigit := Text.isDigit_toDigits c (heq ▸ List.mem_cons_self)
      refine ⟨c, more, heq, ?_, ?_, ?_, ?_, ?_⟩ <;> (rintro rfl; exact absurd hdigit (by decide))
  | .bool b => cases b <;> exact ⟨_, _, rfl, by decide⟩
  | .texts [] => exact ⟨'[', _, rfl, by decide⟩
  | .texts [_] => exact ⟨'[', _, rfl, by decide⟩
  | .texts (_ :: _ :: _) => exact ⟨'[', _, rfl, by decide⟩

lemma reads_entry {e : String × Item} (hfits : e.2.Fits)
    (hput : d.root.change? false (fun t => t.put? [] e.1 e.2.value) d.path = some root) :
    d.Reads (entryChars e ++ rest) { d with root := root } rest := by
  obtain ⟨k, item⟩ := e
  have hline : entryChars (k, item) ++ rest =
      keyChars k.toList ++ ' ' :: '=' :: ' ' :: (item.chars ++ '\n' :: rest) := by
    simp [entryChars]
  have hkey : takeKey maxDepth []
      (keyChars k.toList ++ ' ' :: '=' :: ' ' :: (item.chars ++ '\n' :: rest)) =
        some (([], k), '=' :: ' ' :: (item.chars ++ '\n' :: rest)) :=
    takeKey_last ⟨' ', _, rfl, by decide⟩ rfl (by decide) k
  have hblank : skipBlanks (' ' :: (item.chars ++ '\n' :: rest)) = item.chars ++ '\n' :: rest := by
    obtain ⟨c, more, heq, hsolid⟩ := chars_eq_cons item
    rw [heq]
    exact skipBlanks_spaces hsolid 1
  have hvalue : takeValue (2 * ('=' :: ' ' :: (item.chars ++ '\n' :: rest)).length + 2) maxDepth
      (item.chars ++ '\n' :: rest) = some (item.value, '\n' :: rest) :=
    takeValue_chars hfits ⟨'\n', rest, rfl, by simp⟩ _ (by simp; omega)
  obtain ⟨c, more, heq, hsolid, hbracket⟩ := keyChars_eq_cons k.toList
  rw [hline]
  rw [heq, List.cons_append] at hkey ⊢
  refine reads_statement hsolid ?_ (by simp; omega)
  rw [statement?]
  · simp only [ entry?, hkey, Option.bind_eq_bind, Option.bind_some, after?, if_true, hblank,
      hvalue, hput, pure]
  · simp [hbracket]
  · simp [hbracket]

lemma reads_entries {entries : List (String × Item)} (hfits : ∀ e ∈ entries, e.2.Fits)
    (hput : entries.foldlM (fun t e => t.change? false (fun t => t.put? [] e.1 e.2.value) d.path)
      d.root = some root) :
    d.Reads (entries.flatMap entryChars ++ rest) { d with root := root } rest := by
  induction entries generalizing d with
  | nil =>
      obtain rfl : d.root = root := by simpa using hput
      exact Reads.refl d rest
  | cons e entries ih =>
      rw [List.foldlM_cons] at hput
      obtain ⟨root', hstep, hput⟩ := Option.bind_eq_some_iff.mp hput
      rw [List.flatMap_cons, List.append_assoc]
      refine (reads_entry (hfits e List.mem_cons_self) hstep).trans ?_
      exact @ih { d with root := root' } (fun e' he' => hfits e' (List.mem_cons_of_mem _ he')) hput

lemma reads_section {path : List String} {key : String} {entries : List (String × Item)}
    {opened : Table} (h : path.length < maxDepth) (hfits : ∀ e ∈ entries, e.2.Fits)
    (hopen : d.root.openTable? path key = some opened)
    (hput : entries.foldlM
      (fun t e => t.change? false (fun t => t.put? [] e.1 e.2.value) (path ++ [key])) opened =
        some root) :
    d.Reads (Section.chars ⟨path ++ [key], entries⟩ ++ rest) ⟨root, path ++ [key]⟩ rest := by
  have hchars : Section.chars ⟨path ++ [key], entries⟩ ++ rest =
      '[' :: (['.'].intercalate ((path ++ [key]).map fun k => keyChars k.toList) ++
        ']' :: '\n' :: (entries.flatMap entryChars ++ rest)) := by
    simp [Section.chars]
  rw [hchars]
  exact (reads_header h hopen).trans (@reads_entries ⟨opened, path ++ [key]⟩ root rest _ hfits hput)

end Sections

end Document

/-! ### Whole documents -/

/-- The section has a header of no more names than a key can have, and its entries can be
written. -/
def Section.Fits (s : Section) : Prop :=
  s.header ≠ [] ∧ s.header.length ≤ maxDepth ∧ ∀ e ∈ s.entries, e.2.Fits

namespace Document

lemma reads_sections {sections : List Section} (hne : sections ≠ [])
    (hfits : ∀ s ∈ sections, s.Fits) {d : Document} {root : Table}
    (h : sections.foldlM Section.add? d.root = some root) :
    ∃ path, d.Reads (['\n'].intercalate (sections.map Section.chars)) ⟨root, path⟩ [] := by
  induction sections generalizing d with
  | nil => exact absurd rfl hne
  | cons s sections ih =>
      obtain ⟨hheader, hlength, hentries⟩ := hfits s List.mem_cons_self
      obtain ⟨header, entries⟩ := s
      obtain ⟨path, key, rfl⟩ : ∃ path key, header = path ++ [key] :=
        ⟨_, _, (List.dropLast_concat_getLast hheader).symm⟩
      obtain ⟨root', hadd, h⟩ := Option.bind_eq_some_iff.mp h
      obtain ⟨opened, hopen, hput⟩ := Option.bind_eq_some_iff.mp hadd
      rw [List.dropLast_concat, List.getLastD_concat] at hopen
      have hread := fun rest => @reads_section d root' rest path key entries opened
        (by simp at hlength; omega) hentries hopen hput
      rcases Decidable.em (sections = []) with rfl | hmore
      · obtain rfl : root' = root := by simpa using h
        refine ⟨path ++ [key], ?_⟩
        simpa using hread []
      · obtain ⟨path', hrest⟩ := @ih hmore (fun s hs => hfits s (List.mem_cons_of_mem _ hs))
          ⟨root', path ++ [key]⟩ h
        refine ⟨path', ?_⟩
        rw [List.map_cons, List.intercalate_cons_of_ne_nil (by simpa using hmore),
          List.append_assoc]
        exact (hread _).trans ((reads_blank _ _).trans hrest)

end Document

/-- **A document of sections is read back as the tables of its sections**, added one after the
other, as long as no two of them define the same thing. -/
theorem ofText?_document {sections : List Section} (hne : sections ≠ [])
    (hfits : ∀ s ∈ sections, s.Fits) {root : Table}
    (h : sections.foldlM Section.add? Document.start.root = some root) :
    ofText? (document sections) = some root := by
  obtain ⟨path, hreads⟩ := Document.reads_sections hne hfits h
  obtain ⟨more, heq⟩ : ∃ more, ['\n'].intercalate (sections.map Section.chars) = '[' :: more := by
    match sections with
    | [s] => simp [Section.chars]
    | s :: t :: sections => simp [Section.chars]
  have hread := hreads.lines?
  have htext : (document sections).toList = '[' :: more := by
    rw [document, String.toList_ofList, heq]
  rw [heq] at hread
  rw [ofText?, htext]
  change (Document.start.lines? (('[' :: more).length + 1) ('[' :: more)).map (·.root) = some root
  rw [hread, Option.map_some]

end TestScout.Toml
