import TestScout.Path

/-!
The directory above is written shorter, so going up comes to an end. A path is its parts with
separators between them, and the directory above keeps a proper beginning of those parts.
-/

namespace TestScout.Path

/-- There is always a part, if only an empty one. -/
theorem splitParts_ne_nil (bs : List UInt8) : splitParts bs ≠ [] := by
  cases bs with
  | nil => simp [splitParts]
  | cons b rest =>
    simp only [splitParts]
    split
    · simp
    · split <;> simp

/-- Putting the parts together again gives the bytes. -/
theorem joinParts_splitParts (bs : List UInt8) : joinParts (splitParts bs) = bs := by
  induction bs with
  | nil => rfl
  | cons b rest ih =>
    simp only [splitParts]
    split
    · next h =>
      cases hs : splitParts rest with
      | nil => exact absurd hs (splitParts_ne_nil rest)
      | cons part parts => rw [hs] at ih; simp [joinParts, ih, h]
    · cases hs : splitParts rest with
      | nil => exact absurd hs (splitParts_ne_nil rest)
      | cons part parts =>
        rw [hs] at ih
        cases parts with
        | nil => simp_all [joinParts]
        | cons q qs => simp_all [joinParts]

/-- Parts that follow others need a separator. -/
theorem length_joinParts_append (xs ys : List (List UInt8)) :
    (joinParts xs).length + (if xs = [] ∨ ys = [] then 0 else 1) + (joinParts ys).length =
      (joinParts (xs ++ ys)).length := by
  induction xs with
  | nil => simp [joinParts]
  | cons x xs ih =>
    cases xs with
    | nil =>
      cases ys with
      | nil => simp [joinParts]
      | cons y ys => simp [joinParts]; omega
    | cons x' xs => 
      simp only [List.cons_append, joinParts, List.length_append, List.length_cons] at ih ⊢
      simp only [reduceCtorEq, false_or] at ih ⊢
      omega

/-- What is kept is a beginning of the parts. -/
theorem dropIdle_append (absolute : Bool) (parts : List (List UInt8)) :
    ∃ idle, dropIdle absolute parts ++ idle = parts := by
  cases parts with
  | nil => exact ⟨[], by simp [dropIdle]⟩
  | cons first rest =>
    simp only [dropIdle]
    have h : (rest.reverse.dropWhile fun part => part.isEmpty || part = dot).reverse ++
        (rest.reverse.takeWhile fun part => part.isEmpty || part = dot).reverse = rest := by
      rw [← List.reverse_append, List.takeWhile_append_dropWhile, List.reverse_reverse]
    split
    · split
      · exact ⟨first :: rest, by simp⟩
      · exact ⟨rest, by simp⟩
    · next more _ => exact ⟨_, by simpa using h⟩

/-- Parts that are kept are not all empty. -/
theorem length_dropIdle_pos (absolute : Bool) (parts : List (List UInt8))
    (h : dropIdle absolute parts ≠ []) :
    0 < (joinParts (dropIdle absolute parts)).length := by
  cases parts with
  | nil => simp [dropIdle] at h
  | cons first rest =>
    simp only [dropIdle] at h ⊢
    split
    · next hm =>
      rw [hm] at h
      simp only at h
      split
      · next hf => simp [hf] at h
      · next hf =>
        simp only [Bool.or_eq_true, not_or] at hf
        cases first with
        | nil => simp at hf
        | cons b bs => simp [joinParts]
    · next hm =>
      cases hmm : (rest.reverse.dropWhile fun part => part.isEmpty || part = dot).reverse with
      | nil => exact absurd hmm hm
      | cons a as => simp only [joinParts, List.length_append, List.length_cons]; omega

/-- The directory above is written shorter. -/
theorem length_lt_of_parent? {p q : Path} (h : p.parent? = some q) :
    q.bytes.length < p.bytes.length := by
  have hp : p.bytes.length =
      (if p.isAbsolute then [slash] else []).length + (joinParts (splitParts p.body)).length := by
    rw [joinParts_splitParts]
    simp only [body]
    split
    · next ha =>
      simp only [isAbsolute, decide_eq_true_eq] at ha
      cases hb : p.bytes with
      | nil => simp [hb] at ha
      | cons b bs => simp; omega
    · simp
  simp only [parent?] at h
  split at h
  · cases h
  · next hne =>
    cases h
    obtain ⟨idle, hidle⟩ := dropIdle_append p.isAbsolute (splitParts p.body)
    obtain ⟨idle', hidle'⟩ := dropIdle_append p.isAbsolute p.parts.dropLast
    have hpos := length_dropIdle_pos p.isAbsolute (splitParts p.body) hne
    have h1 := length_joinParts_append (dropIdle p.isAbsolute (splitParts p.body)) idle
    have h2 := length_joinParts_append (dropIdle p.isAbsolute p.parts.dropLast) idle'
    have h3 := length_joinParts_append p.parts.dropLast [p.parts.getLast hne]
    rw [List.dropLast_concat_getLast hne] at h3
    rw [hidle] at h1
    rw [hidle'] at h2
    simp only [ofParts, List.length_append]
    rw [hp]
    have hd : dropIdle p.isAbsolute (splitParts p.body) = p.parts := rfl
    rw [hd] at h1 hpos
    by_cases hl : p.parts.dropLast = []
    · simp only [hl, dropIdle, joinParts, List.length_nil] at *
      omega
    · simp only [hl, false_or, reduceCtorEq, ite_false] at h3
      omega

end TestScout.Path
