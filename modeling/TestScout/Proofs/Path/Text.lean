import TestScout.Proofs.ProjectRoot.Search

/-!
Paths that are texts. The separator is a byte that no other character contains, so cutting the
bytes of a text at separators cuts it between characters and every part is a text again. So is
whatever is put together from texts with separators between them: the directories above a path that
is a text are texts, and so is a text read from one.
-/

namespace TestScout

namespace Text

lemma ofBytes?_eq_some_iff {bs : List UInt8} {s : String} :
    ofBytes? bs = some s ↔ toBytes s = bs := by
  constructor
  · intro h
    unfold ofBytes? String.fromUTF8? at h
    split at h
    · obtain rfl := Option.some.inj h
      simp [toBytes, String.fromUTF8]
    · cases h
  · rintro rfl
    exact ofBytes?_toBytes s

lemma toBytes_eq_flatMap (s : String) : toBytes s = s.toList.flatMap String.utf8EncodeChar := by
  rw [toBytes, ← String.utf8Encode_toList]
  simp [List.utf8Encode]

def IsText (bs : List UInt8) : Prop := ∃ s, toBytes s = bs

lemma isText_iff {bs : List UInt8} :
    IsText bs ↔ ∃ cs : List Char, cs.flatMap String.utf8EncodeChar = bs := by
  constructor
  · rintro ⟨s, rfl⟩
    exact ⟨s.toList, (toBytes_eq_flatMap s).symm⟩
  · rintro ⟨cs, rfl⟩
    exact ⟨String.ofList cs, by rw [toBytes_eq_flatMap, String.toList_ofList]⟩

lemma isText_toBytes (s : String) : IsText (toBytes s) := ⟨s, rfl⟩

lemma isText_nil : IsText [] := isText_iff.mpr ⟨[], rfl⟩

lemma isText_slash : IsText [slash] := isText_iff.mpr ⟨['/'], rfl⟩

lemma IsText.append {a b : List UInt8} (ha : IsText a) (hb : IsText b) : IsText (a ++ b) := by
  obtain ⟨cs, rfl⟩ := isText_iff.mp ha
  obtain ⟨ds, rfl⟩ := isText_iff.mp hb
  exact isText_iff.mpr ⟨cs ++ ds, List.flatMap_append⟩

/-- A byte below 128 is a character of its own: no other character contains it. -/
lemma toNat_of_mem_utf8EncodeChar {b : UInt8} {c : Char} (hb : b.toNat < 0x80)
    (h : b ∈ String.utf8EncodeChar c) : c.toNat = b.toNat := by
  have hbyte (n : Nat) (hn : b = UInt8.ofNat n) : b.toNat = n % 256 := by
    rw [hn, UInt8.toNat_ofNat']
  unfold String.utf8EncodeChar at h
  simp only at h
  split at h
  · have hv := hbyte _ (List.mem_singleton.mp h)
    have hval : c.toNat = c.val.toNat := rfl
    omega
  · -- every byte of a longer character is at least 128
    exfalso
    split at h
    · simp only [List.mem_cons, List.not_mem_nil, or_false] at h
      rcases h with h | h <;> exact absurd (hbyte _ h) (by omega)
    · split at h
      · simp only [List.mem_cons, List.not_mem_nil, or_false] at h
        rcases h with h | h | h <;> exact absurd (hbyte _ h) (by omega)
      · simp only [List.mem_cons, List.not_mem_nil, or_false] at h
        rcases h with h | h | h | h <;> exact absurd (hbyte _ h) (by omega)

lemma eq_slash_of_mem {c : Char} (h : slash ∈ String.utf8EncodeChar c) : c = '/' :=
  Char.toNat_inj.mp (toNat_of_mem_utf8EncodeChar (by decide) h)

end Text

namespace Path

open Text

/-! ### Parts -/

lemma splitParts_append {xs : List UInt8} (h : slash ∉ xs) (rest : List UInt8) :
    ∃ part parts, splitParts rest = part :: parts ∧
      splitParts (xs ++ rest) = (xs ++ part) :: parts := by
  induction xs with
  | nil =>
      obtain ⟨part, parts, hsplit⟩ := List.exists_cons_of_ne_nil (splitParts_ne_nil rest)
      exact ⟨part, parts, hsplit, hsplit⟩
  | cons b xs ih =>
      simp only [List.mem_cons, not_or] at h
      obtain ⟨part, parts, hsplit, happ⟩ := ih h.2
      refine ⟨part, parts, hsplit, ?_⟩
      rw [List.cons_append, splitParts, if_neg (Ne.symm h.1), happ]
      rfl

lemma isText_of_mem_splitParts {bs part : List UInt8} (h : IsText bs)
    (hpart : part ∈ splitParts bs) : IsText part := by
  obtain ⟨cs, rfl⟩ := isText_iff.mp h
  clear h
  induction cs generalizing part with
  | nil =>
      obtain rfl : part = [] := by simpa [splitParts] using hpart
      exact isText_nil
  | cons c cs ih =>
      rw [List.flatMap_cons] at hpart
      by_cases hc : slash ∈ String.utf8EncodeChar c
      · obtain rfl := eq_slash_of_mem hc
        have hslash : String.utf8EncodeChar '/' = [slash] := rfl
        rw [hslash, List.singleton_append, splitParts, if_pos rfl] at hpart
        rcases List.mem_cons.mp hpart with rfl | hpart
        · exact isText_nil
        · exact ih hpart
      · obtain ⟨first, rest, hsplit, happ⟩ :=
          splitParts_append hc (cs.flatMap String.utf8EncodeChar)
        rw [happ] at hpart
        rw [hsplit] at ih
        rcases List.mem_cons.mp hpart with rfl | hpart
        · exact (isText_iff.mpr ⟨[c], by simp⟩).append (ih List.mem_cons_self)
        · exact ih (List.mem_cons_of_mem _ hpart)

lemma isText_joinParts {parts : List (List UInt8)} (h : ∀ part ∈ parts, IsText part) :
    IsText (joinParts parts) := by
  induction parts with
  | nil => exact isText_nil
  | cons part parts ih =>
      have hfirst := h part List.mem_cons_self
      cases parts with
      | nil => exact hfirst
      | cons next more =>
          have hmore := ih fun q hq => h q (List.mem_cons_of_mem _ hq)
          exact hfirst.append (isText_slash.append hmore)

lemma mem_of_mem_dropIdle {absolute : Bool} {parts : List (List UInt8)} {part : List UInt8}
    (h : part ∈ dropIdle absolute parts) : part ∈ parts := by
  obtain ⟨idle, hidle⟩ := dropIdle_append absolute parts
  rw [← hidle]
  exact List.mem_append_left _ h

/-! ### Paths -/

lemma isText_body {p : Path} (h : IsText p.bytes) : IsText p.body := by
  unfold body
  split
  · next ha =>
    simp only [isAbsolute, decide_eq_true_eq] at ha
    obtain ⟨rest, hb⟩ : ∃ rest, p.bytes = slash :: rest := by
      rcases hb : p.bytes with _ | ⟨b, rest⟩
      · rw [hb] at ha; cases ha
      · rw [hb] at ha
        obtain rfl : b = slash := by simpa using ha
        exact ⟨rest, rfl⟩
    -- the parts of the rest are parts of the whole
    rw [hb] at h ⊢
    rw [List.tail_cons, ← joinParts_splitParts rest]
    refine isText_joinParts fun part hpart => isText_of_mem_splitParts h ?_
    rw [splitParts, if_pos rfl]
    exact List.mem_cons_of_mem _ hpart
  · exact h

lemma isText_of_mem_parts {p : Path} (h : IsText p.bytes) {part : List UInt8}
    (hpart : part ∈ p.parts) : IsText part :=
  isText_of_mem_splitParts (isText_body h) (mem_of_mem_dropIdle hpart)

lemma isText_ofParts {p : Path} {parts : List (List UInt8)} (h : ∀ part ∈ parts, IsText part) :
    IsText (p.ofParts parts).bytes := by
  unfold ofParts
  split
  · exact isText_slash.append (isText_joinParts h)
  · exact isText_nil.append (isText_joinParts h)

lemma isText_parent? {p q : Path} (h : IsText p.bytes) (hq : p.parent? = some q) :
    IsText q.bytes := by
  unfold parent? at hq
  split at hq
  · cases hq
  · obtain rfl := Option.some.inj hq
    refine isText_ofParts fun part hpart => isText_of_mem_parts h ?_
    exact (List.dropLast_sublist _).mem (mem_of_mem_dropIdle hpart)

lemma isText_of_mem_chain {p q : Path} (h : IsText p.bytes) (hq : q ∈ p.chain) :
    IsText q.bytes := by
  induction p using chain.induct with
  | case1 p ih =>
      rw [chain, List.mem_cons] at hq
      rcases hq with rfl | hq
      · exact h
      · split at hq
        · next up hup => exact ih up hup (isText_parent? h hup) hq
        · cases hq

lemma isText_join {p q : Path} (hp : IsText p.bytes) (hq : IsText q.bytes) :
    IsText (p.join q).bytes := by
  unfold join
  split
  · exact hq
  · split
    · split
      · exact hp.append hq
      · exact hp.append (isText_slash.append hq)
    · exact hq

lemma isText_ofString (s : String) : IsText (ofString s).bytes := isText_toBytes s

lemma absolutize_of_isAbsolute {p : Path} (h : p.isAbsolute = true) (cwd : Path) :
    p.absolutize cwd = p := if_pos h

lemma isText_absolutize {p cwd : Path} (hp : IsText p.bytes) (hcwd : IsText cwd.bytes) :
    IsText (p.absolutize cwd).bytes := by
  unfold absolutize
  split
  · exact hp
  · exact isText_join hcwd hp

lemma exists_toString?_iff {p : Path} : (∃ s, p.toString? = some s) ↔ IsText p.bytes :=
  exists_congr fun _ => ofBytes?_eq_some_iff

lemma ofString_of_toString? {p : Path} {s : String} (h : p.toString? = some s) :
    ofString s = p := by
  obtain ⟨bytes⟩ := p
  exact congrArg Path.mk (ofBytes?_eq_some_iff.mp h)

lemma ofString_display_iff {p : Path} : ofString p.display = p ↔ IsText p.bytes := by
  constructor
  · intro h
    rw [← h]
    exact isText_ofString _
  · rintro ⟨s, hs⟩
    obtain rfl : ofString s = p := congrArg Path.mk hs
    rw [display_ofString]

end Path

namespace ProjectRoot

/-- The root of the project of a file is a text if the whole path of the file is. -/
theorem isText_of_resolve {w : World} {file root : Path} {manifest : String} {hops : Nat}
    (h : Text.IsText (file.absolutize w.cwd).bytes)
    (hroot : resolve w file manifest hops = .ok root) : Text.IsText root.bytes := by
  have hmem := mem_tried_of_resolve hroot
  refine Path.isText_of_mem_chain ?_ (List.mem_of_mem_take hmem)
  unfold directoryOf
  rcases hp : (file.absolutize w.cwd).parent? with _ | up
  · exact h
  · exact Path.isText_parent? h hp

end ProjectRoot

end TestScout
