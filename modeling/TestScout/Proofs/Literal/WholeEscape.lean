import TestScout.Proofs.Literal.Narrow
import TestScout.Proofs.Literal.Spelling

/-!
Characters spelled by their number are taken whole or not at all. Where the text after the letter
begins with an escape, just that escape is taken, and whether there is one is told from the digits
at the front alone. Where there is none the letter stands for itself, and everything after it is
cooked as if it stood by itself.
-/

namespace TestScout.Literal

open Text

variable {cs : List Char} {c : Char} {n k : ℕ} {e : Escape} {r : String}

def BeginsDigits (k : ℕ) (cs : List Char) : Prop :=
  ∃ ds : List HexDigit, ds.length = k ∧ ds.map HexDigit.char <+: cs

/-- A text begins with digits in braces, however many, that spell a character. -/
def BeginsBraced (cs : List Char) : Prop :=
  ∃ ds : List HexDigit, ds ≠ [] ∧ (number ds).isValidChar ∧
    '\x7b' :: (ds.map HexDigit.char ++ ['\x7d']) <+: cs

/-- A text begins with the digits of a unit that begins a pair, and the escape that ends it. -/
def BeginsPair (cs : List Char) : Prop :=
  ∃ high low : List HexDigit, high.length = 4 ∧ low.length = 4 ∧
    isHighUnit (number high) = true ∧ isLowUnit (number low) = true ∧
    high.map HexDigit.char ++ '\\' :: 'u' :: low.map HexDigit.char <+: cs

/-! ### What is at the front -/

lemma exists_hexFront?_iff : (∃ n, hexFront? k cs = some n) ↔ BeginsDigits k cs := by
  constructor
  · rintro ⟨n, hn⟩
    obtain ⟨ds, rest, hk, rfl, -⟩ := hexFront?_eq_some_iff.mp hn
    exact ⟨ds, hk, List.prefix_append _ _⟩
  · rintro ⟨ds, hk, rest, rfl⟩
    exact ⟨number ds, hexFront?_digits hk⟩

lemma isValidChar_of_charOf? (h : charOf? n = some c) : n.isValidChar := by
  unfold charOf? at h
  split at h
  · assumption
  · cases h

lemma beginsBraced_of_braced? {v : Char × ℕ} (h : braced? cs = some v) :
    BeginsBraced ('\x7b' :: cs) := by
  obtain ⟨rest, hrest⟩ := List.takeWhile_prefix (l := cs) fun c => (hexValue? c).isSome
  unfold braced? at h
  generalize cs.takeWhile (fun c => (hexValue? c).isSome) = digits at h hrest
  subst hrest
  dsimp only at h
  split at h
  · cases h
  · next hclosed =>
    rw [List.drop_left, Bool.or_eq_true, not_or, decide_eq_true_eq, not_not,
      List.head?_eq_some_iff] at hclosed
    obtain ⟨hnonempty, more, rfl⟩ := hclosed
    obtain ⟨n, hn, h⟩ := Option.bind_eq_some_iff.mp h
    obtain ⟨c, hc, -⟩ := Option.bind_eq_some_iff.mp h
    obtain ⟨ds, rfl, rfl⟩ := hexNumber?_eq_some_iff.mp hn
    refine ⟨ds, ?_, isValidChar_of_charOf? hc, more, ?_⟩
    · rintro rfl
      exact hnonempty rfl
    · rw [List.cons_append, List.append_assoc, List.singleton_append]

lemma begins_of_unicode? {v : Char × ℕ} (h : unicode? cs = some v) :
    BeginsBraced cs ∨ BeginsDigits 4 cs := by
  unfold unicode? at h
  split at h
  · exact .inl (beginsBraced_of_braced? h)
  · obtain ⟨unit, hunit, -⟩ := Option.bind_eq_some_iff.mp h
    exact .inr (exists_hexFront?_iff.mp ⟨unit, hunit⟩)

/-- Four digits are an escape whatever follows them, but what follows may belong to it. -/
lemma exists_escape_of_four (h : BeginsDigits 4 cs) :
    ∃ (e : Escape) (rest : List Char), e.letter = 'u' ∧ e.Fits rest ∧ cs = e.tail ++ rest ∧
      (e.tail.length = 10 ∧ BeginsPair cs ∨ e.tail.length = 4 ∧ ¬ BeginsPair cs) := by
  by_cases hpair : BeginsPair cs
  · obtain ⟨high, low, fourHigh, fourLow, begins, ends, rest, rfl⟩ := id hpair
    refine ⟨.pair high low fourHigh fourLow begins ends, rest, rfl, trivial, rfl, .inl ⟨?_, hpair⟩⟩
    simp [Escape.tail, fourHigh, fourLow]
  · obtain ⟨ds, four, rest, rfl⟩ := h
    have hlength : (ds.map HexDigit.char).length = 4 := by rw [List.length_map, four]
    by_cases surrogate : IsSurrogate (number ds)
    · refine ⟨.half ds four surrogate, rest, rfl, ?_, rfl, .inr ⟨hlength, hpair⟩⟩
      intro begins low fourLow ends hlow
      exact hpair ⟨ds, low, four, fourLow, begins, ends,
        (List.prefix_append_right_inj _).mpr hlow⟩
    · exact ⟨.unit ds four surrogate, rest, rfl, trivial, rfl, .inr ⟨hlength, hpair⟩⟩

lemma exists_escape (h : BeginsBraced cs ∨ BeginsDigits 4 cs) :
    ∃ (e : Escape) (rest : List Char), e.letter = 'u' ∧ e.Fits rest ∧ cs = e.tail ++ rest := by
  obtain ⟨ds, nonempty, scalar, rest, rfl⟩ | h := h
  · refine ⟨.braces ds nonempty scalar, rest, rfl, trivial, ?_⟩
    rw [Escape.tail]
  · obtain ⟨e, rest, hletter, fits, hcs, -⟩ := exists_escape_of_four h
    exact ⟨e, rest, hletter, fits, hcs⟩

/-! ### What is taken -/

lemma Escape.three_le_length_tail (h : e.letter = 'u') : 3 ≤ e.tail.length := by
  cases e with
  | control letter c listed =>
      obtain rfl : letter = 'u' := h
      simp [controls] at listed
  | zero | byte _ _ | crlf => simp [Escape.letter] at h
  | unit digits four _ | half digits four _ => simp [Escape.tail, four]
  | pair high low fourHigh fourLow _ _ => simp [Escape.tail, fourHigh, fourLow]
  | braces digits nonempty scalar =>
      have hpos := List.length_pos_iff.mpr nonempty
      simp only [Escape.tail, List.length_cons, List.length_append, List.length_map,
        List.length_nil]
      omega
  | lineEnd c listed =>
      obtain rfl : c = 'u' := h
      exact absurd listed (by decide)
  | other c plain =>
      obtain rfl : c = 'u' := h
      exact absurd (by decide) plain

lemma escape_unicode_none (h : unicode? cs = none) : escape 'u' cs = (['u'], 0) := by
  rw [escape, h]

lemma escape_byte_none (h : byte? cs = none) : escape 'x' cs = (['x'], 0) := by
  rw [escape, h]

lemma unicode?_tail {rest : List Char} (h : e.letter = 'u') (fits : e.Fits rest) :
    ∃ c, e.value = [c] ∧ unicode? (e.tail ++ rest) = some (c, e.tail.length) := by
  have hescape := escape_letter fits
  have hlength := Escape.three_le_length_tail h
  rw [h] at hescape
  cases hunicode : unicode? (e.tail ++ rest) with
  | none =>
      rw [escape_unicode_none hunicode] at hescape
      have hzero : 0 = e.tail.length := congrArg Prod.snd hescape
      omega
  | some v =>
      rw [escape_unicode hunicode] at hescape
      have hn : v.2 = e.tail.length := congrArg Prod.snd hescape
      exact ⟨v.1, (congrArg Prod.fst hescape).symm, by rw [← hn]⟩

theorem unicode?_eq_some_iff :
    unicode? cs = some (c, n) ↔ ∃ (e : Escape) (rest : List Char), e.letter = 'u' ∧ e.Fits rest ∧
      cs = e.tail ++ rest ∧ e.value = [c] ∧ e.tail.length = n := by
  constructor
  · intro h
    obtain ⟨e, rest, hletter, fits, rfl⟩ := exists_escape (begins_of_unicode? h)
    obtain ⟨c', hvalue, hc'⟩ := unicode?_tail hletter fits
    obtain ⟨rfl, rfl⟩ := Prod.mk.inj (Option.some.inj (hc'.symm.trans h))
    exact ⟨e, rest, hletter, fits, rfl, hvalue, rfl⟩
  · rintro ⟨e, rest, hletter, fits, rfl, hvalue, rfl⟩
    obtain ⟨c', hvalue', hc'⟩ := unicode?_tail hletter fits
    obtain rfl := List.singleton_inj.mp (hvalue'.symm.trans hvalue)
    exact hc'

theorem exists_unicode?_iff :
    (∃ c n, unicode? cs = some (c, n)) ↔ BeginsBraced cs ∨ BeginsDigits 4 cs := by
  constructor
  · rintro ⟨c, n, h⟩
    exact begins_of_unicode? h
  · intro h
    obtain ⟨e, rest, hletter, fits, rfl⟩ := exists_escape h
    obtain ⟨c, -, hc⟩ := unicode?_tail hletter fits
    exact ⟨c, e.tail.length, hc⟩

/-- The second half of a pair is taken just where both halves are there. -/
theorem unicode?_of_four (four : BeginsDigits 4 cs) :
    ((∃ c, unicode? cs = some (c, 10)) ↔ BeginsPair cs) ∧
      ((∃ c, unicode? cs = some (c, 4)) ↔ ¬ BeginsPair cs) := by
  obtain ⟨e, rest, hletter, fits, rfl, hlength⟩ := exists_escape_of_four four
  obtain ⟨c, -, hc⟩ := unicode?_tail hletter fits
  rw [hc]
  obtain ⟨hlength, hpair⟩ | ⟨hlength, hpair⟩ := hlength <;> simp [hlength, hpair]

lemma pairValue_bounds {high low : ℕ} (begins : isHighUnit high = true)
    (ends : isLowUnit low = true) :
    0x10000 ≤ pairValue high low ∧ pairValue high low ≤ 0x10FFFF := by
  rw [isHighUnit_iff] at begins
  rw [isLowUnit_iff] at ends
  unfold pairValue
  omega

lemma unicode?_bounds (h : unicode? cs = some (c, n)) : 3 ≤ n ∧ n ≤ cs.length := by
  obtain ⟨e, rest, hletter, -, rfl, -, rfl⟩ := unicode?_eq_some_iff.mp h
  rw [List.length_append]
  exact ⟨Escape.three_le_length_tail hletter, Nat.le_add_right _ _⟩

theorem byte?_eq_some_iff :
    byte? cs = some c ↔ ∃ (ds : List HexDigit) (rest : List Char) (two : ds.length = 2),
      cs = ds.map HexDigit.char ++ rest ∧ coded (number ds) (isValidChar_of_two two) = c := by
  constructor
  · intro h
    obtain ⟨n, hn, rfl⟩ := Option.map_eq_some_iff.mp h
    obtain ⟨ds, rest, two, rfl, rfl⟩ := hexFront?_eq_some_iff.mp hn
    exact ⟨ds, rest, two, rfl, (ofNat_eq_coded _).symm⟩
  · rintro ⟨ds, rest, two, rfl, rfl⟩
    exact byte?_digits two

theorem byte?_eq_none_iff : byte? cs = none ↔ ¬ BeginsDigits 2 cs := by
  rw [← exists_hexFront?_iff, byte?, Option.map_eq_none_iff, Option.eq_none_iff_forall_ne_some,
    not_exists]

/-! ### What is left -/

lemma cookChars_escape (c : Char) (cs : List Char) :
    cookChars ('\\' :: c :: cs) = (escape c cs).1 ++ cookChars (cs.drop (escape c cs).2) := by
  rw [cookChars]

lemma cook_taken {letter : Char} (h : escape letter r.toList = ([c], n)) :
    cook (String.ofList ['\\', letter] ++ r) =
      String.singleton c ++ cook (String.ofList (r.toList.drop n)) := by
  rw [cook, cook, String.toList_append, String.toList_ofList, String.toList_ofList,
    List.cons_append, List.cons_append, List.nil_append, cookChars_escape, h,
    String.ofList_append]
  rfl

lemma cook_untaken {letter : Char} (h : escape letter r.toList = ([letter], 0)) :
    cook (String.ofList ['\\', letter] ++ r) = String.singleton letter ++ cook r := by
  rw [cook_taken h, List.drop_zero, String.ofList_toList]

/-- **An escape that spells a number is taken whole or not at all**: what follows `\u` gives a
character just where it begins with an escape, and then that escape is all that is taken. It begins
with one where digits in braces, of any number, spell a character, or where there are four digits,
which take the escape after them along just when the two make a pair. Otherwise nothing is taken,
and the text is cooked behind a plain `u`. It is the same with `\x` and two digits. Words of
thirty-two bits are enough for all of it as long as a text does not begin with `2 ^ 31` digits in
braces, most of them zeros; and just there they are not. -/
theorem numeric_escape_whole_or_not (r : String) :
    (∀ c n, unicode? r.toList = some (c, n) ↔
      ∃ (e : Escape) (rest : List Char), e.letter = 'u' ∧ e.Fits rest ∧
        r.toList = e.tail ++ rest ∧ e.value = [c] ∧ e.tail.length = n) ∧
    ((∃ c n, unicode? r.toList = some (c, n)) ↔
      BeginsBraced r.toList ∨ BeginsDigits 4 r.toList) ∧
    (BeginsDigits 4 r.toList →
      ((∃ c, unicode? r.toList = some (c, 10)) ↔ BeginsPair r.toList) ∧
        ((∃ c, unicode? r.toList = some (c, 4)) ↔ ¬ BeginsPair r.toList)) ∧
    (∀ high low, isHighUnit high = true → isLowUnit low = true →
      0x10000 ≤ pairValue high low ∧ pairValue high low ≤ 0x10FFFF) ∧
    (∀ c n, unicode? r.toList = some (c, n) →
      cook ("\\u" ++ r) = String.singleton c ++ cook (String.ofList (r.toList.drop n))) ∧
    (¬ BeginsBraced r.toList → ¬ BeginsDigits 4 r.toList →
      unicode? r.toList = none ∧ cook ("\\u" ++ r) = "u" ++ cook r) ∧
    (∀ k n, hexFront? k r.toList = some n ↔
      ∃ (ds : List HexDigit) (rest : List Char),
        ds.length = k ∧ r.toList = ds.map HexDigit.char ++ rest ∧ number ds = n) ∧
    (∀ c, byte? r.toList = some c ↔
      ∃ (ds : List HexDigit) (rest : List Char) (two : ds.length = 2),
        r.toList = ds.map HexDigit.char ++ rest ∧
          coded (number ds) (isValidChar_of_two two) = c) ∧
    (∀ c, byte? r.toList = some c →
      cook ("\\x" ++ r) = String.singleton c ++ cook (String.ofList (r.toList.drop 2))) ∧
    (¬ BeginsDigits 2 r.toList →
      byte? r.toList = none ∧ cook ("\\x" ++ r) = "x" ++ cook r) ∧
    (Narrow.unicode r.toList = .error .overflow ↔ Narrow.BeginsOverlong r.toList) ∧
    (¬ Narrow.BeginsOverlong r.toList → Narrow.unicode r.toList = .ok (unicode? r.toList)) ∧
    (Narrow.BeginsOverlong r.toList → 2 ^ 31 < r.length) ∧
    ∀ k ≤ 8, Narrow.hex 0 k r.toList = .ok (hexFront? k r.toList) := by
  refine ⟨fun c n => unicode?_eq_some_iff, exists_unicode?_iff, unicode?_of_four,
    fun high low => pairValue_bounds, fun c n h => cook_taken (escape_unicode h), ?none,
    fun k n => hexFront?_eq_some_iff, fun c => byte?_eq_some_iff,
    fun c h => cook_taken (escape_byte h), ?noByte, Narrow.unicode_eq_overflow_iff,
    Narrow.unicode_eq, fun h => ?long, fun k hk => Narrow.hex_zero hk r.toList⟩
  case none =>
    intro unbraced undigited
    have hnone : unicode? r.toList = none := by
      rw [Option.eq_none_iff_forall_ne_some]
      rintro ⟨c, n⟩ h
      exact (exists_unicode?_iff.mp ⟨c, n, h⟩).elim unbraced undigited
    exact ⟨hnone, cook_untaken (escape_unicode_none hnone)⟩
  case noByte =>
    intro undigited
    have hnone := byte?_eq_none_iff.mpr undigited
    exact ⟨hnone, cook_untaken (escape_byte_none hnone)⟩
  case long =>
    rw [← String.length_toList]
    exact h.lt_length

def zeros (n : ℕ) : String := String.ofList ('\x7b' :: List.replicate n '0' ++ ['\x7d'])

lemma number_zeros (n : ℕ) : number (List.replicate n ⟨0, false⟩) = 0 := by
  induction n with
  | zero => rfl
  | succ n ih => rw [List.replicate_succ', number_append_singleton, ih]; rfl

lemma toList_zeros (n : ℕ) : (zeros n).toList =
    '\x7b' :: ((List.replicate n ⟨0, false⟩).map HexDigit.char ++ ['\x7d']) := by
  rw [zeros, String.toList_ofList, List.map_replicate]
  rfl

lemma beginsBraced_zeros (hn : n ≠ 0) : BeginsBraced (zeros n).toList := by
  refine ⟨List.replicate n ⟨0, false⟩, by simpa using hn, ?_, ?_⟩
  · rw [number_zeros]
    decide
  · rw [toList_zeros]

lemma beginsOverlong_zeros : Narrow.BeginsOverlong (zeros (2 ^ 31)).toList := by
  refine ⟨List.replicate (2 ^ 31) ⟨0, false⟩, List.length_replicate, ?_, ?_⟩
  · rw [number_zeros]
    decide
  · rw [toList_zeros]
    exact List.cons_prefix_cons.mpr ⟨rfl, List.prefix_append _ _⟩

/-- `2 ^ 31` zeros in braces spell a character, and cannot be counted. -/
theorem zeros_overflow :
    BeginsBraced (zeros (2 ^ 31)).toList ∧
      (∃ c n, unicode? (zeros (2 ^ 31)).toList = some (c, n)) ∧
      Narrow.unicode (zeros (2 ^ 31)).toList = .error .overflow := by
  have braced : BeginsBraced (zeros (2 ^ 31)).toList := beginsBraced_zeros (by decide)
  exact ⟨braced, exists_unicode?_iff.mpr (.inl braced),
    Narrow.unicode_of_beginsOverlong beginsOverlong_zeros⟩

end TestScout.Literal
