import TestScout.Proofs.Literal.NumericEscape

/-!
Escapes read in words of thirty-two bits. Numbers of digits are computed in words, digit by digit;
where a number of any length may come, every product and every sum is checked, and everywhere else
one that did not fit would be a fault. What is read is what the digits spell: four digits fit with
room to spare, and since a number only grows as digits are added to it, one that is refused on the
way would not have spelled a character in the end. Only the count of the digits in braces is not
checked, and it is kept in a word with a sign: as long as the number does not grow, because the
digits are zeros, it is at fault with the digit number `2 ^ 31`, and nowhere else is there a fault.
-/

namespace TestScout.Literal.Narrow

open Text

inductive Overflow
  | overflow

/-- A number in a word. -/
def word (n : ℕ) : Except Overflow ℕ := if n < 2 ^ 32 then .ok n else .error .overflow

def difference (a b : ℕ) : Except Overflow ℕ := if b ≤ a then .ok (a - b) else .error .overflow

/-- A number in a word, if it fits. -/
def word? (n : ℕ) : Option ℕ := if n < 2 ^ 32 then some n else none

/-- A count in a word with a sign. -/
def count (n : ℕ) : Except Overflow ℕ := if n < 2 ^ 31 then .ok n else .error .overflow

lemma word_of_lt {n : ℕ} (h : n < 2 ^ 32) : word n = .ok n := if_pos h

lemma difference_of_le {a b : ℕ} (h : b ≤ a) : difference a b = .ok (a - b) := if_pos h

lemma word?_of_lt {n : ℕ} (h : n < 2 ^ 32) : word? n = some n := if_pos h

lemma word?_of_ge {n : ℕ} (h : 2 ^ 32 ≤ n) : word? n = none := if_neg (Nat.not_lt.mpr h)

lemma count_of_lt {n : ℕ} (h : n < 2 ^ 31) : count n = .ok n := if_pos h

lemma count_of_ge {n : ℕ} (h : 2 ^ 31 ≤ n) : count n = .error .overflow :=
  if_neg (Nat.not_lt.mpr h)

lemma bind_ok {α β : Type} (a : α) (f : α → Except Overflow β) : (Except.ok a >>= f) = f a := rfl

/-- Puts `k` digits after a number. -/
def hex (n : ℕ) : ℕ → List Char → Except Overflow (Option ℕ)
  | 0, _ => .ok (some n)
  | k + 1, cs => do
    let shifted ← word (n * 16)
    match cs with
    | [] => return none
    | c :: rest =>
      match hexValue? c with
      | none => return none
      | some d =>
        let next ← word (shifted + d)
        hex next k rest

/-- Puts digits after a number, up to a closing brace, and counts them. -/
def braces (n m : ℕ) : List Char → Except Overflow (Option (ℕ × ℕ))
  | [] => .ok none
  | c :: rest =>
    if c = '\x7d' then .ok (some (n, m))
    else
      match do word? ((← word? (n * 16)) + (← hexValue? c)) with
      | none => .ok none
      | some next => do
        let more ← count (m + 1)
        braces next more rest

def pair (high low : ℕ) : Except Overflow ℕ := do
  let above ← word ((← difference high 0xD800) * 0x400)
  let base ← word (0x10000 + above)
  word (base + (← difference low 0xDC00))

/-- The character of what follows `\u`, and the length of that. -/
def unicode : List Char → Except Overflow (Option (Char × ℕ))
  | '\x7b' :: cs => do
    match ← braces 0 0 cs with
    | none => return none
    | some (n, m) => return if m = 0 then none else (charOf? n).map fun c => (c, m + 2)
  | cs => do
    match ← hex 0 4 cs with
    | none => return none
    | some high =>
      if isHighUnit high then
        match cs.drop 4 with
        | '\\' :: 'u' :: rest =>
          match (← hex 0 4 rest).filter isLowUnit with
          | none => return some ('\uFFFD', 4)
          | some low => return (charOf? (← pair high low)).map fun c => (c, 10)
        | _ => return some ('\uFFFD', 4)
      else return some ((charOf? high).getD '\uFFFD', 4)

/-! ### Digits of a fixed number -/

def push (n : ℕ) (c : Char) : Option ℕ := (hexValue? c).map (n * 16 + ·)

lemma hexValue?_lt {c : Char} {d : ℕ} (h : hexValue? c = some d) : d < 16 := by
  obtain ⟨digit, -, rfl⟩ := exists_char_of_hexValue? h
  exact digit.value.isLt

lemma hex_eq {n j k : ℕ} (hn : n < 16 ^ j) (hjk : j + k ≤ 8) (cs : List Char) :
    hex n k cs = .ok (if k ≤ cs.length then (cs.take k).foldlM push n else none) := by
  induction k generalizing n j cs with
  | zero => rfl
  | succ k ih =>
      have hroom : 16 ^ j * 16 ≤ 2 ^ 32 := by
        rw [← pow_succ]
        exact (Nat.pow_le_pow_right (by decide) (by omega : j + 1 ≤ 8))
      have hshift : word (n * 16) = .ok (n * 16) := word_of_lt (by omega)
      cases cs with
      | nil => rw [hex, hshift]; rfl
      | cons c rest =>
          rw [hex, hshift]
          cases hc : hexValue? c with
          | none => simp [hc, push, bind, Except.bind, pure, Except.pure]
          | some d =>
              have hd := hexValue?_lt hc
              have hnext : n * 16 + d < 16 ^ (j + 1) := by
                rw [pow_succ]
                omega
              have hword : word (n * 16 + d) = .ok (n * 16 + d) := word_of_lt (by omega)
              have hrest := ih hnext (by omega) rest
              simp [hc, hword, hrest, push, bind, Except.bind]

lemma hex_zero {k : ℕ} (hk : k ≤ 8) (cs : List Char) : hex 0 k cs = .ok (hexFront? k cs) :=
  hex_eq (j := 0) (by decide) (by omega) cs

/-! ### Digits in braces -/

lemma le_of_foldlM_push {n v : ℕ} {cs : List Char} (h : cs.foldlM push n = some v) : n ≤ v := by
  induction cs generalizing n with
  | nil => exact le_of_eq (Option.some.inj h)
  | cons c cs ih =>
      rw [List.foldlM_cons] at h
      obtain ⟨m, hm, hv⟩ := Option.bind_eq_some_iff.mp h
      obtain ⟨d, -, rfl⟩ := Option.map_eq_some_iff.mp hm
      have hle := ih hv
      omega

def digits (cs : List Char) : List Char := cs.takeWhile fun c => (hexValue? c).isSome

/-- What the digits at the front spell after a number, if a brace closes them and it fits. -/
def closed? (n m : ℕ) (cs : List Char) : Option (ℕ × ℕ) :=
  if (cs.drop (digits cs).length).head? = some '\x7d' then
    (((digits cs).foldlM push n).bind word?).map fun v => (v, m + (digits cs).length)
  else none

lemma closed?_nil (n m : ℕ) : closed? n m [] = none := rfl

lemma closed?_brace {n : ℕ} (hn : n < 2 ^ 32) (m : ℕ) (rest : List Char) :
    closed? n m ('\x7d' :: rest) = some (n, m) := by
  have hdigits : digits ('\x7d' :: rest) = [] := rfl
  simp [closed?, hdigits, word?_of_lt hn]

lemma closed?_other {c : Char} (hc : hexValue? c = none) (hne : c ≠ '\x7d') (n m : ℕ)
    (rest : List Char) : closed? n m (c :: rest) = none := by
  have hdigits : digits (c :: rest) = [] := by simp [digits, hc]
  simp [closed?, hdigits, hne]

lemma closed?_digit {c : Char} {d : ℕ} (hc : hexValue? c = some d) (n m : ℕ) (rest : List Char) :
    closed? n m (c :: rest) = closed? (n * 16 + d) (m + 1) rest := by
  have hdigits : digits (c :: rest) = c :: digits rest := by simp [digits, hc]
  simp [closed?, hdigits, push, hc, Nat.add_assoc, Nat.add_comm 1]

lemma closed?_of_ge {n : ℕ} (hn : 2 ^ 32 ≤ n) (m : ℕ) (rest : List Char) :
    closed? n m rest = none := by
  unfold closed?
  split
  · cases h : (digits rest).foldlM push n with
    | none => rfl
    | some v =>
        have hle := le_of_foldlM_push h
        rw [Option.bind_some, word?_of_ge (hn.trans hle)]
        rfl
  · rfl

/-- To check the product on the way to the sum refuses nothing that the sum alone would not. -/
lemma word?_push (n : ℕ) (c : Char) :
    (do word? ((← word? (n * 16)) + (← hexValue? c))) = (push n c).bind word? := by
  cases hc : hexValue? c with
  | none => simp [push, hc]
  | some d =>
      by_cases hshift : n * 16 < 2 ^ 32
      · simp [push, hc, word?_of_lt hshift]
      · have hword : word? (n * 16) = none := word?_of_ge (Nat.not_lt.mp hshift)
        have hsum : word? (n * 16 + d) = none := word?_of_ge (by omega)
        simp [push, hc, hword, hsum]

lemma braces_digit {c : Char} {d : ℕ} (hc : hexValue? c = some d) (n m : ℕ) (rest : List Char) :
    braces n m (c :: rest) =
      if n * 16 + d < 2 ^ 32 then
        if m + 1 < 2 ^ 31 then braces (n * 16 + d) (m + 1) rest else .error .overflow
      else .ok none := by
  have hbrace : c ≠ '\x7d' := by
    rintro rfl
    cases hc
  rw [braces, if_neg hbrace, word?_push, push, hc, Option.map_some, Option.bind_some]
  by_cases hnext : n * 16 + d < 2 ^ 32
  · rw [if_pos hnext, word?_of_lt hnext]
    by_cases hcount : m + 1 < 2 ^ 31
    · rw [if_pos hcount, count_of_lt hcount]
      rfl
    · rw [if_neg hcount, count_of_ge (Nat.not_lt.mp hcount)]
      rfl
  · rw [if_neg hnext, word?_of_ge (Nat.not_lt.mp hnext)]

/-- The number that digits after a number spell with it. -/
def after (n : ℕ) (ds : List HexDigit) : ℕ := ds.foldl (fun n d => n * 16 + d.value) n

lemma after_zero (ds : List HexDigit) : after 0 ds = number ds := by
  induction ds using List.reverseRecOn with
  | nil => rfl
  | append_singleton ds d ih =>
      rw [number_append_singleton, ← ih, after, after, List.foldl_append]
      rfl

lemma le_after (n : ℕ) (ds : List HexDigit) : n ≤ after n ds := by
  induction ds generalizing n with
  | nil => exact le_rfl
  | cons d ds ih =>
      have hle := ih (n * 16 + d.value)
      rw [after, List.foldl_cons, ← after]
      omega

/-- With `m` digits counted and `n` spelled, there are as many more as make the count overflow, and
the number still fits after them. -/
def Overlong (n m : ℕ) (cs : List Char) : Prop :=
  ∃ ds : List HexDigit, m + ds.length = 2 ^ 31 ∧ after n ds < 2 ^ 32 ∧
    ds.map HexDigit.char <+: cs

lemma braces_of_overlong {n m : ℕ} {cs : List Char} (hm : m < 2 ^ 31) (h : Overlong n m cs) :
    braces n m cs = .error .overflow := by
  obtain ⟨ds, hlength, hafter, rest, rfl⟩ := h
  induction ds generalizing n m with
  | nil => exact absurd hlength (Nat.ne_of_lt hm)
  | cons d ds ih =>
      have hle : n * 16 + d.value ≤ after n (d :: ds) := le_after _ ds
      rw [List.length_cons] at hlength
      rw [List.map_cons, List.cons_append, braces_digit (hexValue?_char d), if_pos (by omega)]
      split
      · next hcount => exact ih hcount (by omega) hafter
      · rfl

lemma braces_eq {n m : ℕ} {cs : List Char} (hn : n < 2 ^ 32) (hm : m < 2 ^ 31)
    (h : ¬ Overlong n m cs) : braces n m cs = .ok (closed? n m cs) := by
  induction cs generalizing n m with
  | nil => rw [braces, closed?_nil]
  | cons c rest ih =>
      cases hc : hexValue? c with
      | none =>
          rw [braces]
          by_cases hbrace : c = '\x7d'
          · rw [if_pos hbrace, hbrace, closed?_brace hn]
          · rw [if_neg hbrace, word?_push, push, hc, closed?_other hc hbrace]
            rfl
      | some d =>
          obtain ⟨digit, rfl, rfl⟩ := exists_char_of_hexValue? hc
          rw [braces_digit hc, closed?_digit hc]
          split
          · next hnext =>
            -- the count has not reached its end: this digit would have been the one too many
            have hcount : m + 1 < 2 ^ 31 := by
              by_contra hfull
              exact h ⟨[digit], by rw [List.length_singleton]; omega, hnext,
                List.prefix_append [digit.char] rest⟩
            rw [if_pos hcount]
            refine ih hnext hcount ?_
            rintro ⟨ds, hlength, hafter, hprefix⟩
            exact h ⟨digit :: ds, by rw [List.length_cons]; omega, hafter,
              List.cons_prefix_cons.mpr ⟨rfl, hprefix⟩⟩
          · next hnext => rw [closed?_of_ge (Nat.not_lt.mp hnext)]

lemma charOf?_of_ge {n : ℕ} (hn : 2 ^ 32 ≤ n) : charOf? n = none := by
  refine if_neg ?_
  rintro (h | h) <;> omega

/-- Only a number that fits spells a character, so braces are read as ever. -/
lemma braced?_eq (cs : List Char) :
    braced? cs = (closed? 0 0 cs).bind fun v =>
      if v.2 = 0 then none else (charOf? v.1).map fun c => (c, v.2 + 2) := by
  have hnumber : hexNumber? (digits cs) = (digits cs).foldlM push 0 := rfl
  unfold braced? closed?
  dsimp only
  rw [← digits, hnumber]
  by_cases hclosed : (cs.drop (digits cs).length).head? = some '\x7d'
  · rw [if_pos hclosed]
    cases hfold : (digits cs).foldlM push 0 with
    | none => simp
    | some n =>
        by_cases hn : n < 2 ^ 32
        · simp only [hclosed, ne_eq, not_true_eq_false, decide_false, Bool.or_false]
          simp [word?_of_lt hn, Option.map_eq_bind]
        · have hge := Nat.not_lt.mp hn
          simp [word?_of_ge hge, charOf?_of_ge hge]
  · rw [if_neg hclosed, if_pos (by rw [decide_eq_true hclosed, Bool.or_true])]
    rfl

/-! ### Escapes -/

lemma pair_eq {high low : ℕ} (begins : isHighUnit high = true) (ends : isLowUnit low = true) :
    pair high low = .ok (pairValue high low) := by
  rw [isHighUnit_iff] at begins
  rw [isLowUnit_iff] at ends
  have habove : word ((high - 0xD800) * 0x400) = .ok ((high - 0xD800) * 0x400) :=
    word_of_lt (by omega)
  have hbase : word (0x10000 + (high - 0xD800) * 0x400) =
      .ok (0x10000 + (high - 0xD800) * 0x400) := word_of_lt (by omega)
  have hsum : word (0x10000 + (high - 0xD800) * 0x400 + (low - 0xDC00)) =
      .ok (0x10000 + (high - 0xD800) * 0x400 + (low - 0xDC00)) := word_of_lt (by omega)
  unfold pairValue
  rw [pair, difference_of_le begins.1, bind_ok, habove, bind_ok, hbase, bind_ok,
    difference_of_le ends.1, bind_ok, hsum]

lemma lowEscape?_of_not {cs : List Char} (h : ∀ rest, cs ≠ '\\' :: 'u' :: rest) :
    lowEscape? cs = none := by
  unfold lowEscape?
  split
  · next rest => exact absurd rfl (h rest)
  · rfl

lemma fourDigits_eq {cs : List Char} (hbrace : ∀ rest, cs ≠ '\x7b' :: rest) :
    unicode cs = .ok (fourDigits? cs) := by
  unfold unicode fourDigits?
  split
  · next rest => exact absurd rfl (hbrace rest)
  · rw [hex_zero (by decide)]
    cases hhigh : hexFront? 4 cs with
    | none => rfl
    | some high =>
        simp only [bind, Except.bind, Option.bind]
        by_cases begins : isHighUnit high = true
        · rw [if_pos begins, if_pos begins]
          split
          · next rest hrest =>
            have hlowEscape : lowEscape? (cs.drop 4) = (hexFront? 4 rest).filter isLowUnit := by
              rw [hrest, lowEscape?]
            rw [hex_zero (by decide), hlowEscape]
            cases hlow : (hexFront? 4 rest).filter isLowUnit with
            | none => simp only [hlow]; rfl
            | some low =>
                have ends := (Option.filter_eq_some_iff.mp hlow).2
                have hvalid := isValidChar_pairValue begins ends
                simp only [hlow, pair_eq begins ends, charOf?_of_isValidChar hvalid,
                  ofNat_eq_coded hvalid]
                rfl
          · next hnot => rw [lowEscape?_of_not hnot]; rfl
        · rw [if_neg begins, if_neg begins]
          rfl

/-- A text begins with an opening brace and `2 ^ 31` digits, most of them zeros, whose number fits
into a word. -/
def BeginsOverlong (cs : List Char) : Prop :=
  ∃ ds : List HexDigit, ds.length = 2 ^ 31 ∧ number ds < 2 ^ 32 ∧
    '\x7b' :: ds.map HexDigit.char <+: cs

lemma beginsOverlong_cons_iff {cs : List Char} :
    BeginsOverlong ('\x7b' :: cs) ↔ Overlong 0 0 cs := by
  simp [BeginsOverlong, Overlong, after_zero, List.cons_prefix_cons]

/-- **The fault**: so many digits cannot be counted. -/
theorem unicode_of_beginsOverlong {cs : List Char} (h : BeginsOverlong cs) :
    unicode cs = .error .overflow := by
  obtain ⟨rest, rfl⟩ : ∃ rest, cs = '\x7b' :: rest := by
    obtain ⟨ds, -, -, rest, rfl⟩ := h
    exact ⟨_, List.cons_append⟩
  rw [unicode, braces_of_overlong (by decide) (beginsOverlong_cons_iff.mp h)]
  rfl

/-- **No other fault**: in any other text, words of thirty-two bits are enough to read an escape. -/
theorem unicode_eq {cs : List Char} (h : ¬ BeginsOverlong cs) : unicode cs = .ok (unicode? cs) := by
  by_cases hbrace : ∃ rest, cs = '\x7b' :: rest
  · obtain ⟨rest, rfl⟩ := hbrace
    have hbraced : unicode? ('\x7b' :: rest) = braced? rest := rfl
    rw [unicode, braces_eq (by decide) (by decide) (mt beginsOverlong_cons_iff.mpr h), hbraced,
      braced?_eq]
    cases closed? 0 0 rest <;> rfl
  · push Not at hbrace
    have hdigits : unicode? cs = fourDigits? cs := by
      unfold unicode?
      split
      · next rest => exact absurd rfl (hbrace rest)
      · rfl
    rw [hdigits, fourDigits_eq hbrace]

theorem unicode_eq_overflow_iff {cs : List Char} :
    unicode cs = .error .overflow ↔ BeginsOverlong cs := by
  refine ⟨fun h => ?_, unicode_of_beginsOverlong⟩
  by_contra hnot
  rw [unicode_eq hnot] at h
  cases h

lemma BeginsOverlong.lt_length {cs : List Char} (h : BeginsOverlong cs) : 2 ^ 31 < cs.length := by
  obtain ⟨ds, hlength, -, hprefix⟩ := h
  have hle := hprefix.length_le
  rw [List.length_cons, List.length_map, hlength] at hle
  exact hle

/-- More digits than a word has, most of them zeros. -/
example : unicode "\x7b000000041\x7d".toList = .ok (some ('A', 11)) := by rfl

end TestScout.Literal.Narrow
