import TestScout.Proofs.Text.Numeral
import TestScout.Proofs.Toml.Table
import TestScout.Proofs.Toml.Text

/-!
Values in TOML, written and read back: numbers, which could also begin a date, truth values, and
lists, whose items can stand on lines of their own.
-/

namespace TestScout.Toml

open Text (isDigit_toDigits head?_toDigits_ne_zero)

/-! ### Blanks -/

/-- A character that is part of what is said: no blank, no end of a line, and no comment. -/
def Solid (c : Char) : Prop := c ≠ ' ' ∧ c ≠ '\t' ∧ c ≠ '\n' ∧ c ≠ '\r' ∧ c ≠ '#'

instance : DecidablePred Solid := fun _ => inferInstanceAs (Decidable (_ ∧ _))

section Blanks

variable {c : Char} {cs : List Char}

lemma skipBlanks_solid (h : Solid c) : skipBlanks (c :: cs) = c :: cs := by
  rw [skipBlanks, List.dropWhile_cons_of_neg (by simp [h.1, h.2.1])]

lemma skipBlanks_spaces (h : Solid c) (n : Nat) :
    skipBlanks (List.replicate n ' ' ++ c :: cs) = c :: cs := by
  rw [skipBlanks, List.dropWhile_append_of_pos (by simp +contextual [List.mem_replicate])]
  exact skipBlanks_solid h

lemma skipComment_solid (h : Solid c) : skipComment (c :: cs) = c :: cs := by
  rw [skipComment]
  rintro rest heq
  exact h.2.2.2.2 (List.cons.inj heq).1

lemma newLine?_solid (h : Solid c) : newLine? (c :: cs) = none :=
  newLine?_eq_none h.2.2.1 h.2.2.2.1 cs

lemma endLine?_solid (h : Solid c) : endLine? (c :: cs) = none := by
  simp only [endLine?, skipBlanks_solid h, skipComment_solid h, newLine?_solid h]

lemma skipIdle_solid (h : Solid c) : skipIdle (c :: cs) = c :: cs := by
  simp only [skipIdle, List.length_cons, skipLines, skipBlanks_solid h, skipComment_solid h,
    newLine?_solid h]

lemma skipIdle_newLine (h : Solid c) (n : Nat) :
    skipIdle ('\n' :: (List.replicate n ' ' ++ c :: cs)) = c :: cs := by
  have hline : skipComment (skipBlanks ('\n' :: (List.replicate n ' ' ++ c :: cs))) =
      '\n' :: (List.replicate n ' ' ++ c :: cs) := rfl
  have hbreak : newLine? ('\n' :: (List.replicate n ' ' ++ c :: cs)) =
      some (List.replicate n ' ' ++ c :: cs) := rfl
  have hlength : (List.replicate n ' ' ++ c :: cs).length = n + cs.length + 1 := by
    simp
    omega
  simp only [skipIdle, List.length_cons, skipLines, hline, hbreak, hlength, skipBlanks_spaces h,
    skipComment_solid h, newLine?_solid h]

end Blanks

/-! ### Numbers -/

section Digits

variable {ds rest : List Char}

lemma isAlphanum_toDigits {n : Nat} : ∀ c ∈ Nat.toDigits 10 n, c.isAlphanum = true := by
  intro c hc
  have hdigit : c.isDigit = true := isDigit_toDigits c hc
  simp [Char.isAlphanum, hdigit]

lemma hexValue?_isDigit {c : Char} (h : Text.isDigit c = true) :
    Text.hexValue? c = some (c.toNat - '0'.toNat) := if_pos h

lemma digit_lt {c : Char} (h : Text.isDigit c = true) : c.toNat - '0'.toNat < 10 := by
  simp only [Text.isDigit, Bool.and_eq_true, decide_eq_true_eq] at h
  have hc : c.toNat ≤ '9'.toNat := h.2
  have : '9'.toNat = 57 := rfl
  have : '0'.toNat = 48 := rfl
  omega

lemma wellSeparated_digits {valid : Char → Bool} (hne : ds ≠ []) (h : ∀ c ∈ ds, valid c = true)
    (hd : ∀ c ∈ ds, Text.isDigit c = true) : wellSeparated valid ds = true := by
  induction ds with
  | nil => exact absurd rfl hne
  | cons c ds ih =>
      match ds with
      | [] => simpa [wellSeparated] using h
      | d :: ds =>
          have hd' : d ≠ '_' := by
            rintro rfl
            exact absurd (hd '_' (by simp)) (by decide)
          rw [wellSeparated]
          · rw [h c List.mem_cons_self, Bool.true_and]
            exact ih (by simp) (fun e he => h e (List.mem_cons_of_mem _ he))
              (fun e he => hd e (List.mem_cons_of_mem _ he))
          · simp
          · simp [hd']

lemma foldl_filterMap_digits (hd : ∀ c ∈ ds, Text.isDigit c = true) (init : Nat) :
    (ds.filterMap Text.hexValue?).foldl (fun n d => n * 10 + d) init =
      Nat.ofDigitChars 10 ds init := by
  induction ds generalizing init with
  | nil => rfl
  | cons c ds ih =>
      rw [List.filterMap_cons_some (hexValue?_isDigit (hd c List.mem_cons_self)), List.foldl_cons,
        ih fun e he => hd e (List.mem_cons_of_mem _ he), Nat.ofDigitChars_cons, Nat.mul_comm]

lemma plainValue?_toDigits (n : Nat) : plainValue? (Nat.toDigits 10 n) = some n := by
  have hvalid : ∀ c ∈ Nat.toDigits 10 n, (Text.hexValue? c).any (· < 10) = true := by
    intro c hc
    rw [hexValue?_isDigit (isDigit_toDigits c hc)]
    simpa using digit_lt (isDigit_toDigits c hc)
  have hzero :
      ((Nat.toDigits 10 n).length ≠ 1 && (Nat.toDigits 10 n).head? = some '0') = false := by
    rcases Nat.eq_zero_or_pos n with rfl | hn
    · rfl
    · simp [head?_toDigits_ne_zero hn]
  rw [plainValue?, hzero, if_neg Bool.false_ne_true, digitsValue?,
    if_pos (wellSeparated_digits Nat.toDigits_ne_nil hvalid isDigit_toDigits),
    foldl_filterMap_digits isDigit_toDigits, Nat.ofDigitChars_ten_toDigits]

lemma integer?_toDigits {n : Nat} (h : n < 0x8000000000000000) :
    integer? (Nat.toDigits 10 n) = some (n : Int) := by
  have hd := @isDigit_toDigits n
  have hvalue := plainValue?_toDigits n
  revert hd hvalue
  generalize Nat.toDigits 10 n = ds
  intro hd hvalue
  have hother : ∀ c, Text.isDigit c = false → c ∉ ds := by
    rintro c hc hmem
    rw [hd c hmem] at hc
    exact Bool.false_ne_true hc.symm
  unfold integer?
  split
  · exact absurd (by simp) (hother 'x' (by decide))
  · exact absurd (by simp) (hother 'o' (by decide))
  · exact absurd (by simp) (hother 'b' (by decide))
  · exact absurd (by simp) (hother '-' (by decide))
  · exact absurd (by simp) (hother '+' (by decide))
  · rw [hvalue]
    simp
    omega

lemma after?_digits (hd : ∀ c ∈ ds, Text.isDigit c = true) (hrest : Ends rest) {c : Char}
    (hc : c = '-' ∨ c = ':') : after? c (ds ++ rest) = none := by
  match ds with
  | [] =>
      obtain ⟨e, more, rfl, he⟩ := hrest
      rcases hc with rfl | rfl <;> rcases he with rfl | rfl | rfl <;> rfl
  | d :: ds =>
      have hne : d ≠ c := by
        rintro rfl
        have hdigit := hd d List.mem_cons_self
        rcases hc with rfl | rfl <;> exact absurd hdigit (by decide)
      rw [List.cons_append, after?, if_neg hne]

/-- A field of a date takes digits only, so what it leaves is digits with the end behind them. -/
lemma takeField_digits (hrest : Ends rest) {n low high v : Nat} {r : List Char}
    (h : takeField n low high (ds ++ rest) = some (v, r)) : r = ds.drop n ++ rest := by
  simp only [takeField, Option.ite_none_right_eq_some, Option.some.injEq, Prod.mk.injEq,
    Bool.and_eq_true, decide_eq_true_eq, List.all_eq_true] at h
  obtain ⟨⟨⟨⟨hlength, hall⟩, -⟩, -⟩, -, rfl⟩ := h
  rcases Nat.lt_or_ge ds.length n with hn | hn
  · obtain ⟨e, more, rfl, he⟩ := hrest
    obtain ⟨k, rfl⟩ := Nat.exists_eq_add_of_lt hn
    have hdigit := hall e (by simp [List.take_append, Nat.add_assoc])
    rcases he with rfl | rfl | rfl <;> exact absurd hdigit (by decide)
  · exact List.drop_append_of_le_length hn

lemma takeMoment_digits (hd : ∀ c ∈ ds, Text.isDigit c = true) (hrest : Ends rest) :
    takeMoment (ds ++ rest) = none := by
  have hdrop : ∀ n, ∀ c ∈ ds.drop n, Text.isDigit c = true :=
    fun n c hc => hd c (List.mem_of_mem_drop hc)
  have hdate : skipDate? (ds ++ rest) = none := by
    rw [skipDate?]
    rcases hyear : takeField 4 0 9999 (ds ++ rest) with _ | ⟨year, r⟩
    · rfl
    · obtain rfl := takeField_digits hrest hyear
      simp [after?_digits (hdrop 4) hrest]
  have htime : takeTime (ds ++ rest) = none := by
    rw [takeTime]
    rcases hhour : takeField 2 0 23 (ds ++ rest) with _ | ⟨hour, r⟩
    · rfl
    · obtain rfl := takeField_digits hrest hhour
      simp [after?_digits (hdrop 2) hrest]
  rw [takeMoment, hdate, htime]
  rfl

end Digits

/-! ### Scalars -/

section Scalars

variable {rest : List Char}

/-- What is read as one word ends where the value ends. -/
lemma takeWhile_token {token : List Char} (hrest : Ends rest)
    (htoken : ∀ c ∈ token, c.isAlphanum = true) :
    (token ++ rest).takeWhile
      (fun c => c.isAlphanum || c = '_' || c = '+' || c = '-' || c = '.') = token := by
  obtain ⟨e, more, rfl, he⟩ := hrest
  rw [List.takeWhile_append_of_pos (by simp +contextual [htoken]),
    List.takeWhile_cons_of_neg (by rcases he with rfl | rfl | rfl <;> decide), List.append_nil]

lemma takeScalar_toDigits (hrest : Ends rest) {n : Nat} (h : n < 0x8000000000000000) :
    takeScalar (Nat.toDigits 10 n ++ rest) = some (.int n, rest) := by
  have hword : ∀ word, 't' ∈ word ∨ 'f' ∈ word → Nat.toDigits 10 n ≠ word := by
    rintro _ hmem rfl
    rcases hmem with hmem | hmem <;> exact absurd (isDigit_toDigits _ hmem) (by decide)
  have htrue : Nat.toDigits 10 n ≠ "true".toList := hword _ (by decide)
  have hfalse : Nat.toDigits 10 n ≠ "false".toList := hword _ (by decide)
  simp only [takeScalar, takeMoment_digits isDigit_toDigits hrest,
    takeWhile_token hrest isAlphanum_toDigits, List.drop_left, htrue, hfalse, if_false,
    integer?_toDigits h]

lemma isAlphanum_bool (b : Bool) : ∀ c ∈ (Item.bool b).chars, c.isAlphanum = true := by
  cases b
  · exact List.all_eq_true.mp rfl
  · exact List.all_eq_true.mp rfl

lemma takeScalar_bool (hrest : Ends rest) (b : Bool) :
    takeScalar ((Item.bool b).chars ++ rest) = some (.bool b, rest) := by
  have hmoment : takeMoment ((Item.bool b).chars ++ rest) = none := by cases b <;> rfl
  simp only [takeScalar, hmoment, takeWhile_token hrest (isAlphanum_bool b), List.drop_left]
  cases b
  · rw [if_neg (by decide)]
    exact if_pos rfl
  · exact if_pos rfl

end Scalars

/-! ### Lists -/

section Lists

variable {rest : List Char} (fuel depth : Nat)

lemma textChars_solid (cs : List Char) : ∃ q more, textChars cs = q :: more ∧ Solid q := by
  obtain ⟨q, more, heq, hq⟩ := textChars_eq_cons cs
  exact ⟨q, more, heq, by rcases hq with rfl | rfl <;> decide⟩

lemma takeValue_text (hrest : Ends rest) (s : String) :
    takeValue (fuel + 1) depth (textChars s.toList ++ rest) = some (.str s, rest) := by
  have htext := @takeText_textChars s.toList rest hrest
  obtain ⟨q, more, heq, hq⟩ := textChars_eq_cons s.toList
  rw [heq, List.cons_append] at htext ⊢
  rcases hq with rfl | rfl <;> simp [takeValue, htext]

lemma takeItems_close (acc : List Value) :
    takeItems (fuel + 1) depth acc (']' :: rest) = some (.arr acc.reverse, rest) := by
  simp [takeItems]

lemma textChars_ne_close (cs more : List Char) : textChars cs ++ rest ≠ ']' :: more := by
  obtain ⟨q, body, heq, hq⟩ := textChars_eq_cons cs
  rw [heq]
  rcases hq with rfl | rfl <;> simp

lemma takeItems_next (acc : List Value) (s : String) :
    takeItems (fuel + 2) depth acc (textChars s.toList ++ ',' :: rest) =
      takeItems (fuel + 1) depth (.str s :: acc) (skipIdle rest) := by
  have hvalue := takeValue_text fuel depth ⟨',', rest, rfl, by simp⟩ s
  rw [takeItems]
  · simp only [hvalue, skipIdle_solid (show Solid ',' by decide)]
  · exact fun more => textChars_ne_close s.toList more

lemma takeItems_last (acc : List Value) (s : String) :
    takeItems (fuel + 2) depth acc (textChars s.toList ++ ']' :: rest) =
      some (.arr (.str s :: acc).reverse, rest) := by
  have hvalue := takeValue_text fuel depth ⟨']', rest, rfl, by simp⟩ s
  rw [takeItems]
  · simp only [hvalue, skipIdle_solid (show Solid ']' by decide)]
  · exact fun more => textChars_ne_close s.toList more

def itemLines (items : List String) : List Char :=
  items.flatMap fun s => "    ".toList ++ textChars s.toList ++ [',', '\n']

lemma takeItems_lines {items : List String} {acc : List Value} {fuel : Nat}
    (h : items.length < fuel) :
    takeItems fuel depth acc (skipIdle ('\n' :: (itemLines items ++ ']' :: rest))) =
      some (.arr (acc.reverse ++ items.map .str), rest) := by
  induction items generalizing acc fuel with
  | nil =>
      obtain ⟨fuel, rfl⟩ := Nat.exists_eq_add_of_lt h
      rw [itemLines, List.flatMap_nil, List.nil_append,
        show '\n' :: ']' :: rest = '\n' :: (List.replicate 0 ' ' ++ ']' :: rest) from rfl,
        skipIdle_newLine (by decide)]
      simp [takeItems_close]
  | cons s items ih =>
      obtain ⟨fuel, rfl⟩ : ∃ n, fuel = n + 2 := ⟨fuel - 2, by simp at h; omega⟩
      obtain ⟨q, more, heq, hsolid⟩ := textChars_solid s.toList
      have hline : itemLines (s :: items) ++ ']' :: rest =
          List.replicate 4 ' ' ++
            (textChars s.toList ++ ',' :: '\n' :: (itemLines items ++ ']' :: rest)) := by
        simp [itemLines, List.replicate]
      rw [hline, heq, List.cons_append, skipIdle_newLine hsolid, ← List.cons_append, ← heq,
        takeItems_next, ih (by simp at h ⊢; omega)]
      simp

lemma listChars_lines (s t : String) (items : List String) :
    listChars (s :: t :: items) = '[' :: '\n' :: (itemLines (s :: t :: items) ++ [']']) := rfl

lemma length_itemLines (items : List String) : items.length ≤ (itemLines items).length := by
  induction items with
  | nil => exact Nat.zero_le _
  | cons s items ih =>
      simp only [itemLines, List.flatMap_cons, List.length_append, List.length_cons] at ih ⊢
      omega

lemma takeValue_listChars {items : List String} {fuel : Nat}
    (h : (listChars items).length < fuel) :
    takeValue fuel (depth + 1) (listChars items ++ rest) = some (.arr (items.map .str), rest) := by
  match items with
  | [] =>
      obtain ⟨fuel, rfl⟩ : ∃ n, fuel = n + 2 := ⟨fuel - 2, by simp [listChars] at h; omega⟩
      simp [listChars, takeValue, skipIdle_solid (show Solid ']' by decide), takeItems_close]
  | [s] =>
      obtain ⟨fuel, rfl⟩ : ∃ n, fuel = n + 3 := ⟨fuel - 3, by simp [listChars] at h; omega⟩
      obtain ⟨q, more, heq, hsolid⟩ := textChars_solid s.toList
      have hopen : skipIdle (textChars s.toList ++ ']' :: rest) =
          textChars s.toList ++ ']' :: rest := by
        rw [heq, List.cons_append, skipIdle_solid hsolid]
      simp [listChars, takeValue, hopen, takeItems_last]
  | s :: t :: items =>
      rw [listChars_lines] at h ⊢
      obtain ⟨fuel, rfl⟩ : ∃ n, fuel = n + 1 := ⟨fuel - 1, by omega⟩
      have hlength := length_itemLines (s :: t :: items)
      simp only [List.length_cons, List.length_append] at h hlength
      have hitems := @takeItems_lines rest depth (s :: t :: items) [] fuel (by simp; omega)
      simp [takeValue, hitems]

end Lists

/-! ### Items -/

/-- What begins neither with quotes nor with a bracket is read as a scalar. -/
lemma takeValue_scalar {token : List Char} (hne : token ≠ [])
    (htoken : ∀ c ∈ token, c.isAlphanum = true) (fuel depth : Nat) (rest : List Char) :
    takeValue (fuel + 1) depth (token ++ rest) = takeScalar (token ++ rest) := by
  rw [takeValue]
  · exact fun more => append_ne_cons hne htoken (by decide)
  · exact fun more => append_ne_cons hne htoken (by decide)
  · exact fun more => append_ne_cons hne htoken (by decide)
  · exact fun more => append_ne_cons hne htoken (by decide)

/-- The item can be written: a number has to be in the range of integers. -/
def Item.Fits : Item → Prop
  | .nat n => n < 0x8000000000000000
  | _ => True

@[simp] lemma Item.fits_text (s : String) : (Item.text s).Fits := trivial

@[simp] lemma Item.fits_nat {n : Nat} : (Item.nat n).Fits ↔ n < 0x8000000000000000 := Iff.rfl

@[simp] lemma Item.fits_bool (b : Bool) : (Item.bool b).Fits := trivial

@[simp] lemma Item.fits_texts (items : List String) : (Item.texts items).Fits := trivial

/-- **An item is read back as the value it stands for.** -/
theorem takeValue_chars {item : Item} (hitem : item.Fits) {rest : List Char} (hrest : Ends rest)
    (depth : Nat) {fuel : Nat} (h : item.chars.length < fuel) :
    takeValue fuel (depth + 1) (item.chars ++ rest) = some (item.value, rest) := by
  obtain ⟨fuel, rfl⟩ : ∃ n, fuel = n + 1 := ⟨fuel - 1, by omega⟩
  match item with
  | .text s => exact takeValue_text fuel _ hrest s
  | .nat n =>
      refine (takeValue_scalar Nat.toDigits_ne_nil isAlphanum_toDigits fuel _ rest).trans ?_
      exact takeScalar_toDigits hrest hitem
  | .bool b =>
      have hne : (Item.bool b).chars ≠ [] := by cases b <;> decide
      refine (takeValue_scalar hne (isAlphanum_bool b) fuel _ rest).trans ?_
      exact takeScalar_bool hrest b
  | .texts items => exact takeValue_listChars depth h

end TestScout.Toml
