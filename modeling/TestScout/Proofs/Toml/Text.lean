import Mathlib.Tactic.Lemma
import TestScout.Toml.Reader

/-!
Texts in TOML, written and read back. A text in quotes can hold anything, since what cannot stand
there as it is gets escaped, on one line or over several; a text in single quotes is taken as it is
written, so it can only hold what does not end it. Over several lines one or two quotes belong to
the text, even before the three that end it, and only three in a row have to be broken up.
-/

namespace TestScout.Toml

open Text (hexNumber? hexFront? charOf?)

/-! ### Characters -/

/-- What comes after a value: the end of its line, or what follows an item of an array. -/
def Ends (rest : List Char) : Prop :=
  ∃ c more, rest = c :: more ∧ (c = '\n' ∨ c = ',' ∨ c = ']')

lemma Ends.ne_cons {rest : List Char} (h : Ends rest) {q : Char} (hq : q = '"' ∨ q = '\'')
    (more : List Char) : rest ≠ q :: more := by
  obtain ⟨c, rest, rfl, hc⟩ := h
  rintro heq
  obtain ⟨rfl, -⟩ := List.cons.inj heq
  rcases hq with rfl | rfl <;> simp at hc

lemma append_ne_cons {p : Char → Bool} {cs rest more : List Char} {q : Char} (hne : cs ≠ [])
    (h : ∀ c ∈ cs, p c = true) (hq : p q = false) : cs ++ rest ≠ q :: more := by
  match cs with
  | [] => exact absurd rfl hne
  | c :: cs =>
      rintro heq
      have hc := h c List.mem_cons_self
      rw [(List.cons.inj heq).1, hq] at hc
      exact Bool.false_ne_true hc

lemma toNat_lt_of_isControl {c : Char} (h : isControl c = true) : c.toNat < 128 := by
  simp only [isControl, Bool.or_eq_true, Bool.and_eq_true, decide_eq_true_eq] at h
  rcases h with ⟨⟨hlt, -⟩, -⟩ | rfl
  · exact Nat.lt_trans (Char.lt_def.mp hlt) (by decide)
  · decide

lemma hexNumber?_upper : ∀ n < 128,
    ((Json.fourHex n).map Char.toUpper).length = 4 ∧
      hexNumber? ((Json.fourHex n).map Char.toUpper) = some n := by
  decide

lemma takeEscape_upper {c : Char} (h : isControl c = true) (rest : List Char) :
    takeEscape ('u' :: (Json.fourHex c.toNat).map Char.toUpper ++ rest) = some (c, rest) := by
  obtain ⟨hlen, hnumber⟩ := hexNumber?_upper c.toNat (toNat_lt_of_isControl h)
  have hchar : charOf? c.toNat = some c := by
    rw [charOf?, if_pos (show c.toNat.isValidChar from c.valid), Char.ofNat_toNat]
  rw [List.cons_append, takeEscape, hexFront?, if_pos (by simp [hlen]), ← hlen, List.take_left,
    List.drop_left, hnumber, Option.bind_some, hchar, Option.map_some]

/-- How a reader sees what a character other than a quote is written as: an escape that stands for
the character, or the character itself, which then has no meaning of its own. -/
lemma escapedChar_cases (multi : Bool) (c : Char) :
    (∃ e, escapedChar multi c = '\\' :: e ∧ ∀ rest, takeEscape (e ++ rest) = some (c, rest)) ∨
    (escapedChar multi c = [c] ∧ c ≠ '\\' ∧ (c = '\n' → multi = true) ∧ isControl c = false) := by
  unfold escapedChar
  split
  · next h => exact Or.inl ⟨['b'], rfl, fun rest => by rw [h]; rfl⟩
  split
  · next h => exact Or.inl ⟨['t'], rfl, fun rest => by rw [h]; rfl⟩
  split
  · next h =>
    subst h
    cases multi
    · exact Or.inl ⟨['n'], rfl, fun rest => rfl⟩
    · exact Or.inr ⟨rfl, by decide, fun _ => rfl, by decide⟩
  split
  · next h => exact Or.inl ⟨['f'], rfl, fun rest => by rw [h]; rfl⟩
  split
  · next h => exact Or.inl ⟨['r'], rfl, fun rest => by rw [h]; rfl⟩
  split
  · next h => exact Or.inl ⟨['\\'], rfl, fun rest => by rw [h]; rfl⟩
  split
  · next h => exact Or.inl ⟨_, rfl, takeEscape_upper h⟩
  · next hnewline _ _ hslash hcontrol =>
    exact Or.inr ⟨rfl, hslash, fun h => absurd h hnewline, by simpa using hcontrol⟩

/-! ### Quoted on one line -/

lemma takeQuoted_escape {fuel : Nat} {acc rest more : List Char} {c : Char}
    (h : takeEscape rest = some (c, more)) :
    takeQuoted (fuel + 1) acc ('\\' :: rest) = takeQuoted fuel (c :: acc) more := by
  simp [takeQuoted, h]

lemma takeQuoted_plain {fuel : Nat} {acc rest : List Char} {c : Char} (hquote : c ≠ '"')
    (hslash : c ≠ '\\') (hnewline : c ≠ '\n') (hcontrol : isControl c = false) :
    takeQuoted (fuel + 1) acc (c :: rest) = takeQuoted fuel (c :: acc) rest := by
  simp [takeQuoted, hnewline, hcontrol]

lemma takeQuoted_body {cs : List Char} (acc rest : List Char) {fuel : Nat}
    (h : (quotedBody false 0 cs).length < fuel) :
    takeQuoted fuel acc (quotedBody false 0 cs ++ '"' :: rest) =
      some (acc.reverse ++ cs, rest) := by
  induction cs generalizing acc fuel with
  | nil =>
      obtain ⟨fuel, rfl⟩ := Nat.exists_eq_add_of_lt h
      simp [quotedBody, takeQuoted]
  | cons c cs ih =>
      obtain ⟨fuel, rfl⟩ : ∃ n, fuel = n + 1 := ⟨fuel - 1, by omega⟩
      rw [quotedBody] at h ⊢
      by_cases hquote : c = '"'
      · subst hquote
        simp only [Bool.false_and, Bool.false_eq_true, if_false, if_true, List.length_cons] at h ⊢
        rw [List.cons_append, List.cons_append, takeQuoted_escape rfl, ih _ (by omega)]
        simp
      · rw [if_neg hquote] at h ⊢
        rw [List.append_assoc]
        rcases escapedChar_cases false c with ⟨e, he, htake⟩ | ⟨he, hslash, hnewline, hcontrol⟩
        · rw [he, List.length_append, List.length_cons] at h
          rw [he, List.cons_append, takeQuoted_escape (htake _), ih _ (by omega)]
          simp
        · rw [he, List.length_append, List.length_singleton] at h
          rw [he, List.singleton_append,
            takeQuoted_plain hquote hslash (fun hn => Bool.false_ne_true (hnewline hn)) hcontrol,
            ih _ (by omega)]
          simp

/-! ### Literal on one line -/

lemma takeLiteral_append {cs : List Char} (h : isLiteral cs = true) (acc rest : List Char) :
    takeLiteral acc (cs ++ '\'' :: rest) = some (acc.reverse ++ cs, rest) := by
  induction cs generalizing acc with
  | nil => simp [takeLiteral]
  | cons c cs ih =>
      simp only [isLiteral, List.all_cons, Bool.and_eq_true, decide_eq_true_eq,
        Bool.not_eq_true'] at h
      obtain ⟨⟨⟨hquote, hnewline⟩, hcontrol⟩, hrest⟩ := h
      have hstep : takeLiteral acc (c :: (cs ++ '\'' :: rest)) =
          takeLiteral (c :: acc) (cs ++ '\'' :: rest) := by
        simp [takeLiteral, hnewline, hcontrol]
      rw [List.cons_append, hstep, ih hrest]
      simp

/-! ### Quoted over several lines -/

lemma takeQuotedLines_escape {fuel : Nat} {acc rest more : List Char} {c : Char}
    (h : takeEscape rest = some (c, more)) :
    takeQuotedLines (fuel + 1) acc ('\\' :: rest) = takeQuotedLines fuel (c :: acc) more := by
  simp [takeQuotedLines, h]

lemma takeQuotedLines_plain {fuel : Nat} {acc rest : List Char} {c : Char} (hquote : c ≠ '"')
    (hslash : c ≠ '\\') (hcontrol : isControl c = false) :
    takeQuotedLines (fuel + 1) acc (c :: rest) = takeQuotedLines fuel (c :: acc) rest := by
  have hreturn : c ≠ '\r' := by rintro rfl; exact absurd hcontrol (by decide)
  simp [takeQuotedLines, hquote, hreturn, hcontrol]

/-- A quote belongs to the text unless two more follow. -/
lemma takeQuotedLines_quote {fuel : Nat} {acc rest : List Char}
    (h : ∀ more, rest ≠ '"' :: '"' :: more) :
    takeQuotedLines (fuel + 1) acc ('"' :: rest) = takeQuotedLines fuel ('"' :: acc) rest := by
  rw [takeQuotedLines] <;> simp_all

lemma escapedChar_ne_quote {multi : Bool} {c : Char} (h : c ≠ '"') (rest more : List Char) :
    escapedChar multi c ++ rest ≠ '"' :: more := by
  rcases escapedChar_cases multi c with ⟨e, he, -⟩ | ⟨he, -⟩ <;> simp [he, h]

/-- After two quotes, what is written has another one in front only where the text has ended. -/
lemma quotedBody_eq_quote {q : Nat} (hq : 2 ≤ q) {cs rest more : List Char}
    (h : quotedBody true q cs ++ rest = '"' :: more) : cs = [] := by
  match cs with
  | [] => rfl
  | c :: cs =>
      rw [quotedBody] at h
      split at h
      · simp [Nat.not_lt.mpr hq] at h
      · next hquote =>
        rw [List.append_assoc] at h
        exact absurd h (escapedChar_ne_quote hquote _ _)

/-- After a quote, what is written has two quotes in front only where the text is about to end. -/
lemma quotedBody_eq_quotes {q : Nat} (hq : 1 ≤ q) {cs rest more : List Char}
    (h : quotedBody true q cs ++ rest = '"' :: '"' :: more) :
    cs = [] ∨ (q = 1 ∧ cs = ['"']) := by
  rcases Nat.eq_or_lt_of_le hq with rfl | hq
  · match cs with
    | [] => exact Or.inl rfl
    | c :: cs =>
        rw [quotedBody] at h
        split at h
        · next hquote =>
          simp only [Bool.true_and, decide_eq_true_eq, show (1 : Nat) < 2 by decide, if_true,
            List.cons_append, List.cons.injEq, true_and] at h
          exact Or.inr ⟨rfl, by rw [hquote, quotedBody_eq_quote (Nat.le_refl 2) h]⟩
        · next hquote =>
          rw [List.append_assoc] at h
          exact absurd h (escapedChar_ne_quote hquote _ _)
  · exact Or.inl (quotedBody_eq_quote hq h)

/-- What is written in quotes over several lines is read back, whatever it is. -/
lemma takeQuotedLines_body {cs rest : List Char} (hrest : ∀ more, rest ≠ '"' :: more) (q : Nat)
    (acc : List Char) {fuel : Nat} (h : (quotedBody true q cs).length < fuel) :
    takeQuotedLines fuel acc (quotedBody true q cs ++ '"' :: '"' :: '"' :: rest) =
      some (acc.reverse ++ cs, rest) := by
  induction cs generalizing q acc fuel with
  | nil =>
      obtain ⟨fuel, rfl⟩ := Nat.exists_eq_add_of_lt h
      rw [quotedBody, List.nil_append, takeQuotedLines] <;> simp_all
  | cons c cs ih =>
      obtain ⟨fuel, rfl⟩ : ∃ n, fuel = n + 1 := ⟨fuel - 1, by omega⟩
      rw [quotedBody] at h ⊢
      by_cases hquote : c = '"'
      · subst hquote
        rw [if_pos rfl] at h ⊢
        split at h
        · next hq =>
          rw [if_pos hq, List.cons_append]
          by_cases htwo : ∀ more,
              quotedBody true (q + 1) cs ++ '"' :: '"' :: '"' :: rest ≠ '"' :: '"' :: more
          · rw [takeQuotedLines_quote htwo, ih _ _ (by simpa using h)]
            simp
          · -- the text ends here, in one quote or two that stand before the three
            simp only [Classical.not_forall, Decidable.not_not] at htwo
            obtain ⟨more, htwo⟩ := htwo
            rcases quotedBody_eq_quotes (by omega) htwo with rfl | ⟨hq', rfl⟩
            · rw [quotedBody, List.nil_append, takeQuotedLines] <;> simp_all
            · obtain rfl : q = 0 := by omega
              simp [quotedBody, takeQuotedLines]
        · next hq =>
          rw [if_neg hq, List.cons_append, List.cons_append, takeQuotedLines_escape rfl,
            ih _ _ (by simp at h; omega)]
          simp
      · rw [if_neg hquote] at h ⊢
        rw [List.append_assoc]
        rcases escapedChar_cases true c with ⟨e, he, htake⟩ | ⟨he, hslash, -, hcontrol⟩
        · rw [he, List.length_append, List.length_cons] at h
          rw [he, List.cons_append, takeQuotedLines_escape (htake _), ih _ _ (by omega)]
          simp
        · rw [he, List.length_append, List.length_singleton] at h
          rw [he, List.singleton_append, takeQuotedLines_plain hquote hslash hcontrol,
            ih _ _ (by omega)]
          simp

/-! ### Literal over several lines -/

lemma takeLiteralLines_quote {acc rest : List Char} (h : ∀ more, rest ≠ '\'' :: '\'' :: more) :
    takeLiteralLines acc ('\'' :: rest) = takeLiteralLines ('\'' :: acc) rest := by
  rw [takeLiteralLines] <;> simp_all [isControl]

lemma takeLiteralLines_plain {acc rest : List Char} {c : Char} (hquote : c ≠ '\'')
    (hcontrol : isControl c = false) :
    takeLiteralLines acc (c :: rest) = takeLiteralLines (c :: acc) rest := by
  have hreturn : c ≠ '\r' := by rintro rfl; exact absurd hcontrol (by decide)
  rw [takeLiteralLines] <;> simp_all

lemma takeLiteralLines_append {cs rest : List Char} (hrest : ∀ more, rest ≠ '\'' :: more)
    (hcontrol : ∀ c ∈ cs, isControl c = false) (hrun : hasRun '\'' cs = false)
    (acc : List Char) :
    takeLiteralLines acc (cs ++ '\'' :: '\'' :: '\'' :: rest) = some (acc.reverse ++ cs, rest) := by
  induction cs generalizing acc with
  | nil => rw [List.nil_append, takeLiteralLines] <;> simp_all
  | cons c cs ih =>
      simp only [hasRun, Bool.or_eq_false_iff] at hrun
      obtain ⟨hthree, hrun⟩ := hrun
      have hrest' := ih (fun d hd => hcontrol d (List.mem_cons_of_mem _ hd)) hrun
      rw [List.cons_append]
      by_cases hquote : c = '\''
      · subst hquote
        by_cases htwo : ∀ more, cs ++ '\'' :: '\'' :: '\'' :: rest ≠ '\'' :: '\'' :: more
        · rw [takeLiteralLines_quote htwo, hrest']
          simp
        · simp only [Classical.not_forall, Decidable.not_not] at htwo
          obtain ⟨more, htwo⟩ := htwo
          match cs with
          | [] => rw [List.nil_append, takeLiteralLines] <;> simp_all
          | [d] =>
              obtain rfl : d = '\'' := (List.cons.inj htwo).1
              simp [takeLiteralLines]
          | d :: e :: cs => simp_all
      · rw [takeLiteralLines_plain hquote (hcontrol c List.mem_cons_self), hrest']
        simp

/-! ### Any style -/

lemma newLine?_eq_none {c : Char} (hnewline : c ≠ '\n') (hreturn : c ≠ '\r') (cs : List Char) :
    newLine? (c :: cs) = none := by
  rw [newLine?] <;> simp_all

/-- The line break after the quotes is put where the text has several lines, so that a line break
of the text is not taken for it. -/
lemma trimStart_break {cs body : List Char} (h : cs.contains '\n' = false → newLine? body = none) :
    trimStart ((if cs.contains '\n' then ['\n'] else []) ++ body) = body := by
  split
  · rfl
  · next hbreak => simp [trimStart, h (by simpa using hbreak)]

lemma newLine?_quotedBody {cs : List Char} (h : cs.contains '\n' = false) (rest : List Char) :
    newLine? (quotedBody true 0 cs ++ '"' :: rest) = none := by
  match cs with
  | [] => rfl
  | c :: cs =>
      obtain ⟨hne, -⟩ : '\n' ≠ c ∧ _ := by simpa using h
      rw [quotedBody]
      split
      · rfl
      · rcases escapedChar_cases true c with ⟨e, he, -⟩ | ⟨he, -, -, hcontrol⟩
        · rw [he]; rfl
        · rw [he]
          refine newLine?_eq_none hne.symm ?_ _
          rintro rfl
          exact absurd hcontrol (by decide)

variable {cs rest : List Char}

lemma styled_quoted (cs rest : List Char) :
    styled false false cs ++ rest = '"' :: (quotedBody false 0 cs ++ '"' :: rest) := by
  simp [styled]

lemma styled_literal (cs rest : List Char) :
    styled false true cs ++ rest = '\'' :: (cs ++ '\'' :: rest) := by
  simp [styled]

lemma takeText_quoted (hrest : Ends rest) :
    takeText (styled false false cs ++ rest) = some (cs, rest) := by
  have hbody : ∀ more, quotedBody false 0 cs ++ '"' :: rest ≠ '"' :: '"' :: more := by
    intro more
    match cs with
    | [] => simpa [quotedBody] using hrest.ne_cons (Or.inl rfl) more
    | c :: cs =>
        rw [quotedBody]
        split
        · simp
        · next hquote =>
          rw [List.append_assoc]
          exact escapedChar_ne_quote hquote _ _
  rw [styled_quoted, takeText,
    takeQuoted_body _ _ (by simp only [List.length_append, List.length_cons]; omega)]
  · rfl
  · exact hbody

lemma takeText_literal (hrest : Ends rest) (h : isLiteral cs = true) :
    takeText (styled false true cs ++ rest) = some (cs, rest) := by
  have hbody : ∀ more, cs ++ '\'' :: rest ≠ '\'' :: '\'' :: more := by
    intro more
    match cs with
    | [] => simpa using hrest.ne_cons (Or.inr rfl) more
    | c :: cs =>
        have hquote : c ≠ '\'' := by
          rintro rfl
          exact absurd h (by simp [isLiteral])
        simp [hquote]
  rw [styled_literal, takeText, takeLiteral_append h]
  · rfl
  · exact hbody

lemma takeText_quotedLines (hrest : Ends rest) :
    takeText (styled true false cs ++ rest) = some (cs, rest) := by
  have hstyled : styled true false cs ++ rest = '"' :: '"' :: '"' ::
      ((if cs.contains '\n' then ['\n'] else []) ++
        (quotedBody true 0 cs ++ '"' :: '"' :: '"' :: rest)) := by
    simp [styled, List.replicate]
  rw [hstyled, takeText, trimStart_break (fun h => newLine?_quotedBody h _),
    takeQuotedLines_body (hrest.ne_cons (Or.inl rfl)) _ _
      (by simp only [List.length_append, List.length_cons]; omega)]
  rfl

lemma takeText_literalLines (hrest : Ends rest) (hcontrol : ∀ c ∈ cs, isControl c = false)
    (hrun : hasRun '\'' cs = false) :
    takeText (styled true true cs ++ rest) = some (cs, rest) := by
  have hbreak : cs.contains '\n' = false →
      newLine? (cs ++ '\'' :: '\'' :: '\'' :: rest) = none := by
    intro h
    match cs with
    | [] => rfl
    | c :: cs =>
        obtain ⟨hne, -⟩ : '\n' ≠ c ∧ _ := by simpa using h
        refine newLine?_eq_none hne.symm ?_ _
        rintro rfl
        exact absurd (hcontrol '\r' List.mem_cons_self) (by decide)
  have hstyled : styled true true cs ++ rest = '\'' :: '\'' :: '\'' ::
      ((if cs.contains '\n' then ['\n'] else []) ++ (cs ++ '\'' :: '\'' :: '\'' :: rest)) := by
    simp [styled, List.replicate]
  rw [hstyled, takeText, trimStart_break hbreak,
    takeLiteralLines_append (hrest.ne_cons (Or.inr rfl)) hcontrol hrun]
  rfl

/-- **A text is read back as it was**, whatever it is and whichever style it is written in. -/
theorem takeText_textChars (hrest : Ends rest) :
    takeText (textChars cs ++ rest) = some (cs, rest) := by
  unfold textChars
  split
  · exact takeText_quoted hrest
  split
  · next h => exact takeText_literal hrest h
  split
  · exact takeText_quotedLines hrest
  split
  · next h =>
    simp only [Bool.and_eq_true, List.all_eq_true, Bool.not_eq_true'] at h
    exact takeText_literalLines hrest h.1 h.2
  · cases cs.contains '\n'
    · exact takeText_quoted hrest
    · exact takeText_quotedLines hrest

lemma textChars_eq_cons (cs : List Char) :
    ∃ q more, textChars cs = q :: more ∧ (q = '"' ∨ q = '\'') := by
  have hstyled : ∀ multi literal, ∃ q more,
      styled multi literal cs = q :: more ∧ (q = '"' ∨ q = '\'') := by
    intro multi literal
    cases literal
    · cases multi <;> exact ⟨'"', _, rfl, Or.inl rfl⟩
    · cases multi <;> exact ⟨'\'', _, rfl, Or.inr rfl⟩
  unfold textChars
  repeat' split
  all_goals exact hstyled _ _

/-! ### Keys -/

/-- What comes after a name: no character that could be part of one. -/
def EndsName (rest : List Char) : Prop := ∃ c more, rest = c :: more ∧ isBare c = false

lemma takeName_quoted (cs rest : List Char) :
    takeName (styled false false cs ++ rest) = some (String.ofList cs, rest) := by
  rw [styled_quoted, takeName,
    takeQuoted_body _ _ (by simp only [List.length_append, List.length_cons]; omega)]
  rfl

lemma takeName_literal (h : isLiteral cs = true) :
    takeName (styled false true cs ++ rest) = some (String.ofList cs, rest) := by
  rw [styled_literal, takeName, takeLiteral_append h]
  rfl

lemma takeName_bare (hne : cs ≠ []) (hbare : ∀ c ∈ cs, isBare c = true) (hrest : EndsName rest) :
    takeName (cs ++ rest) = some (String.ofList cs, rest) := by
  obtain ⟨e, more, rfl, he⟩ := hrest
  have htake : (cs ++ e :: more).takeWhile isBare = cs := by
    rw [List.takeWhile_append_of_pos hbare, List.takeWhile_cons_of_neg (by simp [he]),
      List.append_nil]
  rw [takeName]
  · simp [htake, hne]
  · exact fun more => append_ne_cons hne hbare (by decide)
  · exact fun more => append_ne_cons hne hbare (by decide)

/-- A name is read back as it was, in quotes or without. -/
theorem takeName_keyChars (hrest : EndsName rest) :
    takeName (keyChars cs ++ rest) = some (String.ofList cs, rest) := by
  unfold keyChars
  split
  · next h =>
    simp only [Bool.and_eq_true, Bool.not_eq_true', List.isEmpty_eq_false_iff,
      List.all_eq_true] at h
    exact takeName_bare h.1 h.2 hrest
  split
  · exact takeName_quoted cs rest
  split
  · next h => exact takeName_literal h
  · exact takeName_quoted cs rest

end TestScout.Toml
