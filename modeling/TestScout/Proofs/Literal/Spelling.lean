import TestScout.Proofs.Literal.NumericEscape

/-!
The legal ways to write the body of a literal, and that cooking undoes each of them. A body is a
list of pieces, each of them a character that stands for itself or an escape. What an escape may be
followed by is the only thing that ties a piece to those after it, so a piece is cooked by one step
before any text that it may stand before, and a whole body piece by piece.
-/

namespace TestScout.Literal

open Text

variable {c : Char} {rest : List Char} {n : ℕ}

/-- The letters of escapes that stand for a control character. -/
def controls : List (Char × Char) :=
  [('n', '\n'), ('r', '\r'), ('t', '\t'), ('b', '\x08'), ('f', '\x0c'), ('v', '\x0b')]

def lineEnds : List Char := ['\n', '\r', '\u2028', '\u2029']

inductive Escape
  | control (letter c : Char) (listed : (letter, c) ∈ controls)
  | zero
  | byte (digits : List HexDigit) (two : digits.length = 2)
  | unit (digits : List HexDigit) (four : digits.length = 4)
      (single : ¬ IsSurrogate (number digits))
  | pair (high low : List HexDigit) (fourHigh : high.length = 4) (fourLow : low.length = 4)
      (begins : isHighUnit (number high) = true) (ends : isLowUnit (number low) = true)
  | braces (digits : List HexDigit) (nonempty : digits ≠ [])
      (scalar : (number digits).isValidChar)
  | half (digits : List HexDigit) (four : digits.length = 4)
      (half : IsSurrogate (number digits))
  | lineEnd (c : Char) (listed : c ∈ lineEnds)
  | crlf
  | other (c : Char) (plain : c ∉ controls.map Prod.fst ++ ['x', 'u', '0'] ++ lineEnds)

namespace Escape

def letter : Escape → Char
  | control letter _ _ => letter
  | zero => '0'
  | byte _ _ => 'x'
  | unit _ _ _ | pair _ _ _ _ _ _ | braces _ _ _ | half _ _ _ => 'u'
  | lineEnd c _ => c
  | crlf => '\r'
  | other c _ => c

/-- The characters after the letter. -/
def tail : Escape → List Char
  | byte digits _ | unit digits _ _ | half digits _ _ => digits.map HexDigit.char
  | pair high low _ _ _ _ =>
    high.map HexDigit.char ++ '\\' :: 'u' :: low.map HexDigit.char
  | braces digits _ _ => '\x7b' :: (digits.map HexDigit.char ++ ['\x7d'])
  | crlf => ['\n']
  | _ => []

def value : Escape → List Char
  | control _ c _ => [c]
  | zero => ['\x00']
  | byte digits two => [coded (number digits) (isValidChar_of_two two)]
  | unit digits four single => [coded (number digits) (isValidChar_of_four four single)]
  | pair high low _ _ begins ends =>
    [coded (pairValue (number high) (number low)) (isValidChar_pairValue begins ends)]
  | braces digits _ scalar => [coded (number digits) scalar]
  | half _ _ _ => ['\uFFFD']
  | lineEnd _ _ | crlf => []
  | other c _ => [c]

/-- Whether an escape may stand before a text: it must not be read together with its beginning. -/
def Fits (rest : List Char) : Escape → Prop
  | zero => rest.head?.any Text.isDigit = false
  | half digits _ _ =>
    isHighUnit (number digits) = true →
      ∀ low : List HexDigit, low.length = 4 → isLowUnit (number low) = true →
        ¬ '\\' :: 'u' :: low.map HexDigit.char <+: rest
  | lineEnd c _ => c = '\r' → rest.head? ≠ some '\n'
  | _ => True

instance (rest : List Char) : DecidablePred (Fits rest)
  | zero => inferInstanceAs (Decidable (_ = false))
  | half digits _ _ =>
    decidable_of_iff (isHighUnit (number digits) = true → lowEscape? rest = none)
      (imp_congr_right fun _ => lowEscape?_eq_none_iff)
  | lineEnd c _ => inferInstanceAs (Decidable (c = '\r' → rest.head? ≠ some '\n'))
  | control _ _ _ | byte _ _ | unit _ _ _ | pair _ _ _ _ _ _ | braces _ _ _ | crlf | other _ _ =>
    isTrue trivial

end Escape

inductive Piece
  | raw (c : Char) (plain : c ≠ '\\')
  | escaped (e : Escape)

namespace Piece

def chars : Piece → List Char
  | raw c _ => [c]
  | escaped e => '\\' :: e.letter :: e.tail

def value : Piece → List Char
  | raw c _ => [c]
  | escaped e => e.value

def Fits (rest : List Char) : Piece → Prop
  | raw _ _ => True
  | escaped e => e.Fits rest

instance (rest : List Char) : DecidablePred (Fits rest)
  | raw _ _ => isTrue trivial
  | escaped e => inferInstanceAs (Decidable (e.Fits rest))

end Piece

/-- Every piece may stand before the pieces after it. -/
def Legal : List Piece → Prop
  | [] => True
  | p :: ps => p.Fits (ps.flatMap Piece.chars) ∧ Legal ps

instance Legal.decidable : DecidablePred Legal
  | [] => isTrue trivial
  | p :: ps =>
    have := Legal.decidable ps
    inferInstanceAs (Decidable (p.Fits (ps.flatMap Piece.chars) ∧ Legal ps))

def text (ps : List Piece) : String := String.ofList (ps.flatMap Piece.chars)

def meaning (ps : List Piece) : String := String.ofList (ps.flatMap Piece.value)

/-! ### One piece -/

lemma cookChars_raw (h : c ≠ '\\') : cookChars (c :: rest) = c :: cookChars rest := by
  rw [cookChars]
  · rintro rfl -
    exact h rfl
  · rintro _ _ rfl -
    exact h rfl

lemma escape_other (plain : c ∉ controls.map Prod.fst ++ ['x', 'u', '0'] ++ lineEnds) :
    escape c rest = ([c], 0) := by
  unfold escape
  split
  -- every letter that means something else is excluded
  all_goals first
    | rfl
    | exact absurd (by decide) plain

lemma escape_byte (h : byte? rest = some c) : escape 'x' rest = ([c], 2) := by
  rw [escape, h]

lemma escape_unicode (h : unicode? rest = some (c, n)) : escape 'u' rest = ([c], n) := by
  rw [escape, h]

lemma escape_letter {e : Escape} (fits : e.Fits rest) :
    escape e.letter (e.tail ++ rest) = (e.value, e.tail.length) := by
  cases e with
  | control letter c listed =>
      simp only [controls, List.mem_cons, List.not_mem_nil, or_false, Prod.mk.injEq] at listed
      rcases listed with ⟨rfl, rfl⟩ | ⟨rfl, rfl⟩ | ⟨rfl, rfl⟩ | ⟨rfl, rfl⟩ | ⟨rfl, rfl⟩ | ⟨rfl, rfl⟩
      all_goals rfl
  | zero =>
      have hdigit : rest.head?.any Text.isDigit = false := fits
      simp only [Escape.letter, Escape.tail, List.nil_append]
      rw [escape, hdigit, if_neg Bool.false_ne_true]
      rfl
  | byte digits two =>
      simp only [Escape.letter, Escape.tail, Escape.value, List.length_map, two]
      exact escape_byte (byte?_digits two)
  | unit digits four single =>
      simp only [Escape.letter, Escape.tail, Escape.value, List.length_map, four]
      exact escape_unicode (unicode?_unit four single)
  | pair high low fourHigh fourLow begins ends =>
      simp only [Escape.letter, Escape.tail, Escape.value, List.append_assoc, List.cons_append,
        List.length_append, List.length_cons, List.length_map, fourHigh, fourLow]
      exact escape_unicode (unicode?_pair fourHigh fourLow begins ends)
  | braces digits nonempty scalar =>
      simp only [Escape.letter, Escape.tail, Escape.value, List.append_assoc, List.cons_append,
        List.nil_append, List.length_append, List.length_cons, List.length_nil, List.length_map]
      exact escape_unicode (braced?_digits nonempty scalar)
  | half digits four half =>
      simp only [Escape.letter, Escape.tail, Escape.value, List.length_map, four]
      exact escape_unicode (unicode?_half four half fits)
  | lineEnd c listed =>
      have hreturn : c = '\r' → rest.head? ≠ some '\n' := fits
      simp only [lineEnds, List.mem_cons, List.not_mem_nil, or_false] at listed
      simp only [Escape.letter, Escape.tail, Escape.value, List.nil_append, List.length_nil]
      rcases listed with rfl | rfl | rfl | rfl
      · rfl
      · rw [escape, if_neg (hreturn rfl)]
      · rfl
      · rfl
  | crlf => rfl
  | other c plain => exact escape_other plain

lemma cookChars_piece {p : Piece} (fits : p.Fits rest) :
    cookChars (p.chars ++ rest) = p.value ++ cookChars rest := by
  cases p with
  | raw c plain => exact cookChars_raw plain
  | escaped e =>
      have hescape := escape_letter (e := e) fits
      rw [Piece.chars, List.cons_append, List.cons_append, cookChars, hescape, List.drop_left]
      rfl

/-! ### A whole body -/

lemma cookChars_pieces {ps : List Piece} (legal : Legal ps) :
    cookChars (ps.flatMap Piece.chars) = ps.flatMap Piece.value := by
  induction ps with
  | nil => rw [List.flatMap_nil, cookChars, List.flatMap_nil]
  | cons p ps ih =>
      obtain ⟨fits, legal⟩ := legal
      rw [List.flatMap_cons, cookChars_piece fits, ih legal, List.flatMap_cons]

lemma cook_text {ps : List Piece} (legal : Legal ps) : cook (text ps) = meaning ps := by
  rw [cook, text, String.toList_ofList, cookChars_pieces legal, meaning]

/-- A character as it is written in a body that stands for it. -/
def Piece.of (c : Char) : Piece :=
  if h : c = '\\' then .escaped (.other '\\' (by decide)) else .raw c h

lemma Piece.value_of (c : Char) : (Piece.of c).value = [c] := by
  unfold Piece.of
  split
  · next h => rw [h]; rfl
  · rfl

lemma Piece.chars_of (c : Char) :
    (Piece.of c).chars = if c = '\\' then ['\\', '\\'] else [c] := by
  unfold Piece.of
  split <;> rfl

lemma legal_of (cs : List Char) : Legal (cs.map Piece.of) := by
  induction cs with
  | nil => trivial
  | cons c cs ih =>
      refine ⟨?_, ih⟩
      unfold Piece.of
      split <;> trivial

def doubled (s : String) : String :=
  String.ofList (s.toList.flatMap fun c => if c = '\\' then ['\\', '\\'] else [c])

lemma text_of (s : String) : text (s.toList.map Piece.of) = doubled s := by
  rw [text, doubled, List.flatMap_map]
  congr 1
  exact List.flatMap_congr fun c _ => Piece.chars_of c

lemma meaning_of (s : String) : meaning (s.toList.map Piece.of) = s := by
  rw [meaning, List.flatMap_map]
  simp only [Piece.value_of, List.flatMap_singleton', String.ofList_toList]

/-- **Cooking undoes every legal spelling**: a body of pieces each of which may stand before those
after it stands for what its pieces stand for. So every text is what some body stands for, among
others itself with each backslash doubled. -/
theorem cook_undoes_spelling :
    (∀ ps, Legal ps → cook (text ps) = meaning ps) ∧ ∀ s, cook (doubled s) = s := by
  refine ⟨fun ps legal => cook_text legal, fun s => ?_⟩
  have hlegal := legal_of s.toList
  rw [← text_of, cook_text hlegal, meaning_of]

/-- A body with a piece of every form. -/
theorem cook_every_form :
    Legal
      [.raw 'a' (by decide), .escaped (.control 'n' '\n' (by decide)), .escaped .zero,
        .escaped (.byte [⟨4, false⟩, ⟨1, false⟩] rfl), .escaped .zero, .raw 'b' (by decide),
        .escaped (.unit [⟨0, false⟩, ⟨0, false⟩, ⟨14, true⟩, ⟨9, false⟩] rfl (by decide)),
        .escaped (.pair [⟨13, false⟩, ⟨8, false⟩, ⟨3, false⟩, ⟨13, true⟩]
          [⟨13, true⟩, ⟨14, false⟩, ⟨0, false⟩, ⟨0, false⟩] rfl rfl (by decide) (by decide)),
        .escaped (.braces [⟨0, false⟩, ⟨1, false⟩, ⟨15, true⟩, ⟨6, false⟩, ⟨0, false⟩, ⟨0, false⟩]
          (by decide) (by decide)),
        .escaped (.half [⟨13, false⟩, ⟨8, false⟩, ⟨0, false⟩, ⟨0, false⟩] rfl (by decide)),
        .escaped (.lineEnd '\r' (by decide)), .escaped .crlf, .escaped (.lineEnd '\n' (by decide)),
        .escaped (.other '\\' (by decide))] ∧
      cook "a\\n\\0\\x41\\0b\\u00E9\\ud83D\\uDe00\\u\x7b01F600\x7d\\ud800\\\r\\\r\n\\\n\\\\" =
        "a\n\x00A\x00bé😀😀\uFFFD\\" := by
  refine ⟨?legal, cook_undoes_spelling.1 _ ?legal⟩
  decide

end TestScout.Literal
