import TestScout.Json.Printer
import TestScout.Json.Reader
import TestScout.Proofs.Json.Record
import TestScout.Proofs.Text.Numeral

/-!
Values written over several lines and read back. The members of an object come back in the order of
their names; nothing else is lost, as long as every number is an integer of at most sixty-four bits.
A reader passes over the indentation, so a value is read back at every level, whatever follows it on
its line or on the next.
-/

namespace TestScout.Json

/-- Every number in a value is an integer of at most sixty-four bits. -/
inductive Exact : Json → Prop
  | null : Exact .null
  | bool (b : Bool) : Exact (.bool b)
  | int {n : Int} (low : -0x8000000000000000 ≤ n) (high : n < 0x10000000000000000) :
      Exact (.int n)
  | str (s : String) : Exact (.str s)
  | arr {items : List Json} (h : ∀ item ∈ items, Exact item) : Exact (.arr items)
  | obj {members : List (String × Json)} (h : ∀ e ∈ members, Exact e.2) : Exact (.obj members)

mutual

/-- The value with the members of its objects in the order of their names. Of two members with one
name the later one counts. -/
def sorted : Json → Json
  | .arr items => .arr (sortedItems items)
  | .obj members => .obj (Dict.ofList (sortedMembers members)).entries
  | v => v

def sortedItems : List Json → List Json
  | [] => []
  | item :: items => sorted item :: sortedItems items

def sortedMembers : List (String × Json) → List (String × Json)
  | [] => []
  | (name, v) :: members => (name, sorted v) :: sortedMembers members

end

/-! ### Blanks -/

/-- A character that is no blank and closes no list. -/
def Solid (c : Char) : Prop := c ≠ ' ' ∧ c ≠ '\t' ∧ c ≠ '\n' ∧ c ≠ '\r' ∧ c ≠ ']'

instance : DecidablePred Solid := fun _ => inferInstanceAs (Decidable (_ ∧ _))

/-- What can follow a value: nothing, a comma or a new line. -/
def Ends (rest : List Char) : Prop := ∀ c ∈ rest.head?, c = ',' ∨ c = '\n'

section Blanks

variable {c : Char} {cs rest : List Char}

lemma skipBlanks_cons (h : c ≠ ' ' ∧ c ≠ '\t' ∧ c ≠ '\n' ∧ c ≠ '\r') :
    skipBlanks (c :: cs) = c :: cs := by
  rw [skipBlanks, List.dropWhile_cons_of_neg (by simp [h])]

lemma skipBlanks_solid (h : Solid c) : skipBlanks (c :: cs) = c :: cs :=
  skipBlanks_cons ⟨h.1, h.2.1, h.2.2.1, h.2.2.2.1⟩

lemma skipBlanks_newLine (level : ℕ) (cs : List Char) :
    skipBlanks (newLine level ++ cs) = skipBlanks cs := by
  unfold skipBlanks
  refine List.dropWhile_append_of_pos fun c hc => ?_
  rcases List.mem_cons.mp hc with rfl | hc
  · rfl
  · rw [List.eq_of_mem_replicate hc]
    rfl

lemma length_newLine (level : ℕ) : (newLine level).length = 2 * level + 1 := by
  rw [newLine, List.length_cons, List.length_replicate]

lemma ends_newLine (level : ℕ) (cs : List Char) : Ends (newLine level ++ cs) := by
  rintro c ⟨⟩
  exact Or.inr rfl

lemma ends_comma (cs : List Char) : Ends (',' :: cs) := by
  rintro c ⟨⟩
  exact Or.inl rfl

end Blanks

/-! ### Strings -/

section Strings

variable {c v : Char} {acc rest : List Char}

lemma stringTail_plain (hquote : c ≠ '"') (hbackslash : c ≠ '\\') :
    stringTail none acc (c :: rest) = stringTail none (c :: acc) rest := by
  rw [stringTail]
  · rfl
  · exact fun h => hquote h
  · intro _ _ _ _ _ h
    exact absurd h hbackslash
  · intro _ _ h
    exact absurd h hbackslash

lemma stringTail_escape (h : simpleEscape? c = some v) :
    stringTail none acc ('\\' :: c :: rest) = stringTail none (v :: acc) rest := by
  rw [stringTail, h]
  · rfl
  · rintro _ _ _ _ _ rfl
    cases h

lemma stringTail_fourHex (h : c.toNat < 0x20) :
    stringTail none acc ('\\' :: 'u' :: fourHex c.toNat ++ rest) =
      stringTail none (c :: acc) rest := by
  have hdigits : ∀ n < 0x20, (fourHex n).length = 4 ∧ Text.hexNumber? (fourHex n) = some n ∧
      Text.isLowUnit n = false ∧ Text.isHighUnit n = false := by decide
  obtain ⟨hfour, hnumber, hlow, hhigh⟩ := hdigits c.toNat h
  match fourHex c.toNat, hfour, hnumber with
  | [a, b, d, e], _, hnumber =>
      rw [List.cons_append, List.cons_append, List.cons_append, List.cons_append, List.cons_append,
        List.cons_append, List.nil_append, stringTail, hnumber]
      simp only [hlow, hhigh, Char.ofNat_toNat, Bool.false_eq_true, if_false]
      rfl

/-- **One character**: however it is written inside a string, it is read back. -/
lemma stringTail_stringChar (c : Char) (acc rest : List Char) :
    stringTail none acc (stringChar c ++ rest) = stringTail none (c :: acc) rest := by
  unfold stringChar
  split_ifs with hquote hbackslash hb hf hn hr ht hcontrol
  · subst hquote
    exact stringTail_escape rfl
  · subst hbackslash
    exact stringTail_escape rfl
  · subst hb
    exact stringTail_escape rfl
  · subst hf
    exact stringTail_escape rfl
  · subst hn
    exact stringTail_escape rfl
  · subst hr
    exact stringTail_escape rfl
  · subst ht
    exact stringTail_escape rfl
  · exact stringTail_fourHex hcontrol
  · exact stringTail_plain hquote hbackslash

lemma stringTail_flatMap (cs acc rest : List Char) :
    stringTail none acc (cs.flatMap stringChar ++ '"' :: rest) =
      some (String.ofList (acc.reverse ++ cs), rest) := by
  induction cs generalizing acc with
  | nil =>
      rw [List.append_nil]
      rfl
  | cons c cs ih =>
      rw [List.flatMap_cons, List.append_assoc, stringTail_stringChar, ih, List.reverse_cons,
        List.append_assoc, List.singleton_append]

/-- **Strings** are read back. -/
theorem stringTail_body (s : String) (rest : List Char) :
    stringTail none [] (s.toList.flatMap stringChar ++ '"' :: rest) = some (s, rest) := by
  rw [stringTail_flatMap, List.reverse_nil, List.nil_append, String.ofList_toList]

end Strings

/-! ### Numbers -/

section Numbers

variable {ds rest : List Char} {negative : Bool} {m : ℕ}

lemma takeDigits_append (hds : ∀ c ∈ ds, Text.isDigit c = true) (hrest : Ends rest) :
    takeDigits (ds ++ rest) = (ds, rest) := by
  have hstop : rest.takeWhile Text.isDigit = [] ∧ rest.dropWhile Text.isDigit = rest := by
    cases rest with
    | nil => exact ⟨rfl, rfl⟩
    | cons c rest =>
        have hc : Text.isDigit c = false := by
          rcases hrest c rfl with rfl | rfl <;> rfl
        exact ⟨List.takeWhile_cons_of_neg (by simp [hc]), List.dropWhile_cons_of_neg (by simp [hc])⟩
  rw [takeDigits, List.span_eq_takeWhile_dropWhile, List.takeWhile_append_of_pos hds,
    List.dropWhile_append_of_pos hds, hstop.1, hstop.2, List.append_nil]

lemma takePower_ends (hrest : Ends rest) : takePower rest = some (none, rest) := by
  cases rest with
  | nil => rfl
  | cons c rest => rcases hrest c rfl with rfl | rfl <;> rfl

lemma numberOf_whole (fits : if negative then 0 < m ∧ m ≤ 0x8000000000000000
    else m < 0x10000000000000000) :
    numberOf negative (Nat.toDigits 10 m) [] none = .int (if negative then -(m : Int) else m) := by
  unfold numberOf
  rw [Text.decimalValue_toDigits, if_pos]
  cases negative <;> simpa using fits

variable (negative) in
lemma takeNumber_of_sign {cs : List Char} (hrest : Ends rest)
    (fits : if negative then 0 < m ∧ m ≤ 0x8000000000000000 else m < 0x10000000000000000)
    (hsign : (match cs with
      | '-' :: r => (true, r)
      | r => (false, r)) = (negative, Nat.toDigits 10 m ++ rest)) :
    takeNumber cs = some (.int (if negative then -(m : Int) else m), rest) := by
  have hzero :
      ((Nat.toDigits 10 m).length ≠ 1 && (Nat.toDigits 10 m).head? = some '0') = false := by
    rcases Nat.eq_zero_or_pos m with rfl | hm
    · rfl
    · simp [Text.head?_toDigits_ne_zero hm]
  have hnonempty : (Nat.toDigits 10 m).isEmpty = false := by simp [Nat.toDigits_ne_nil]
  have hpoint : ∀ r, rest ≠ '.' :: r := by
    rintro r rfl
    rcases hrest '.' rfl with h | h <;> cases h
  unfold takeNumber
  split
  next negative' cs' hcs =>
  obtain ⟨rfl, rfl⟩ := Prod.mk.inj (hsign.symm.trans hcs)
  simp only [takeDigits_append Text.isDigit_toDigits hrest, hnonempty, hzero, Bool.or_false,
    Bool.false_eq_true, if_false]
  rw [Bool.false_and, if_neg Bool.false_ne_true, takePower_ends hrest, Option.map_some,
    numberOf_whole fits]

lemma takeNumber_unsigned (hrest : Ends rest) (fits : m < 0x10000000000000000) :
    takeNumber (Nat.toDigits 10 m ++ rest) = some (.int m, rest) := by
  refine takeNumber_of_sign false hrest fits ?_
  split
  · next r h =>
    obtain ⟨d, ds, hds⟩ := List.exists_cons_of_ne_nil (@Nat.toDigits_ne_nil m 10)
    rw [hds] at h
    obtain ⟨rfl, -⟩ := List.cons.inj h
    exact absurd (Text.isDigit_toDigits '-' (hds ▸ List.mem_cons_self)) (by decide)
  · rfl

lemma takeNumber_signed (hrest : Ends rest) (fits : 0 < m ∧ m ≤ 0x8000000000000000) :
    takeNumber ('-' :: Nat.toDigits 10 m ++ rest) = some (.int (-m), rest) :=
  takeNumber_of_sign true hrest fits rfl

lemma toList_toString (n : Int) : (toString n).toList =
    if 0 ≤ n then Nat.toDigits 10 n.toNat else '-' :: Nat.toDigits 10 (-n).toNat := by
  rw [Int.toString_eq_repr, Int.repr_eq_if]
  split
  · rw [Nat.toList_repr]
  · rw [String.toList_append, Nat.toList_repr]
    rfl

/-- **Integers** of at most sixty-four bits are read back. -/
theorem takeNumber_toString {n : Int} (low : -0x8000000000000000 ≤ n)
    (high : n < 0x10000000000000000) (hrest : Ends rest) :
    takeNumber ((toString n).toList ++ rest) = some (.int n, rest) := by
  rw [toList_toString]
  split
  · next hn =>
    rw [takeNumber_unsigned hrest (by omega), Int.toNat_of_nonneg hn]
  · next hn =>
    rw [takeNumber_signed hrest (by omega), Int.toNat_of_nonneg (by omega), Int.neg_neg]

end Numbers

/-! ### The front of a text -/

section Front

variable {c : Char} {cs more rest : List Char} {name : String} {v : Json} {acc : List Json}
  {dict : Dict Json} {fuel level : ℕ}

lemma exists_toString (n : Int) :
    ∃ c more, (toString n).toList = c :: more ∧ (Text.isDigit c = true ∨ c = '-') := by
  rw [toList_toString]
  split
  · obtain ⟨d, ds, hds⟩ := List.exists_cons_of_ne_nil (@Nat.toDigits_ne_nil n.toNat 10)
    exact ⟨d, ds, hds, Or.inl (Text.isDigit_toDigits d (hds ▸ List.mem_cons_self))⟩
  · exact ⟨'-', _, rfl, Or.inr rfl⟩

lemma solid_of_number (h : Text.isDigit c = true ∨ c = '-') : Solid c := by
  refine ⟨?_, ?_, ?_, ?_, ?_⟩ <;> rintro rfl <;> exact absurd h (by decide)

lemma exists_solid (h : v.Exact) (level : ℕ) :
    ∃ c more, prettyChars level v = c :: more ∧ Solid c := by
  cases h with
  | null => exact ⟨'n', _, rfl, by decide⟩
  | bool b => cases b <;> exact ⟨_, _, rfl, by decide⟩
  | str s => exact ⟨'"', _, rfl, by decide⟩
  | @arr items _ => cases items <;> exact ⟨'[', _, rfl, by decide⟩
  | @obj members _ => cases members <;> exact ⟨'\x7b', _, rfl, by decide⟩
  | @int n _ _ =>
      obtain ⟨c, more, htext, hc⟩ := exists_toString n
      exact ⟨c, more, htext, solid_of_number hc⟩

lemma takeValue_congr (h : skipBlanks cs = skipBlanks more) :
    takeValue fuel cs = takeValue fuel more := by
  cases fuel with
  | zero => rfl
  | succ fuel => rw [takeValue, takeValue, h]

lemma takeItems_newLine : takeItems fuel acc (newLine level ++ cs) = takeItems fuel acc cs := by
  cases fuel with
  | zero => rfl
  | succ fuel => rw [takeItems, takeItems, takeValue_congr (skipBlanks_newLine level cs)]

lemma takeMembers_newLine :
    takeMembers fuel dict (newLine level ++ cs) = takeMembers fuel dict cs := by
  cases fuel with
  | zero => rfl
  | succ fuel => rw [takeMembers, takeMembers, skipBlanks_newLine level cs]

lemma takeValue_quote : takeValue (fuel + 1) ('"' :: cs) =
    (stringTail none [] cs).map fun (s, r) => (.str s, r) := rfl

lemma takeValue_number (h : Text.isDigit c = true ∨ c = '-') :
    takeValue (fuel + 1) (c :: cs) = takeNumber (c :: cs) := by
  rw [takeValue, skipBlanks_solid (solid_of_number h)]
  split
  case h_7 => rfl
  all_goals
    next heq =>
    obtain ⟨rfl, -⟩ := List.cons.inj heq
    exact absurd h (by decide)

lemma takeValue_items (h : ∃ c more, cs = c :: more ∧ Solid c) :
    takeValue (fuel + 1) ('[' :: newLine level ++ cs) = takeItems fuel [] cs := by
  obtain ⟨c, more, rfl, hc⟩ := h
  have hopen : skipBlanks ('[' :: newLine level ++ c :: more) = '[' :: newLine level ++ c :: more :=
    rfl
  rw [takeValue, hopen, List.cons_append]
  simp only [skipBlanks_newLine, skipBlanks_solid hc]
  split
  · next heq =>
    obtain ⟨rfl, -⟩ := List.cons.inj heq
    exact absurd hc (by decide)
  · rfl

lemma takeValue_members (h : ∃ more, cs = '"' :: more) :
    takeValue (fuel + 1) ('\x7b' :: newLine level ++ cs) = takeMembers fuel Dict.empty cs := by
  obtain ⟨more, rfl⟩ := h
  have hopen : skipBlanks ('\x7b' :: newLine level ++ '"' :: more) =
      '\x7b' :: newLine level ++ '"' :: more := rfl
  rw [takeValue, hopen, List.cons_append]
  simp only [skipBlanks_newLine]
  rfl

/-! ### One part after another -/

lemma takeItems_next (h : takeValue fuel cs = some (v, ',' :: rest)) :
    takeItems (fuel + 1) acc cs = takeItems fuel (v :: acc) rest := by
  rw [takeItems, h]
  rfl

lemma takeItems_last (h : takeValue fuel cs = some (v, newLine level ++ ']' :: rest)) :
    takeItems (fuel + 1) acc cs = some (.arr (v :: acc).reverse, rest) := by
  rw [takeItems, h]
  simp only [skipBlanks_newLine]
  rfl

lemma skipBlanks_name : skipBlanks (stringText name ++ ':' :: ' ' :: cs) =
    '"' :: (name.toList.flatMap stringChar ++ '"' :: ':' :: ' ' :: cs) := by
  rw [stringText, List.cons_append, List.cons_append, List.append_assoc, List.singleton_append]
  rfl

lemma skipBlanks_colon : skipBlanks (':' :: cs) = ':' :: cs := rfl

lemma takeValue_blank : takeValue fuel (' ' :: cs) = takeValue fuel cs :=
  takeValue_congr rfl

lemma takeMembers_next (h : takeValue fuel cs = some (v, ',' :: rest)) :
    takeMembers (fuel + 1) dict (stringText name ++ ':' :: ' ' :: cs) =
      takeMembers fuel (dict.insert name v) rest := by
  have hcomma : skipBlanks (',' :: rest) = ',' :: rest := rfl
  rw [takeMembers, skipBlanks_name]
  simp only [stringTail_body, skipBlanks_colon, takeValue_blank, h, hcomma]

lemma takeMembers_last (h : takeValue fuel cs = some (v, newLine level ++ '\x7d' :: rest)) :
    takeMembers (fuel + 1) dict (stringText name ++ ':' :: ' ' :: cs) =
      some (.obj (dict.insert name v).entries, rest) := by
  have hclose : skipBlanks ('\x7d' :: rest) = '\x7d' :: rest := rfl
  rw [takeMembers, skipBlanks_name]
  simp only [stringTail_body, skipBlanks_colon, takeValue_blank, h, skipBlanks_newLine, hclose]

end Front

/-! ### Values -/

/-- Written at any level, a value is read back with the members of its objects in order, whatever
follows it; a step for each character of its text is enough. -/
def ReadBack (v : Json) : Prop :=
  ∀ level fuel rest, Ends rest → (prettyChars level v).length ≤ fuel →
    takeValue fuel (prettyChars level v ++ rest) = some (v.sorted, rest)

section Values

variable {items : List Json} {members : List (String × Json)} {level outer fuel : ℕ}
  {rest : List Char}

def itemsChars (level : ℕ) : List Json → List Char
  | [] => []
  | item :: items => prettyChars level item ++ prettyItems level items

def membersChars (level : ℕ) : List (String × Json) → List Char
  | [] => []
  | (name, v) :: members =>
    stringText name ++ ':' :: ' ' :: prettyChars level v ++ prettyMembers level members

/-- Read to the closing bracket, items come back after those that have been read before. -/
lemma takeItems_chars (hne : items ≠ []) (h : ∀ item ∈ items, ReadBack item) (acc : List Json)
    (hfuel : (itemsChars level items).length < fuel) :
    takeItems fuel acc (itemsChars level items ++ newLine outer ++ ']' :: rest) =
      some (.arr (acc.reverse ++ sortedItems items), rest) := by
  induction items generalizing acc fuel with
  | nil => exact absurd rfl hne
  | cons item items ih =>
      obtain ⟨fuel, rfl⟩ : ∃ k, fuel = k + 1 := ⟨fuel - 1, by omega⟩
      rw [itemsChars, List.length_append] at hfuel
      rw [itemsChars, List.append_assoc, List.append_assoc]
      have hitem := fun rest hrest => h item List.mem_cons_self level fuel rest hrest (by omega)
      cases items with
      | nil =>
          rw [prettyItems, List.nil_append, takeItems_last (hitem _ (ends_newLine _ _))]
          simp [sortedItems]
      | cons next items =>
          have hnext : prettyItems level (next :: items) =
              ',' :: (newLine level ++ itemsChars level (next :: items)) := by
            rw [prettyItems, itemsChars, List.cons_append, List.cons_append, List.append_assoc]
          rw [hnext, List.length_cons, List.length_append] at hfuel
          rw [hnext, List.cons_append, takeItems_next (hitem _ (ends_comma _)), List.append_assoc,
            takeItems_newLine, ← List.append_assoc,
            ih (by simp) (fun i hi => h i (List.mem_cons_of_mem _ hi)) _ (by omega)]
          simp [sortedItems]

lemma takeMembers_chars (hne : members ≠ []) (h : ∀ e ∈ members, ReadBack e.2) (dict : Dict Json)
    (hfuel : (membersChars level members).length < fuel) :
    takeMembers fuel dict (membersChars level members ++ newLine outer ++ '\x7d' :: rest) =
      some (.obj ((sortedMembers members).foldl (fun d e => d.insert e.1 e.2) dict).entries,
        rest) := by
  induction members generalizing dict fuel with
  | nil => exact absurd rfl hne
  | cons e members ih =>
      obtain ⟨name, v⟩ := e
      obtain ⟨fuel, rfl⟩ : ∃ k, fuel = k + 1 := ⟨fuel - 1, by omega⟩
      rw [membersChars] at hfuel ⊢
      simp only [List.length_append, List.length_cons] at hfuel
      simp only [List.append_assoc, List.cons_append]
      have hback : ReadBack v := h (name, v) List.mem_cons_self
      have hv := fun rest hrest => hback level fuel rest hrest (by omega)
      cases members with
      | nil =>
          rw [prettyMembers, List.nil_append, takeMembers_last (hv _ (ends_newLine _ _))]
          rfl
      | cons next members =>
          have hnext : prettyMembers level (next :: members) =
              ',' :: (newLine level ++ membersChars level (next :: members)) := by
            rw [prettyMembers, membersChars]
            simp only [List.append_assoc, List.cons_append]
          rw [hnext, List.length_cons, List.length_append] at hfuel
          rw [hnext, List.cons_append, takeMembers_next (hv _ (ends_comma _)), List.append_assoc,
            takeMembers_newLine, ← List.append_assoc,
            ih (by simp) (fun f hf => h f (List.mem_cons_of_mem _ hf)) _ (by omega)]
          rfl

lemma readBack_of_step {v : Json} (hv : v.Exact)
    (h : ∀ level fuel rest, Ends rest → (prettyChars level v).length ≤ fuel + 1 →
      takeValue (fuel + 1) (prettyChars level v ++ rest) = some (v.sorted, rest)) :
    ReadBack v := by
  intro level fuel rest hrest hfuel
  obtain ⟨c, more, htext, -⟩ := exists_solid hv level
  cases fuel with
  | zero =>
      rw [htext] at hfuel
      exact absurd hfuel (Nat.not_succ_le_zero _)
  | succ fuel => exact h level fuel rest hrest hfuel

lemma readBack_int {n : Int} (low : -0x8000000000000000 ≤ n) (high : n < 0x10000000000000000) :
    ReadBack (.int n) := by
  refine readBack_of_step (.int low high) fun level fuel rest hrest _ => ?_
  have htext : prettyChars level (.int n) = (toString n).toList := rfl
  obtain ⟨c, more, hcons, hc⟩ := exists_toString n
  have hnumber := takeNumber_toString low high hrest
  rw [hcons] at hnumber
  rw [htext, hcons]
  exact (takeValue_number hc).trans hnumber

lemma readBack_str (s : String) : ReadBack (.str s) := by
  refine readBack_of_step (.str s) fun level fuel rest _ _ => ?_
  have htext : prettyChars level (.str s) = '"' :: s.toList.flatMap stringChar ++ ['"'] := rfl
  rw [htext, List.append_assoc, List.singleton_append, List.cons_append, takeValue_quote,
    stringTail_body]
  rfl

lemma readBack_arr (h : ∀ item ∈ items, item.Exact) (ih : ∀ item ∈ items, ReadBack item) :
    ReadBack (.arr items) := by
  refine readBack_of_step (.arr h) fun level fuel rest _ hfuel => ?_
  cases items with
  | nil => rfl
  | cons item items =>
      have htext : prettyChars level (.arr (item :: items)) = '[' :: newLine (level + 1) ++
          (itemsChars (level + 1) (item :: items) ++ newLine level ++ [']']) := by
        rw [prettyChars, itemsChars]
        simp only [List.append_assoc]
      obtain ⟨c, more, hcons, hc⟩ := exists_solid (h item List.mem_cons_self) (level + 1)
      rw [htext] at hfuel ⊢
      simp only [List.length_append, List.length_cons, length_newLine] at hfuel
      rw [List.append_assoc, List.append_assoc, List.singleton_append, takeValue_items,
        takeItems_chars (List.cons_ne_nil _ _) ih [] (by omega)]
      · rfl
      · exact ⟨c, _, by rw [itemsChars, hcons]; rfl, hc⟩

lemma readBack_obj (h : ∀ e ∈ members, e.2.Exact) (ih : ∀ e ∈ members, ReadBack e.2) :
    ReadBack (.obj members) := by
  refine readBack_of_step (.obj h) fun level fuel rest _ hfuel => ?_
  cases members with
  | nil => rfl
  | cons e members =>
      obtain ⟨name, v⟩ := e
      have htext : prettyChars level (.obj ((name, v) :: members)) =
          '\x7b' :: newLine (level + 1) ++
            (membersChars (level + 1) ((name, v) :: members) ++ newLine level ++ ['\x7d']) := by
        rw [prettyChars, membersChars]
        simp only [List.append_assoc, List.cons_append]
      rw [htext] at hfuel ⊢
      simp only [List.length_append, List.length_cons, length_newLine] at hfuel
      rw [List.append_assoc, List.append_assoc, List.singleton_append, takeValue_members,
        takeMembers_chars (List.cons_ne_nil _ _) ih Dict.empty (by omega)]
      · rfl
      · exact ⟨_, rfl⟩

/-- **One value**: every value without floating-point numbers is read back at every level. -/
theorem Exact.readBack {v : Json} (h : v.Exact) : ReadBack v := by
  induction h with
  | null => exact readBack_of_step .null fun _ _ _ _ _ => rfl
  | bool b => exact readBack_of_step (.bool b) fun _ _ _ _ _ => by cases b <;> rfl
  | int low high => exact readBack_int low high
  | str s => exact readBack_str s
  | arr h ih => exact readBack_arr h ih
  | obj h ih => exact readBack_obj h ih

end Values

/-- **Printed values**: a value without floating-point numbers that is written over several lines
and ended by a new line is read back, with the members of its objects in the order of their
names. -/
theorem ofText?_pretty {v : Json} (h : v.Exact) : ofText? (v.pretty ++ "\n") = some v.sorted := by
  have htext : (v.pretty ++ "\n").toList = prettyChars 0 v ++ ['\n'] := by
    rw [String.toList_append, pretty, String.toList_ofList]
    rfl
  have hends : Ends ['\n'] := ends_newLine 0 []
  have hread := h.readBack 0 (2 * (prettyChars 0 v ++ ['\n']).length + 2) ['\n'] hends
    (by rw [List.length_append]; omega)
  unfold ofText?
  simp only [htext, hread]
  rfl

/-! ### Objects whose names are distinct -/

section Objects

variable {α : Type} {name : String} {v : Json} {members : List (String × Json)}

lemma perm_insertEntry {a : α} {entries : List (String × α)} (h : name ∉ entries.map (·.1)) :
    (insertEntry name a entries).Perm ((name, a) :: entries) := by
  induction entries with
  | nil => exact .refl _
  | cons e entries ih =>
      obtain ⟨other, b⟩ := e
      obtain ⟨hne, hrest⟩ : name ≠ other ∧ name ∉ entries.map (·.1) := by simpa using h
      rw [insertEntry, if_neg hne]
      split
      · exact .refl _
      · exact ((ih hrest).cons _).trans (.swap _ _ _)

lemma perm_foldl_insert {entries : List (String × α)} (d : Dict α)
    (h : ((d.entries ++ entries).map (·.1)).Nodup) :
    (entries.foldl (fun d e => d.insert e.1 e.2) d).entries.Perm (d.entries ++ entries) := by
  induction entries generalizing d with
  | nil => simp
  | cons e entries ih =>
      have hmoved : ((d.insert e.1 e.2).entries ++ entries).Perm (d.entries ++ e :: entries) := by
        refine List.Perm.trans ?_ List.perm_middle.symm
        refine (perm_insertEntry fun hmem => ?_).append_right entries
        rw [List.map_append, List.nodup_append] at h
        exact h.2.2 _ hmem _ (List.mem_map_of_mem List.mem_cons_self) rfl
      exact (ih _ ((hmoved.map _).nodup_iff.mpr h)).trans hmoved

lemma perm_ofList {entries : List (String × α)} (h : (entries.map (·.1)).Nodup) :
    (Dict.ofList entries).entries.Perm entries :=
  perm_foldl_insert Dict.empty h

/-- A value is read back as it has been written, down to the order of its members. -/
def Kept (v : Json) : Prop := v.Exact ∧ v.sorted = v

lemma kept_bool (b : Bool) : Kept (.bool b) := ⟨.bool b, rfl⟩

lemma kept_str (s : String) : Kept (.str s) := ⟨.str s, rfl⟩

lemma kept_texts (ss : List String) : Kept (.texts ss) := by
  constructor
  · refine .arr fun item hitem => ?_
    obtain ⟨s, -, rfl⟩ := List.mem_map.mp hitem
    exact .str s
  · have hitems : sortedItems (ss.map .str) = ss.map .str := by
      induction ss with
      | nil => rfl
      | cons s ss ih => rw [List.map_cons, sortedItems, ih]; rfl
    rw [texts, sorted, hitems]

lemma sortedMembers_eq (h : ∀ e ∈ members, e.2.sorted = e.2) : sortedMembers members = members := by
  induction members with
  | nil => rfl
  | cons e members ih =>
      rw [sortedMembers, h e List.mem_cons_self, ih fun f hf => h f (List.mem_cons_of_mem _ hf)]

lemma kept_table (d : Dict String) : Kept (.table d) := by
  have hstr : ∀ e ∈ d.entries.map fun e => (e.1, Json.str e.2), Kept e.2 := by
    intro e he
    obtain ⟨e, -, rfl⟩ := List.mem_map.mp he
    exact kept_str e.2
  have hrise : NamesRise (d.entries.map fun e => (e.1, Json.str e.2)) :=
    List.pairwise_map.mpr d.rise
  have hentries := entries_foldl_insert Dict.empty hrise
  refine ⟨.obj fun e he => (hstr e he).1, ?_⟩
  rw [table, sorted, sortedMembers_eq fun e he => (hstr e he).2]
  exact congrArg Json.obj hentries

/-- **Printed objects**: an object with distinct names, whose members are kept as they are, is read
back with the same members, in whatever order. -/
theorem exists_ofText?_pretty (hnames : (members.map (·.1)).Nodup) (h : ∀ e ∈ members, Kept e.2) :
    ∃ printed, ofText? ((Json.obj members).pretty ++ "\n") = some (.obj printed) ∧
      printed.Perm members := by
  refine ⟨_, ofText?_pretty (.obj fun e he => (h e he).1), ?_⟩
  rw [sortedMembers_eq fun e he => (h e he).2]
  exact perm_ofList hnames

end Objects

end TestScout.Json
