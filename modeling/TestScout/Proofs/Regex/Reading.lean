import Mathlib.Tactic.Lemma
import TestScout.Pattern
import TestScout.Proofs.Regex.Meaning

/-!
Reading escaped text as a regular expression. An escaped character is one character without a
meaning of its own or a backslash with one after it; either way the parser takes it off the front
and adds the one item that stands for it, whatever follows. So an escaped text adds a row of single
characters, and what stands around it in a pattern is read as if it stood alone.
-/

namespace TestScout.Regex.Reading

open Pattern (special escapeChar)

@[simp] lemma run?_nil (r : Reading) : r.run? [] = some r := by
  rw [run?]

lemma run?_cons {r r' : Reading} {c : Char} {rest : List Char} {n : Nat}
    (h : r.step? c rest = some (r', n)) : r.run? (c :: rest) = r'.run? (rest.drop n) := by
  rw [run?, h]

/-! ### One character -/

lemma special_eq :
    special = ['\\', '^', '$', '.', '|', '?', '*', '+', '(', ')', '[', ']', '{', '}'] := by
  decide

lemma escape?_special {f : Flags} {c : Char} {rest : List Char} (h : c ∈ special) :
    escape? f (c :: rest) = some (.char c, 1) := by
  simp only [special_eq, List.mem_cons, List.not_mem_nil, or_false] at h
  rcases h with rfl | rfl | rfl | rfl | rfl | rfl | rfl | rfl | rfl | rfl | rfl | rfl | rfl | rfl
    <;> rfl

lemma step?_special {r : Reading} {c : Char} {rest : List Char} (hv : r.flags.verbose = false)
    (h : c ∈ special) : r.step? '\\' (c :: rest) = some (r.add (r.flags.char c), 1) := by
  simp [step?, hv, escape?_special h, escaped]

lemma step?_plain {r : Reading} {c : Char} {rest : List Char} (hv : r.flags.verbose = false)
    (h : c ∉ special) : r.step? c rest = some (r.add (r.flags.char c), 0) := by
  simp only [special_eq, List.mem_cons, List.not_mem_nil, or_false, not_or] at h
  unfold step?
  rw [hv]
  simp only [Bool.false_and, Bool.false_eq_true, if_false]
  split <;> simp_all

lemma run?_escapeChar {r : Reading} (hv : r.flags.verbose = false) (c : Char)
    (rest : List Char) :
    r.run? (escapeChar c ++ rest) = (r.add (r.flags.char c)).run? rest := by
  unfold escapeChar
  by_cases h : c ∈ special
  · rw [if_pos (by simpa using h)]
    exact run?_cons (step?_special hv h)
  · rw [if_neg (by simpa using h)]
    exact run?_cons (step?_plain hv h)

/-! ### A whole text -/

def addAll (r : Reading) (items : List Regex) : Reading := items.foldl add r

lemma addAll_eq (r : Reading) (items : List Regex) :
    r.addAll items =
      { r with top := { r.top with items := (items.map some).reverse ++ r.top.items } } := by
  induction items generalizing r with
  | nil => rfl
  | cons item items ih =>
      have hcons : r.addAll (item :: items) = (r.add item).addAll items := rfl
      rw [hcons, ih]
      simp [add]

/-- The characters of an escaped text are read as a row of single characters. -/
theorem run?_escape {r : Reading} (hf : r.flags = .initial) (cs rest : List Char) :
    r.run? (cs.flatMap escapeChar ++ rest) = (r.addAll (literal cs)).run? rest := by
  induction cs generalizing r with
  | nil => rfl
  | cons c cs ih =>
      have hc : r.flags.char c = .one (.single c) := by rw [hf]; rfl
      rw [List.flatMap_cons, List.append_assoc, run?_escapeChar (by rw [hf]; rfl), hc]
      exact ih (r := r.add (.one (.single c))) hf

end TestScout.Regex.Reading
