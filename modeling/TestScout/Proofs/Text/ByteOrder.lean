import Mathlib.Tactic.Lemma
import Mathlib.Tactic.SplitIfs
import TestScout.Proofs.Path.Text

/-!
The order of texts, by their characters and by their bytes. A longer form of a character begins
with a greater byte than any shorter one, and two forms of one length compare as the numbers that
their bytes are cut from; so of two characters the bytes of the smaller one come first, whatever
follows them, and texts are in the order of their bytes.
-/

namespace TestScout.Text

lemma utf8EncodeChar_append_lt {c d : Char} (h : c < d) (xs ys : List UInt8) :
    String.utf8EncodeChar c ++ xs < String.utf8EncodeChar d ++ ys := by
  have hlt : c.val.toNat < d.val.toNat := UInt32.lt_iff_toNat_lt.mp h
  have hd : d.val.toNat < 0x110000 := by
    rcases d.valid with hd | hd <;> omega
  have hbytes {a b : UInt8} {as bs : List UInt8} :
      a :: as < b :: bs ↔ a.toNat < b.toNat ∨ a.toNat = b.toNat ∧ as < bs := by
    rw [List.cons_lt_cons_iff, UInt8.lt_iff_toNat_lt, UInt8.toNat_inj]
  have hbyte {k : Nat} (hk : k < 256) : (UInt8.ofNat k).toNat = k := by
    rw [UInt8.toNat_ofNat', Nat.mod_eq_of_lt hk]
  unfold String.utf8EncodeChar
  simp only
  generalize c.val.toNat = m, d.val.toNat = n at hlt hd
  have hfirst {k : Nat} (hk : k < 0x110000) : k / 262144 % 8 = k / 262144 :=
    Nat.mod_eq_of_lt (by omega)
  have hlast : m / 64 < n / 64 ∨ m / 64 = n / 64 ∧ m % 64 < n % 64 := by omega
  have hthird : m / 64 < n / 64 →
      m / 4096 < n / 4096 ∨ m / 4096 = n / 4096 ∧ m / 64 % 64 < n / 64 % 64 := by omega
  have hsecond : m / 4096 < n / 4096 →
      m / 262144 < n / 262144 ∨
        m / 262144 = n / 262144 ∧ m / 4096 % 64 < n / 4096 % 64 := by omega
  -- one case for each pair of lengths; the first byte in which the forms differ decides
  split_ifs
  all_goals
    simp (disch := omega) only [List.cons_append, List.nil_append, hbytes, hbyte, hfirst]
    omega

lemma flatMap_utf8EncodeChar_lt {cs ds : List Char} (h : cs < ds) :
    cs.flatMap String.utf8EncodeChar < ds.flatMap String.utf8EncodeChar := by
  induction h with
  | @nil d ds =>
      obtain ⟨b, bs, hd⟩ := List.exists_cons_of_ne_nil (String.utf8EncodeChar_ne_nil (c := d))
      rw [List.flatMap_nil, List.flatMap_cons, hd, List.cons_append]
      exact List.nil_lt_cons _ _
  | rel h => exact utf8EncodeChar_append_lt h _ _
  | cons _ ih =>
      rw [List.flatMap_cons, List.flatMap_cons]
      exact List.append_left_lt ih

/-- **Byte order**: the bytes of a smaller text come first. -/
theorem toBytes_lt {a b : String} (h : a < b) : toBytes a < toBytes b := by
  rw [toBytes_eq_flatMap, toBytes_eq_flatMap]
  exact flatMap_utf8EncodeChar_lt h

end TestScout.Text
