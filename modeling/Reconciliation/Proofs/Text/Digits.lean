import Mathlib.Algebra.Group.Nat.Defs
import Mathlib.Data.List.Induction
import Mathlib.Data.Nat.Basic
import Reconciliation.Text.Blank
import Reconciliation.Text.Digits
/-!
# Digits that were written

The digits of a number stand for it, with zeros before them or without, and a digit is no blank.
-/

namespace Reconciliation

namespace Text

theorem decimalValue_eq_ofDigitChars (ds : List Char) : decimalValue ds = Nat.ofDigitChars 10 ds 0 := by
  have hstep : (fun n c => n * 10 + digitValue c) = fun n c => 10 * n + (c.toNat - '0'.toNat) := by
    funext n c
    rw [digitValue, Nat.mul_comm]
  rw [decimalValue, hstep]
  rfl

theorem decimalValue_toDigits (n : Nat) : decimalValue (Nat.toDigits 10 n) = n := by
  rw [decimalValue_eq_ofDigitChars, Nat.ofDigitChars_ten_toDigits]

theorem decimalValue_zeros_append (k : Nat) (ds : List Char) :
    decimalValue (List.replicate k '0' ++ ds) = decimalValue ds := by
  rw [decimalValue_eq_ofDigitChars, decimalValue_eq_ofDigitChars, Nat.ofDigitChars_append,
    Nat.ofDigitChars_replicate_zero, Nat.mul_zero]

theorem decimalValue_append (ds : List Char) (c : Char) :
    decimalValue (ds ++ [c]) = decimalValue ds * 10 + digitValue c := by
  simp only [decimalValue, List.foldl_append, List.foldl_cons, List.foldl_nil]

theorem digitChar_digitValue {c : Char} (h : c.isDigit = true) :
    (digitValue c).digitChar = c ∧ digitValue c < 10 := by
  have hbounds := Char.isDigit_iff_toNat.1 h
  have hzero : '0'.toNat = 48 := rfl
  have hnine : '9'.toNat = 57 := rfl
  have hlt : digitValue c < 10 := by
    rw [digitValue]
    omega
  refine ⟨?_, hlt⟩
  apply Char.toNat_inj.1
  rw [Nat.toNat_digitChar_of_lt_ten hlt, digitValue]
  omega

theorem decimalValue_lt {ds : List Char} (h : ∀ c ∈ ds, c.isDigit = true) : decimalValue ds < 10 ^ ds.length := by
  induction ds using List.reverseRecOn with
  | nil => exact Nat.one_pos
  | append_singleton ds c ih =>
    have hrest : decimalValue ds < 10 ^ ds.length := ih fun d hd => h d (List.mem_append_left _ hd)
    have hlast : digitValue c < 10 := (digitChar_digitValue (h c List.mem_concat_self)).2
    rw [decimalValue_append, List.length_append, List.length_singleton, Nat.pow_succ]
    omega

theorem isBlank_of_isDigit {c : Char} (h : c.isDigit = true) : isBlank c = false := by
  have hbounds : 48 ≤ c.toNat ∧ c.toNat ≤ 57 := by
    simpa [Char.isDigit, UInt32.le_iff_toNat_le] using h
  unfold isBlank
  simp only [Bool.or_eq_false_iff, Bool.and_eq_false_iff, decide_eq_false_iff_not, beq_eq_false_iff_ne]
  omega

theorem dropBlanks_cons {c : Char} (h : isBlank c = false) (rest : List Char) :
    dropBlanks (c :: rest) = c :: rest := by
  rw [dropBlanks, List.dropWhile_cons_of_neg (by simp [h])]

end Text

end Reconciliation
