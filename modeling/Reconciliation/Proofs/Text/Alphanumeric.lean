import Reconciliation.Proofs.Text.Digits
import Reconciliation.Text.Alphanumeric
/-!
# Words and the blanks around them

No letter and no numeral is a blank, in any script. So a text that begins and ends with one of them is not cut when the
blanks around it are.
-/

namespace Reconciliation

namespace Text

/-- The numbers of the blank characters. -/
def blanks : List Nat :=
  List.range' 9 5 ++ [0x20, 0x85, 0xA0, 0x1680] ++ List.range' 0x2000 11 ++ [0x2028, 0x2029, 0x202F, 0x205F, 0x3000]

theorem mem_blanks_of_isBlank {c : Char} (h : isBlank c = true) : c.toNat ∈ blanks := by
  simp only [isBlank, Bool.or_eq_true, Bool.and_eq_true, decide_eq_true_eq, beq_iff_eq] at h
  simp only [blanks, List.mem_append, List.mem_range'_1, List.mem_cons, List.not_mem_nil]
  omega

theorem isAlphanumeric_of_isBlank {c : Char} (h : isBlank c = true) : isAlphanumeric c = false := by
  have hmem := mem_blanks_of_isBlank h
  have hascii : ∀ n ∈ blanks, (Char.ofNat n).isAlphanum = false := by decide
  have hranges : (blanks.all fun n => alphanumericRanges.all fun r => n.blt r.1 || r.2.blt n) = true := by
    decide +kernel
  have hapart := List.all_eq_true.1 (List.all_eq_true.1 hranges _ hmem)
  simp only [Bool.or_eq_true, Nat.blt_eq] at hapart
  rw [isAlphanumeric, ← Char.ofNat_toNat c, hascii _ hmem, Bool.false_or, Char.ofNat_toNat, List.any_eq_false]
  intro r hr
  have hr := hapart r hr
  simp only [Bool.and_eq_true, decide_eq_true_eq]
  omega

theorem trim_eq_self {s : String} (hfirst : ∀ c ∈ s.toList.head?, isBlank c = false)
    (hlast : ∀ c ∈ s.toList.getLast?, isBlank c = false) : trim s = s := by
  have hkeep : ∀ cs : List Char, (∀ c ∈ cs.head?, isBlank c = false) → dropBlanks cs = cs := by
    intro cs h
    cases cs with
    | nil => rfl
    | cons c rest => exact dropBlanks_cons (h c rfl) rest
  rw [trim, hkeep _ hfirst, hkeep _ (by simpa using hlast), List.reverse_reverse, String.ofList_toList]

end Text

end Reconciliation
