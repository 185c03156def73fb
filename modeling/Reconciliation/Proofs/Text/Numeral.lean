import Mathlib.Data.List.Induction
import Reconciliation.Proofs.Text.Digits
/-!
# Numerals

The texts of a number are its decimal digits, after any number of zeros and after one plus sign or none (`Spells`). A
word is read from exactly these texts, as far as the number fits it (`word64?_eq_some_iff`): there is no other character
that is passed over, and a number that is too large is not cut.
-/

namespace Reconciliation

namespace Text

/-- Decimal digits, most significant first, with the number that they denote. There may be zeros before all others. -/
inductive Numeral : List Char → Nat → Prop
  | digit {d : Nat} (h : d < 10) : Numeral [d.digitChar] d
  | next {ds : List Char} {n d : Nat} (hds : Numeral ds n) (h : d < 10) : Numeral (ds ++ [d.digitChar]) (n * 10 + d)

/-- The texts of a number. -/
inductive Spells : String → Nat → Prop
  | unsigned {ds : List Char} {n : Nat} (h : Numeral ds n) : Spells (String.ofList ds) n
  | signed {ds : List Char} {n : Nat} (h : Numeral ds n) : Spells (String.ofList ('+' :: ds)) n

/-! ### Digits -/

theorem digitValue_digitChar {d : Nat} (h : d < 10) : digitValue d.digitChar = d := by
  rw [digitValue, Nat.toNat_digitChar_of_lt_ten h]
  simp

/-- The numerals are the lists of digits, at least one, with their value. -/
theorem numeral_iff {ds : List Char} {n : Nat} :
    Numeral ds n ↔ ds ≠ [] ∧ (∀ c ∈ ds, c.isDigit = true) ∧ decimalValue ds = n := by
  constructor
  · intro h
    induction h with
    | digit hd => simp [Nat.isDigit_digitChar, hd, decimalValue, digitValue_digitChar]
    | next hds hd ih =>
      obtain ⟨-, hdigits, hvalue⟩ := ih
      refine ⟨by simp, ?_, ?_⟩
      · intro c hc
        rcases List.mem_append.1 hc with hc | hc
        · exact hdigits c hc
        · rw [List.mem_singleton.1 hc, Nat.isDigit_digitChar]
          exact decide_eq_true hd
      · rw [decimalValue_append, hvalue, digitValue_digitChar hd]
  · rintro ⟨hne, hdigits, rfl⟩
    -- A numeral grows at its end, so the induction takes the last digit off.
    induction ds using List.reverseRecOn with
    | nil => exact absurd rfl hne
    | append_singleton ds c ih =>
      obtain ⟨hchar, hlt⟩ := digitChar_digitValue (hdigits c (by simp))
      by_cases hds : ds = []
      · subst hds
        have hone := Numeral.digit hlt
        rw [hchar] at hone
        simpa [decimalValue] using hone
      · have hmore := Numeral.next (ih hds fun c hc => hdigits c (List.mem_append_left _ hc)) hlt
        rwa [hchar, ← decimalValue_append] at hmore

theorem spells_toString (n : Nat) : Spells (toString n) n := by
  refine .unsigned (numeral_iff.2 ⟨Nat.toDigits_ne_nil, fun c hc => ?_, decimalValue_toDigits n⟩)
  exact Nat.isDigit_of_mem_toDigits (by decide) (by decide) hc

/-! ### The sign -/

/-- A text without the plus sign that it may begin with. -/
def withoutPlus : List Char → List Char
  | '+' :: rest => rest
  | cs => cs

theorem Numeral.withoutPlus_eq {ds : List Char} {n : Nat} (h : Numeral ds n) : withoutPlus ds = ds := by
  rw [withoutPlus.eq_def]
  split
  · have hplus := (numeral_iff.1 h).2.1 '+' List.mem_cons_self
    cases hplus
  · rfl

theorem spells_iff {s : String} {n : Nat} : Spells s n ↔ Numeral (withoutPlus s.toList) n := by
  constructor
  · intro h
    cases h with
    | unsigned h => rwa [String.toList_ofList, h.withoutPlus_eq]
    | signed h => rwa [String.toList_ofList]
  · intro h
    rw [← String.ofList_toList (s := s)]
    rw [withoutPlus.eq_def] at h
    split at h
    · rename_i rest hs
      rw [hs]
      exact .signed h
    · exact .unsigned h

/-- A word is read from exactly the texts of the numbers that it can hold. -/
theorem word64?_eq_some_iff {s : String} {n : Nat} : word64? s = some n ↔ Spells s n ∧ n < Nat.pow 2 64 := by
  have hword : word64? s =
      if (withoutPlus s.toList).isEmpty || !(withoutPlus s.toList).all Char.isDigit then none
      else if decimalValue (withoutPlus s.toList) < Nat.pow 2 64 then some (decimalValue (withoutPlus s.toList))
      else none := rfl
  rw [hword, spells_iff, numeral_iff]
  generalize withoutPlus s.toList = ds
  have hdigits : (ds.isEmpty || !ds.all Char.isDigit) = false ↔ ds ≠ [] ∧ ∀ c ∈ ds, c.isDigit = true := by simp
  by_cases hds : ds ≠ [] ∧ ∀ c ∈ ds, c.isDigit = true
  · rw [hdigits.2 hds, if_neg Bool.false_ne_true]
    split_ifs with hrange
    · rw [Option.some.injEq]
      constructor
      · rintro rfl
        exact ⟨⟨hds.1, hds.2, rfl⟩, hrange⟩
      · exact fun h => h.1.2.2
    · refine iff_of_false nofun ?_
      rintro ⟨⟨-, -, rfl⟩, hlt⟩
      exact hrange hlt
  · rw [if_pos]
    · exact iff_of_false nofun fun h => hds ⟨h.1.1, h.1.2.1⟩
    · rwa [← Bool.not_eq_false, hdigits]

end Text

end Reconciliation
