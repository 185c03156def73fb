import Mathlib.Data.Nat.Basic
import Reconciliation.Text.LowerCase
/-!
# The lower case of a lower case

A text in lower case is its own lower case (`lowerCase_lowerCase`). It comes down to the letters: the small letter of a
capital one is no capital letter itself, in any script. The rows of the table are told apart two by two for this, so that
no letter is looked at on its own.
-/

namespace Reconciliation

namespace Text

/-- A row of the table of capital letters. -/
abbrev CapitalRow : Type := Nat × Nat × Nat × Int

namespace CapitalRow

/-- Whether a character is one of the capital letters of a row. -/
def contains (r : CapitalRow) (n : Nat) : Bool :=
  r.1 ≤ n && n ≤ r.2.1 && (n - r.1) % r.2.2.1 == 0

/-- The number of the small letter of a capital one. -/
def smallOf (r : CapitalRow) (n : Nat) : Nat :=
  (n + r.2.2.2).toNat

/-- The small letters of a row are characters. -/
def Sound (r : CapitalRow) : Prop :=
  0 ≤ r.1 + r.2.2.2 ∧ (r.2.1 + r.2.2.2 < 0xD800 ∨ 0xE000 ≤ r.1 + r.2.2.2 ∧ r.2.1 + r.2.2.2 < 0x110000)

instance (r : CapitalRow) : Decidable r.Sound := by
  unfold Sound
  infer_instance

/-- Whether the small letters of a row lie before or after the capitals of another one, or in the gaps between these. -/
def isApart (r q : CapitalRow) : Bool :=
  (r.smallOf r.2.1).blt q.1 || q.2.1.blt (r.smallOf r.1)
    || decide ((r.1 = r.2.1 ∨ q.2.2.1 ∣ r.2.2.1) ∧ ¬ (q.2.2.1 : Int) ∣ r.1 + r.2.2.2 - q.1)

variable {r q : CapitalRow} {n : Nat}

theorem contains_iff : r.contains n = true ↔ r.1 ≤ n ∧ n ≤ r.2.1 ∧ r.2.2.1 ∣ n - r.1 := by
  simp [contains, Nat.dvd_iff_mod_eq_zero, and_assoc]

theorem toNat_smallOf (hr : r.Sound) (hn : r.contains n = true) : (Char.ofNat (r.smallOf n)).toNat = r.smallOf n := by
  obtain ⟨hfirst, hlast, -⟩ := contains_iff.1 hn
  obtain ⟨hpos, hrange⟩ := hr
  have hvalid : (r.smallOf n).isValidChar := by
    rw [Nat.isValidChar, smallOf]
    omega
  rw [Char.ofNat, dif_pos hvalid]
  rfl

theorem smallOf_eq (hr : r.Sound) (hn : r.1 ≤ n) : (r.smallOf n : Int) = n + r.2.2.2 := by
  obtain ⟨hpos, -⟩ := hr
  exact Int.toNat_of_nonneg (by omega)

theorem contains_smallOf (hr : r.Sound) (h : r.isApart q = true) (hn : r.contains n = true) :
    q.contains (r.smallOf n) = false := by
  obtain ⟨hfirst, hlast, hstep⟩ := contains_iff.1 hn
  have hsmall := smallOf_eq hr hfirst
  have hsmallFirst := smallOf_eq hr (Nat.le_refl r.1)
  have hsmallLast := smallOf_eq hr (Nat.le_trans hfirst hlast)
  rw [Bool.eq_false_iff]
  intro hq
  obtain ⟨hqfirst, hqlast, hqstep⟩ := contains_iff.1 hq
  simp only [isApart, Bool.or_eq_true, Nat.blt_eq, decide_eq_true_eq] at h
  rcases h with (h | h) | ⟨hsteps, hgap⟩
  · omega
  · omega
  · -- The first small letter of the row is a number of steps away from this one, and so it would be in the other row.
    have hplace : (q.2.2.1 : Int) ∣ n + r.2.2.2 - q.1 := by
      have hcast := Int.natCast_dvd_natCast.2 hqstep
      rwa [Int.ofNat_sub hqfirst, hsmall] at hcast
    have hback : (q.2.2.1 : Int) ∣ n - r.1 := by
      rcases hsteps with hsingle | hdvd
      · have hzero : (n : Int) - r.1 = 0 := by omega
        rw [hzero]
        exact Int.dvd_zero _
      · have hcast := Int.natCast_dvd_natCast.2 (Nat.dvd_trans hdvd hstep)
        rwa [Int.ofNat_sub hfirst] at hcast
    have hdifference := Int.dvd_sub hplace hback
    have heq : (n : Int) + r.2.2.2 - q.1 - (n - r.1) = r.1 + r.2.2.2 - q.1 := by omega
    rw [heq] at hdifference
    exact hgap hdifference

end CapitalRow

open CapitalRow

theorem sound_of_mem_capitals : ∀ r ∈ capitals, Sound r := by
  decide +kernel

theorem isApart_of_mem_capitals {r q : CapitalRow} (hr : r ∈ capitals) (hq : q ∈ capitals) : r.isApart q = true := by
  have hall : (capitals.all fun r => capitals.all (isApart r)) = true := by decide +kernel
  exact List.all_eq_true.1 (List.all_eq_true.1 hall r hr) q hq

/-- The dotted capital I, whose dot is a character of its own in lower case. -/
def dottedCapitalI : CapitalRow := (0x130, 0x130, 1, 0)

theorem isApart_dottedCapitalI {r : CapitalRow} (hr : r ∈ capitals) : r.isApart dottedCapitalI = true := by
  have hall : (capitals.all fun r => isApart r dottedCapitalI) = true := by decide +kernel
  exact List.all_eq_true.1 hall r hr

/-- A character that is kept in lower case. -/
def IsSmall (c : Char) : Prop :=
  lowerChar c = c ∧ c.toNat ≠ 0x130

theorem lowerChar_eq (c : Char) :
    lowerChar c = match capitals.find? fun r => contains r c.toNat with
      | some r => Char.ofNat (smallOf r c.toNat)
      | none => c := rfl

theorem isSmall_lowerChar {c : Char} (hc : c.toNat ≠ 0x130) : IsSmall (lowerChar c) := by
  rw [lowerChar_eq]
  split
  · rename_i r hfound
    have hr : r ∈ capitals := List.mem_of_find?_eq_some hfound
    have hn : contains r c.toNat = true := List.find?_some (p := fun r => contains r c.toNat) hfound
    have hsound := sound_of_mem_capitals r hr
    rw [IsSmall, lowerChar_eq, toNat_smallOf hsound hn]
    have hnone : capitals.find? (fun q => contains q (smallOf r c.toNat)) = none := by
      rw [List.find?_eq_none]
      intro q hq
      rw [contains_smallOf hsound (isApart_of_mem_capitals hr hq) hn]
      exact Bool.false_ne_true
    rw [hnone]
    refine ⟨rfl, fun hdotted => ?_⟩
    have happart := contains_smallOf hsound (isApart_dottedCapitalI hr) hn
    rw [hdotted] at happart
    exact absurd happart (by decide)
  · rename_i hnone
    rw [IsSmall, lowerChar_eq, hnone]
    exact ⟨rfl, hc⟩

theorem isSmall_of_mem_lowerAfter {before cs : List Char} {c : Char} (h : c ∈ lowerAfter before cs) : IsSmall c := by
  induction cs generalizing before with
  | nil => cases h
  | cons d rest ih =>
    rw [lowerAfter] at h
    rcases List.mem_append.1 h with h | h
    · split_ifs at h with hdotted hsigma
      · have heither : c = 'i' ∨ c = Char.ofNat 0x307 := by simpa using h
        rcases heither with rfl | rfl <;> exact ⟨by decide +kernel, by decide⟩
      · rw [List.mem_singleton.1 h]
        split_ifs <;> exact ⟨by decide +kernel, by decide⟩
      · rw [List.mem_singleton.1 h]
        exact isSmall_lowerChar hdotted
    · exact ih h

theorem lowerAfter_of_isSmall {cs : List Char} (h : ∀ c ∈ cs, IsSmall c) (before : List Char) :
    lowerAfter before cs = cs := by
  induction cs generalizing before with
  | nil => rfl
  | cons c rest ih =>
    obtain ⟨hsmall, hdotted⟩ := h c List.mem_cons_self
    have hsigma : c.toNat ≠ 0x3A3 := by
      intro hsigma
      have hc : c = Char.ofNat 0x3A3 := Char.toNat_inj.1 hsigma
      rw [hc] at hsmall
      exact absurd hsmall (by decide +kernel)
    rw [lowerAfter, if_neg hdotted, if_neg hsigma, hsmall, ih fun d hd => h d (List.mem_cons_of_mem c hd)]
    rfl

/-- A text in lower case is its own lower case. -/
theorem lowerCase_lowerCase (s : String) : lowerCase (lowerCase s) = lowerCase s := by
  simp only [lowerCase, String.toList_ofList]
  rw [lowerAfter_of_isSmall fun c hc => isSmall_of_mem_lowerAfter hc]

end Text

end Reconciliation
