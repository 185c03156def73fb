import Mathlib.Tactic.IntervalCases
import Mathlib.Tactic.Ring
import Reconciliation.Time.Calendar
/-!
# Dates and their days

Every day has a date, and from its date the day is found again (`toDays_ofDays`). An era of 400 years is cut
into centuries, these into cycles of four years, and these into years. A year begins in March, so its leap day
comes last, and the leap day of a cycle or of a century is the last day of its last year (`Place`).
-/

namespace Reconciliation

namespace Date

/-- A day of an era by its century, its cycle of four years, its year and its day in the year. -/
structure Place (d c f g t : Int) : Prop where
  eq : d = 36524 * c + 1461 * f + 365 * g + t
  century : 0 ≤ c ∧ c ≤ 3
  cycle : 0 ≤ f ∧ f ≤ 24
  year : 0 ≤ g ∧ g ≤ 3
  dayOfYear : 0 ≤ t ∧ t ≤ 365
  leap : t = 365 → g = 3 ∧ (f = 24 → c = 3)

variable {d c f g t : Int}

theorem exists_place (hd0 : 0 ≤ d) (hd : d < daysPerEra) : ∃ c f g t, Place d c f g t := by
  rw [daysPerEra] at hd
  -- The last day of an era and the last day of a cycle would be the first one of a further part.
  have hcentury : ∃ c r, d = 36524 * c + r ∧ 0 ≤ c ∧ c ≤ 3 ∧ 0 ≤ r ∧ (r ≤ 36523 ∨ c = 3 ∧ r = 36524) := by
    by_cases h : d = 146096
    · exact ⟨3, 36524, by omega⟩
    · exact ⟨d / 36524, d % 36524, by omega⟩
  obtain ⟨c, r, hc, hc0, hc3, hr0, hr⟩ := hcentury
  have hyear : ∃ g t, r % 1461 = 365 * g + t ∧ 0 ≤ g ∧ g ≤ 3 ∧ 0 ≤ t ∧ (t ≤ 364 ∨ g = 3 ∧ t = 365) := by
    by_cases h : r % 1461 = 1460
    · exact ⟨3, 365, by omega⟩
    · exact ⟨r % 1461 / 365, r % 1461 % 365, by omega⟩
  obtain ⟨g, t, hg, hg0, hg3, ht0, ht⟩ := hyear
  refine ⟨c, r / 1461, g, t, ?_, ⟨hc0, hc3⟩, ?_, ⟨hg0, hg3⟩, ?_, ?_⟩
  all_goals omega

theorem Place.yearOfEra (h : Place d c f g t) :
    (d - d / 1460 + d / 36524 - d / 146096) / 365 = 100 * c + 4 * f + g := by
  obtain ⟨hd, ⟨hc0, hc3⟩, ⟨hf0, hf24⟩, ⟨hg0, hg3⟩, ⟨ht0, ht⟩, hleap⟩ := h
  by_cases hlast : d = 146096
  · subst hlast
    omega
  · have hcenturies : d / 36524 = c := by omega
    have heras : d / 146096 = 0 := by omega
    have hcycles : d / 1460 = 25 * c + f ∨ d / 1460 = 25 * c + f + 1 ∧ g = 3 := by omega
    omega

theorem Place.isLeap (h : Place d c f g t) (ht : t = 365) (e : Int) :
    Date.isLeap (100 * c + 4 * f + g + e * 400 + 1) = true := by
  obtain ⟨hg, hf⟩ := h.leap ht
  obtain ⟨hf0, hf24⟩ := h.cycle
  simp only [Date.isLeap, Bool.and_eq_true, Bool.or_eq_true, beq_iff_eq, bne_iff_ne]
  refine ⟨by omega, ?_⟩
  by_cases hlast : f = 24
  · right
    rw [hf hlast, hlast]
    omega
  · left
    omega

/-! ### Years that begin in March -/

/-- The date of a day of a year that begins in March. -/
def ofMarch (year dayOfYear : Int) : Date :=
  let month := (5 * dayOfYear + 2) / 153
  { year := year + if month < 10 then 0 else 1
    month := (if month < 10 then month + 3 else month - 9).toNat
    day := (dayOfYear - (153 * month + 2) / 5 + 1).toNat }

theorem month_bounds {m : Int} (ht0 : 0 ≤ t) (ht : t ≤ 365) (hm : (5 * t + 2) / 153 = m) :
    0 ≤ m ∧ m ≤ 11 ∧ 0 ≤ t - (153 * m + 2) / 5 := by
  omega

theorem toDays_ofMarch {y : Int} (hy0 : 0 ≤ y) (hy : y ≤ 399) (ht0 : 0 ≤ t) (ht : t ≤ 365) (e : Int) :
    toDays (ofMarch (y + e * 400) t) = e * daysPerEra + (y * 365 + y / 4 - y / 100 + t) - epochDay := by
  obtain ⟨m, hmonth⟩ : ∃ m, (5 * t + 2) / 153 = m := ⟨_, rfl⟩
  obtain ⟨hm0, hm, hday⟩ := month_bounds ht0 ht hmonth
  simp only [ofMarch, toDays, hmonth]
  have hera : (y + e * 400) / 400 = e := by omega
  have hyear : (y + e * 400) % 400 = y := by omega
  have hdayNat : (((t - (153 * m + 2) / 5 + 1).toNat : Nat) : Int) = t - (153 * m + 2) / 5 + 1 := by omega
  have hmonthNat : ((m.toNat : Nat) : Int) = m := by omega
  by_cases h : m < 10
  · have hlate : ¬ ((m + 3).toNat ≤ 2) := by omega
    have hindex : ((m + 3).toNat + 9) % 12 = m.toNat := by omega
    simp only [if_pos h, if_neg hlate, hindex, hmonthNat, add_zero, hera, hyear, hdayNat]
    ring
  · have hearly : (m - 9).toNat ≤ 2 := by omega
    have hindex : ((m - 9).toNat + 9) % 12 = m.toNat := by omega
    simp only [if_neg h, if_pos hearly, hindex, hmonthNat, add_sub_cancel_right, hera, hyear, hdayNat]
    ring

theorem isValid_ofMarch {year : Int} (ht0 : 0 ≤ t) (ht : t ≤ 365)
    (hleap : t = 365 → Date.isLeap (year + 1) = true) : (ofMarch year t).isValid = true := by
  obtain ⟨m, hmonth⟩ : ∃ m, (5 * t + 2) / 153 = m := ⟨_, rfl⟩
  obtain ⟨hm0, hm, hday⟩ := month_bounds ht0 ht hmonth
  simp only [ofMarch, hmonth, isValid, daysInMonth, Bool.and_eq_true, decide_eq_true_eq]
  interval_cases m
  case «11» =>
    norm_num
    by_cases h : t = 365
    · simp [h, hleap h]
    · split_ifs <;> omega
  all_goals
    norm_num
    omega

theorem Place.ofDays (h : Place d c f g t) {days : Int} (hd : (days + epochDay) % daysPerEra = d) :
    Date.ofDays days = ofMarch (100 * c + 4 * f + g + (days + epochDay) / daysPerEra * 400) t := by
  obtain ⟨ht0, ht⟩ := h.dayOfYear
  have hyear := h.yearOfEra
  have hday : d - (365 * (100 * c + 4 * f + g) + (100 * c + 4 * f + g) / 4 - (100 * c + 4 * f + g) / 100) = t := by
    obtain ⟨heq, ⟨hc0, hc3⟩, ⟨hf0, hf24⟩, ⟨hg0, hg3⟩, -, -⟩ := h
    clear hyear hd
    omega
  simp only [Date.ofDays, ofMarch, hd, hyear, hday]
  obtain ⟨hm0, hm, -⟩ := month_bounds ht0 ht rfl
  generalize (5 * t + 2) / 153 = m at *
  by_cases hlate : m < 10
  · simp only [if_pos hlate]
    rw [if_neg (by omega)]
  · simp only [if_neg hlate]
    rw [if_pos (by omega)]

/-! ### Days and dates -/

theorem exists_place_of_day (days : Int) : ∃ c f g t, Place ((days + epochDay) % daysPerEra) c f g t :=
  exists_place (Int.emod_nonneg _ (by decide)) (Int.emod_lt_of_pos _ (by decide))

theorem toDays_ofDays (days : Int) : toDays (ofDays days) = days := by
  obtain ⟨c, f, g, t, h⟩ := exists_place_of_day days
  rw [h.ofDays rfl]
  obtain ⟨heq, ⟨hc0, hc3⟩, ⟨hf0, hf24⟩, ⟨hg0, hg3⟩, ⟨ht0, ht⟩, -⟩ := h
  have hsplit := Int.mul_ediv_add_emod (days + epochDay) daysPerEra
  generalize (days + epochDay) / daysPerEra = e at *
  generalize (days + epochDay) % daysPerEra = d at *
  have hyears : (100 * c + 4 * f + g) / 4 = 25 * c + f := by
    clear heq hsplit
    omega
  have hcenturies : (100 * c + 4 * f + g) / 100 = c := by
    clear heq hsplit hyears
    omega
  rw [toDays_ofMarch (by omega) (by omega) ht0 ht, hyears, hcenturies, mul_comm e]
  omega

theorem isValid_ofDays (days : Int) : (ofDays days).isValid = true := by
  obtain ⟨c, f, g, t, h⟩ := exists_place_of_day days
  rw [h.ofDays rfl]
  exact isValid_ofMarch h.dayOfYear.1 h.dayOfYear.2 fun ht => h.isLeap ht _

end Date

end Reconciliation
