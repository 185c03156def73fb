import Reconciliation.Time.Instant
/-!
# Ordinary instants

Outside leap seconds, instants are moved and compared exactly: one that was moved is ordinary again and as far away
as it was moved. Times are in order by their seconds and the nanoseconds into them, leap seconds included.
-/

namespace Reconciliation

namespace Instant

variable {t u : Instant}

theorem ofParts?_eq_some {seconds : Int} {nanos : Nat} (h : ofParts? seconds nanos = some t) :
    t.seconds = seconds ∧ t.nanos = nanos := by
  rw [ofParts?] at h
  split at h
  · cases h
    exact ⟨rfl, rfl⟩
  · cases h

theorem isLeap_iff : t.isLeap = true ↔ nanosPerSecond ≤ t.nanos := by
  rw [isLeap, decide_eq_true_eq]

theorem isLeap_eq_false_iff : t.isLeap = false ↔ t.nanos < nanosPerSecond := by
  rw [isLeap, decide_eq_false_iff_not, Nat.not_le]

/-- The whole seconds of a shift and of the nanoseconds with its rest move the second of an ordinary instant. -/
theorem shift?_eq_some {d : Int} (ht : t.isLeap = false) (h : t.shift? d = some u) :
    u.seconds = t.seconds + d.tdiv nanosPerSecond + (t.nanos + d.tmod nanosPerSecond) / nanosPerSecond ∧
      u.nanos = ((t.nanos + d.tmod nanosPerSecond) % nanosPerSecond).toNat := by
  rw [shift?, if_neg (Bool.eq_false_iff.1 ht)] at h
  exact ofParts?_eq_some h

theorem isLeap_of_shift? {d : Int} (ht : t.isLeap = false) (h : t.shift? d = some u) : u.isLeap = false := by
  obtain ⟨-, hnanos⟩ := shift?_eq_some ht h
  rw [isLeap_eq_false_iff, hnanos]
  generalize t.nanos + d.tmod nanosPerSecond = total
  rw [nanosPerSecond]
  omega

theorem since_of_not_isLeap (ht : t.isLeap = false) (hu : u.isLeap = false) :
    u.since t = (u.seconds - t.seconds) * nanosPerSecond + (u.nanos - t.nanos) := by
  simp only [since, ht, hu, Bool.false_eq_true, and_false, if_false, Int.add_zero]

/-- The nanoseconds since the beginning of 1970, leap seconds not counted. -/
def sinceEpoch (t : Instant) : Int :=
  t.seconds * nanosPerSecond + t.nanos

theorem since_eq_sub (ht : t.isLeap = false) (hu : u.isLeap = false) : u.since t = u.sinceEpoch - t.sinceEpoch := by
  rw [since_of_not_isLeap ht hu, sinceEpoch, sinceEpoch, Int.sub_mul]
  omega

/-- An ordinary instant is as far away as it was moved. -/
theorem since_of_shift? {d : Int} (ht : t.isLeap = false) (h : t.shift? d = some u) : u.since t = d := by
  obtain ⟨hseconds, hnanos⟩ := shift?_eq_some ht h
  have hparts : (nanosPerSecond : Int) * d.tdiv nanosPerSecond + d.tmod nanosPerSecond = d :=
    Int.mul_tdiv_add_tmod d nanosPerSecond
  rw [since_of_not_isLeap ht (isLeap_of_shift? ht h), hseconds, hnanos]
  generalize d.tdiv nanosPerSecond = wholes at *
  generalize d.tmod nanosPerSecond = rest at *
  rw [nanosPerSecond] at *
  omega

/-! ### Leap seconds and other seconds that are counted on -/

/-- A second other than the last of a minute is counted on. -/
def overruns (t : Instant) : Bool :=
  t.isLeap && t.seconds % 60 != 59

theorem overruns_iff : t.overruns = true ↔ nanosPerSecond ≤ t.nanos ∧ t.seconds % 60 ≠ 59 := by
  rw [overruns, Bool.and_eq_true, isLeap_iff, bne_iff_ne]

theorem overruns_eq_false_iff : t.overruns = false ↔ (t.isLeap = true → t.seconds % 60 = 59) := by
  rw [overruns, Bool.and_eq_false_imp, bne_eq_false_iff_eq]

theorem overruns_of_not_isLeap (h : t.isLeap = false) : t.overruns = false := by
  rw [overruns, h, Bool.false_and]

/-- The last second that a date can be given for is the last of its minute, so no other one overruns it. -/
theorem next_le_last (h : t.overruns = true) : t.seconds + 1 ≤ lastSecond := by
  have hlast : lastSecond = 8210266876799 := by decide
  have hle := t.le_last
  have hminute := (overruns_iff.1 h).2
  rw [hlast] at hle ⊢
  omega

/-- The same reading of a clock that does not overrun its second: what was counted on is in the next one. -/
def settled (t : Instant) : Instant :=
  if h : t.overruns = true then
    ⟨t.seconds + 1, t.nanos - nanosPerSecond, Int.le_add_one t.first_le, next_le_last h,
      Nat.lt_of_le_of_lt (Nat.sub_le _ _) t.nanos_lt⟩
  else t

theorem settled_of_not_overruns (h : t.overruns = false) : t.settled = t := by
  rw [settled, dif_neg (Bool.eq_false_iff.1 h)]

theorem settled_of_overruns (h : t.overruns = true) :
    t.settled.seconds = t.seconds + 1 ∧ t.settled.nanos = t.nanos - nanosPerSecond := by
  rw [settled, dif_pos h]
  exact ⟨rfl, rfl⟩

theorem isLeap_settled (h : t.overruns = true) : t.settled.isLeap = false := by
  have hlt := t.nanos_lt
  rw [isLeap_eq_false_iff, (settled_of_overruns h).2]
  omega

@[simp] theorem overruns_settled (t : Instant) : t.settled.overruns = false := by
  cases h : t.overruns with
  | true => exact overruns_of_not_isLeap (isLeap_settled h)
  | false => rw [settled_of_not_overruns h, h]

theorem settled_eq_self_iff : t.settled = t ↔ t.overruns = false := by
  refine ⟨fun h => ?_, settled_of_not_overruns⟩
  rw [← h, overruns_settled]

/-! ### The order of times -/

/-- By seconds, and within a second by nanoseconds. -/
instance : LE Instant :=
  ⟨fun t u => t.seconds < u.seconds ∨ t.seconds = u.seconds ∧ t.nanos ≤ u.nanos⟩

theorem le_def : t ≤ u ↔ t.seconds < u.seconds ∨ t.seconds = u.seconds ∧ t.nanos ≤ u.nanos := Iff.rfl

theorem le_refl (t : Instant) : t ≤ t :=
  .inr ⟨rfl, Nat.le_refl _⟩

theorem le_trans {v : Instant} (htu : t ≤ u) (huv : u ≤ v) : t ≤ v := by
  rw [le_def] at *
  omega

/-- Of ordinary times, one that is not before another is so many nanoseconds later. -/
theorem le_iff_since (ht : t.isLeap = false) (hu : u.isLeap = false) : t ≤ u ↔ 0 ≤ u.since t := by
  rw [since_of_not_isLeap ht hu, le_def]
  rw [isLeap_eq_false_iff] at ht hu
  rw [nanosPerSecond] at *
  omega

theorem le_iff_sinceEpoch (ht : t.isLeap = false) (hu : u.isLeap = false) : t ≤ u ↔ t.sinceEpoch ≤ u.sinceEpoch := by
  rw [le_iff_since ht hu, since_eq_sub ht hu, Int.sub_nonneg]

end Instant

end Reconciliation
