import Reconciliation.Binary64
/-!
# Durations

A duration is a whole number of nanoseconds of which the whole seconds fit 64 bits. Arithmetic that
leaves this range stops at its end, so no operation fails.
-/

namespace Reconciliation

def nanosPerSecond : Nat := 1000000000

def Duration.maxNanos : Nat := (Nat.pow 2 64 - 1) * nanosPerSecond + (nanosPerSecond - 1)

structure Duration where
  nanos : Nat
  le_maxNanos : nanos ≤ Duration.maxNanos
  deriving DecidableEq, Repr

namespace Duration

@[ext] theorem ext {a b : Duration} (h : a.nanos = b.nanos) : a = b := by
  cases a; cases b; cases h; rfl

/-- The duration of so many nanoseconds, or the longest one. -/
def ofNanos (n : Nat) : Duration :=
  ⟨min n maxNanos, Nat.min_le_right n maxNanos⟩

/-- The duration of so many seconds, or the longest one. -/
def ofSeconds (n : Nat) : Duration :=
  ofNanos (n * nanosPerSecond)

def zero : Duration := ⟨0, Nat.zero_le _⟩

def longest : Duration := ⟨maxNanos, Nat.le_refl _⟩

instance : Inhabited Duration := ⟨zero⟩

def seconds (d : Duration) : Nat :=
  d.nanos / nanosPerSecond

def subsecondNanos (d : Duration) : Nat :=
  d.nanos % nanosPerSecond

instance : LE Duration := ⟨fun a b => a.nanos ≤ b.nanos⟩

instance : LT Duration := ⟨fun a b => a.nanos < b.nanos⟩

instance (a b : Duration) : Decidable (a ≤ b) :=
  inferInstanceAs (Decidable (a.nanos ≤ b.nanos))

instance (a b : Duration) : Decidable (a < b) :=
  inferInstanceAs (Decidable (a.nanos < b.nanos))

instance : Min Duration := ⟨fun a b => if a ≤ b then a else b⟩

/-- A duration so many times over, or the longest one. -/
def times (d : Duration) (k : Nat) : Duration :=
  ofNanos (d.nanos * k)

/-- The nearest number of seconds, rounded after the division of the rest and again after the sum. -/
def toBinary64 (d : Duration) : Binary64 :=
  (Binary64.ofInt d.seconds).add ((Binary64.ofInt d.subsecondNanos).div (.ofInt nanosPerSecond))

/-! ### Nanoseconds of the results -/

theorem le_def {a b : Duration} : a ≤ b ↔ a.nanos ≤ b.nanos := Iff.rfl

theorem lt_def {a b : Duration} : a < b ↔ a.nanos < b.nanos := Iff.rfl

@[simp] theorem nanos_ofNanos (n : Nat) : (ofNanos n).nanos = min n maxNanos := rfl

theorem nanos_ofNanos_of_le {n : Nat} (h : n ≤ maxNanos) : (ofNanos n).nanos = n :=
  Nat.min_eq_left h

@[simp] theorem nanos_zero : zero.nanos = 0 := rfl

@[simp] theorem nanos_longest : longest.nanos = maxNanos := rfl

@[simp] theorem nanos_times (d : Duration) (k : Nat) :
    (d.times k).nanos = min (d.nanos * k) maxNanos := rfl

@[simp] theorem nanos_min (a b : Duration) : (min a b).nanos = min a.nanos b.nanos := by
  change (if a ≤ b then a else b).nanos = _
  by_cases h : a ≤ b
  · rw [if_pos h, Nat.min_eq_left h]
  · rw [if_neg h, Nat.min_eq_right (Nat.le_of_lt (Nat.lt_of_not_le h))]

end Duration

end Reconciliation
