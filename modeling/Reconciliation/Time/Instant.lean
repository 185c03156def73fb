import Reconciliation.Time.Calendar
import Reconciliation.Time.Duration
/-!
# Points in time

An instant is a second of universal time and the nanoseconds into it. A leap second has no number of its
own: it is the second before it, with a thousand million nanoseconds and more. It belongs after the last
second of a minute, but a clock may count on in any second, and the next one is what is written then.

The difference of two instants counts a leap second between them only if one of them is inside it, so
`since` is exact for ordinary instants and a convention for the others.
-/

namespace Reconciliation

def secondsPerDay : Int := 86400

/-- The first second that a date can be given for. -/
def Instant.firstSecond : Int := Date.toDays ⟨-262143, 1, 1⟩ * secondsPerDay

def Instant.lastSecond : Int := Date.toDays ⟨262142, 12, 31⟩ * secondsPerDay + (secondsPerDay - 1)

structure Instant where
  seconds : Int
  nanos : Nat
  first_le : Instant.firstSecond ≤ seconds
  le_last : seconds ≤ Instant.lastSecond
  nanos_lt : nanos < 2 * nanosPerSecond
  deriving DecidableEq, Repr

namespace Instant

@[ext] theorem ext {a b : Instant} (hs : a.seconds = b.seconds) (hn : a.nanos = b.nanos) : a = b := by
  cases a; cases b; cases hs; cases hn; rfl

/-- The instant of a second since 1970 and the nanoseconds into it, if there is one. -/
def ofParts? (seconds : Int) (nanos : Nat) : Option Instant :=
  if h : firstSecond ≤ seconds ∧ seconds ≤ lastSecond ∧ nanos < 2 * nanosPerSecond then
    some ⟨seconds, nanos, h.1, h.2.1, h.2.2⟩
  else none

def epoch : Instant := ⟨0, 0, by decide, by decide, by decide⟩

instance : Inhabited Instant := ⟨epoch⟩

def isLeap (t : Instant) : Bool :=
  nanosPerSecond ≤ t.nanos

/-- The day, counted from the first of January 1970. -/
def day (t : Instant) : Int :=
  t.seconds / secondsPerDay

def secondOfDay (t : Instant) : Int :=
  t.seconds % secondsPerDay

/-- The nanoseconds from `earlier` to `t`. A leap second that the other time of day lies beyond counts
as a second of its own. -/
def since (t earlier : Instant) : Int :=
  let leap : Int :=
    if earlier.secondOfDay < t.secondOfDay ∧ earlier.isLeap then 1
    else if t.secondOfDay < earlier.secondOfDay ∧ t.isLeap then -1
    else 0
  (t.seconds - earlier.seconds + leap) * nanosPerSecond + (t.nanos - earlier.nanos)

/-- The instant so many nanoseconds later. Inside a leap second only a shift that stays in it and the
second before it keeps it; any other leaves it as an ordinary second. -/
def shift? (t : Instant) (nanos : Int) : Option Instant :=
  let wholes := nanos.tdiv nanosPerSecond
  let rest := nanos.tmod nanosPerSecond
  let moved (seconds : Int) (total : Int) : Option Instant :=
    ofParts? (seconds + wholes + total / nanosPerSecond) (total % nanosPerSecond).toNat
  if t.isLeap then
    if 0 < wholes ∨ (0 < rest ∧ 2 * nanosPerSecond ≤ (t.nanos : Int) + rest) then
      moved t.seconds (t.nanos - nanosPerSecond + rest)
    else if wholes < 0 then moved (t.seconds + 1) (t.nanos - nanosPerSecond + rest)
    else ofParts? t.seconds (t.nanos + rest).toNat
  else moved t.seconds (t.nanos + rest)

end Instant

end Reconciliation
