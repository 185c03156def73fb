import Reconciliation.Text.Blank
import Reconciliation.Text.Digits
import Reconciliation.Time.Instant
/-!
# Written times

Times are written as date, `T`, time of day and `Z`, always in universal time. The fraction is left out
or has as many places as it needs among three, six and nine. A year outside 0 to 9999 has a sign. A second
that is counted on is written as the next one: the 60 after the last of a minute, and an ordinary one else.

Reading is more liberal than writing: blanks may stand before a field, fields need not be padded, one
blank may stand for the `T`, and any offset below a day is taken.
-/

namespace Reconciliation

namespace Instant

/-! ### Writing -/

/-- A number in at least so many digits. -/
def padded (width n : Nat) : List Char :=
  let ds := Nat.toDigits 10 n
  List.replicate (width - ds.length) '0' ++ ds

/-- A year: four digits, or a sign and at least four. -/
def yearText (year : Int) : List Char :=
  if 0 ≤ year ∧ year ≤ 9999 then padded 4 year.toNat
  else (if year < 0 then '-' else '+') :: padded 4 year.natAbs

inductive Precision where
  | seconds
  | micros
  | shortest
  deriving DecidableEq, Repr

def fractionText (p : Precision) (nanos : Nat) : List Char :=
  match p with
  | .seconds => []
  | .micros => '.' :: padded 6 (nanos / 1000)
  | .shortest =>
    if nanos = 0 then []
    else if nanos % 1000000 = 0 then '.' :: padded 3 (nanos / 1000000)
    else if nanos % 1000 = 0 then '.' :: padded 6 (nanos / 1000)
    else '.' :: padded 9 nanos

def rfc3339Chars (p : Precision) (t : Instant) : List Char :=
  let date := Date.ofDays t.day
  let second := t.secondOfDay.toNat
  let leap := if t.isLeap then 1 else 0
  yearText date.year ++ '-' :: padded 2 date.month ++ '-' :: padded 2 date.day
    ++ 'T' :: padded 2 (second / 3600) ++ ':' :: padded 2 (second / 60 % 60)
    ++ ':' :: padded 2 (second % 60 + leap)
    ++ fractionText p (t.nanos % nanosPerSecond) ++ ['Z']

def toRfc3339 (p : Precision) (t : Instant) : String :=
  String.ofList (t.rfc3339Chars p)

/-! ### Reading -/

/-- Reads at least one digit and at most so many. -/
def number? (most : Nat) (s : List Char) : Option (Nat × List Char) :=
  let ds := (s.take most).takeWhile Char.isDigit
  if ds.isEmpty then none else some (Text.decimalValue ds, s.drop ds.length)

/-- Reads a field of at most two digits. -/
def field? (s : List Char) : Option (Nat × List Char) :=
  number? 2 (Text.dropBlanks s)

/-- Reads a year: at most four digits, or any number of them after a sign. -/
def year? (s : List Char) : Option (Int × List Char) :=
  match Text.dropBlanks s with
  | '-' :: rest => (number? rest.length rest).map fun r => (-(r.1 : Int), r.2)
  | '+' :: rest => (number? rest.length rest).map fun r => ((r.1 : Int), r.2)
  | s => (number? 4 s).map fun r => ((r.1 : Int), r.2)

/-- Reads one character, with blanks before it. -/
def mark? (c : Char) (s : List Char) : Option (List Char) :=
  match Text.dropBlanks s with
  | d :: rest => if d = c then some rest else none
  | [] => none

/-- Reads a fraction in nanoseconds, places beyond the ninth dropped. -/
def fraction? : List Char → Option (Nat × List Char)
  | '.' :: rest => do
    let (n, after) ← number? 9 rest
    return (n * Nat.pow 10 (9 - (rest.length - after.length)), after.dropWhile Char.isDigit)
  | s => some (0, s)

/-- Reads the digits of an offset: two for the hours, and two for the minutes with colons or blanks
before them. -/
def offsetDigits? : List Char → Option (Int × List Char)
  | a :: b :: rest =>
    match rest.dropWhile fun c => c == ':' || Text.isBlank c with
    | c :: d :: rest =>
      if a.isDigit && b.isDigit && c.isDigit && d.isDigit && decide (c ≤ '5') then
        some (Text.decimalValue [a, b] * 3600 + Text.decimalValue [c, d] * 60, rest)
      else none
    | _ => none
  | _ => none

/-- Reads the offset from universal time, in seconds. -/
def offset? (s : List Char) : Option (Int × List Char) :=
  match Text.dropBlanks s with
  | 'Z' :: rest => some (0, rest)
  | 'z' :: rest => some (0, rest)
  | '+' :: rest => offsetDigits? rest
  | '-' :: rest => (offsetDigits? rest).map fun r => (-r.1, r.2)
  | '\u2212' :: rest => (offsetDigits? rest).map fun r => (-r.1, r.2)
  | u :: t :: c :: rest =>
    if [u.toUpper, t.toUpper, c.toUpper] = ['U', 'T', 'C'] then some (0, rest) else none
  | _ => none

def separator? : List Char → Option (List Char)
  | 'T' :: rest => some rest
  | 't' :: rest => some rest
  | ' ' :: rest => some rest
  | _ => none

def ofFields? (date : Date) (hour minute second nanos : Nat) (offset : Int) : Option Instant :=
  let leap := second = 60
  let second := if leap then 59 else second
  if date.isValid && hour ≤ 23 && minute ≤ 59 && second ≤ 59 && decide (offset.natAbs < 86400)
      && decide (firstSecond ≤ date.toDays * secondsPerDay)
      && decide (date.toDays * secondsPerDay ≤ lastSecond) then
    ofParts? (date.toDays * secondsPerDay + (hour * 3600 + minute * 60 + second : Nat) - offset)
      (nanos + if leap then nanosPerSecond else 0)
  else none

def ofRfc3339Chars? (s : List Char) : Option Instant := do
  let (year, s) ← year? s
  let s ← mark? '-' s
  let (month, s) ← field? s
  let s ← mark? '-' s
  let (day, s) ← field? s
  let s ← separator? s
  let (hour, s) ← field? s
  let s ← mark? ':' s
  let (minute, s) ← field? s
  let s ← mark? ':' s
  let (second, s) ← field? s
  let (nanos, s) ← fraction? s
  let (offset, s) ← offset? s
  if (Text.dropBlanks s).isEmpty then ofFields? ⟨year, month, day⟩ hour minute second nanos offset
  else none

def ofRfc3339? (s : String) : Option Instant :=
  ofRfc3339Chars? s.toList

end Instant

end Reconciliation
