import Reconciliation.Json
import Reconciliation.Text.Digits
/-!
# Numbers in JSON text

A number without fraction and exponent stays whole when it fits 64 bits. Every other number is read as
a significand of at most 64 bits, rounded once, and then scaled by a power of ten, rounded again. A
number too large for that is refused.
-/

namespace Reconciliation

namespace Json

/-- A number as it is written. -/
structure Numeral where
  negative : Bool
  whole : List Char
  fraction : Option (List Char)
  exponent : Option (Bool × List Char)

def digits? (s : List Char) : Option (List Char × List Char) :=
  let ds := s.takeWhile Char.isDigit
  if ds.isEmpty then none else some (ds, s.dropWhile Char.isDigit)

/-- The digits before the point: a zero stands alone. -/
def Numeral.whole? (s : List Char) : Option (List Char × List Char) :=
  (digits? s).filter fun r => r.1.head? != some '0' || r.1.length == 1

def Numeral.fraction? : List Char → Option (Option (List Char) × List Char)
  | '.' :: rest => (digits? rest).map fun r => (some r.1, r.2)
  | s => some (none, s)

def Numeral.exponent? : List Char → Option (Option (Bool × List Char) × List Char)
  | 'e' :: rest => marked rest
  | 'E' :: rest => marked rest
  | s => some (none, s)
where
  marked : List Char → Option (Option (Bool × List Char) × List Char)
    | '+' :: rest => (digits? rest).map fun r => (some (false, r.1), r.2)
    | '-' :: rest => (digits? rest).map fun r => (some (true, r.1), r.2)
    | rest => (digits? rest).map fun r => (some (false, r.1), r.2)

/-- A number at the head of a text, and what follows it. -/
def Numeral.scan? (s : List Char) : Option (Numeral × List Char) := do
  let (negative, s) := match s with
    | '-' :: rest => (true, rest)
    | s => (false, s)
  let (whole, s) ← Numeral.whole? s
  let (fraction, s) ← Numeral.fraction? s
  let (exponent, s) ← Numeral.exponent? s
  return (⟨negative, whole, fraction, exponent⟩, s)

/-- Appends digits to a significand while it stays below two to the power 64, and counts them. -/
def absorb (significand count : Nat) : List Char → Nat × Nat
  | [] => (significand, count)
  | c :: rest =>
    let next := significand * 10 + Text.digitValue c
    if next < Nat.pow 2 64 then absorb next (count + 1) rest else (significand, count)

/-- Scales a rounded significand by a power of ten. A power below 10^-308 is divided out in steps. -/
def scaleByTen (x : Binary64) (exponent : Int) : Nat → Option Binary64
  | 0 => some x
  | steps + 1 =>
    if exponent > 308 then if x.magnitude = 0 then some x else none
    else if 0 ≤ exponent then
      some (x.mul (.ofDecimal false 1 exponent)) |>.filter (·.isFinite)
    else if exponent < -308 then
      if x.magnitude = 0 then some x
      else scaleByTen (x.div (.ofDecimal false 1 308)) (exponent + 308) steps
    else some (x.div (.ofDecimal false 1 (-exponent)))

def Numeral.float? (n : Numeral) : Option Binary64 := do
  let (significand, kept) := absorb 0 0 n.whole
  let dropped := n.whole.length - kept
  let (significand, places) := absorb significand 0 (n.fraction.getD [])
  let (below, power) := match n.exponent with
    | none => (false, 0)
    | some (below, ds) => (below, Text.decimalValue ds)
  if power ≥ Nat.pow 2 31 then
    if significand != 0 && !below then none else return .ofParts n.negative 0
  else
    let exponent := (dropped : Int) - places + if below then -(power : Int) else power
    let x ← scaleByTen (.ofInt significand) exponent 4
    return if n.negative then .ofParts true x.bits.toNat else x

def Numeral.value? (n : Numeral) : Option Json :=
  let magnitude := Text.decimalValue n.whole
  if n.fraction.isNone && n.exponent.isNone then
    if !n.negative && magnitude < Nat.pow 2 64 then some (.int magnitude)
    else if n.negative && magnitude != 0 && magnitude ≤ Nat.pow 2 63 then some (.int (-magnitude))
    else n.float?.map .float
  else n.float?.map .float

def numberOf? (s : String) : Option Json := do
  let (n, rest) ← Numeral.scan? s.toList
  if rest.isEmpty then n.value? else none

end Json

end Reconciliation
