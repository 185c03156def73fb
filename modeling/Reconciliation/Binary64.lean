/-!
# Binary floating point

Numbers with a fraction are held as the 64 bits of the binary interchange format. A finite number is a
whole multiple of two to the power -1074, its `scaled` value, and every operation here is exact
arithmetic on scaled values followed by one rounding to the nearest number, ties going to the even
significand.
-/

namespace Reconciliation

/-- A binary floating point number, as its bits. -/
structure Binary64 where
  bits : UInt64
  deriving DecidableEq, Inhabited, Repr

namespace Binary64

/-- The stored exponent, 2047 for infinities and what is not a number. -/
def exponentField (x : Binary64) : Nat :=
  x.bits.toNat / Nat.pow 2 52 % 2048

def fractionField (x : Binary64) : Nat :=
  x.bits.toNat % Nat.pow 2 52

def isNegative (x : Binary64) : Bool :=
  x.bits.toNat / Nat.pow 2 63 == 1

/-- Whether the number is neither infinite nor undefined. -/
def isFinite (x : Binary64) : Bool :=
  x.exponentField != 2047

/-- The significand of a finite number, with its leading bit. -/
def significand (x : Binary64) : Nat :=
  if x.exponentField = 0 then x.fractionField else x.fractionField + Nat.pow 2 52

/-- A finite number is its significand times two to the power `shift - 1074`. -/
def shift (x : Binary64) : Nat :=
  x.exponentField - 1

/-- The magnitude of a finite number in units of two to the power -1074. -/
def magnitude (x : Binary64) : Nat :=
  x.significand * Nat.pow 2 x.shift

/-- A finite number in units of two to the power -1074. -/
def scaled (x : Binary64) : Int :=
  if x.isNegative then -(x.magnitude : Int) else x.magnitude

/-- The number with the given sign and the given bits below it. -/
def ofParts (negative : Bool) (rest : Nat) : Binary64 :=
  ⟨UInt64.ofNat (rest + if negative then Nat.pow 2 63 else 0)⟩

def infinity (negative : Bool) : Binary64 :=
  ofParts negative (2047 * Nat.pow 2 52)

/-- The quotient rounded to the nearest whole number, a tie to the even one. -/
def roundQuotient (num den : Nat) : Nat :=
  let q := num / den
  let r := num % den
  if 2 * r < den then q
  else if den < 2 * r then q + 1
  else q + q % 2

/-- The number nearest to `num / den` units of two to the power -1074. -/
def nearestScaled (negative : Bool) (num den : Nat) : Binary64 :=
  let whole := num / den
  let drop := whole.log2 - 52
  let rounded := roundQuotient num (den * Nat.pow 2 drop)
  let rest := drop * Nat.pow 2 52 + rounded
  if rest < 2047 * Nat.pow 2 52 then ofParts negative rest else infinity negative

def nearest (negative : Bool) (num den : Nat) : Binary64 :=
  nearestScaled negative (num * Nat.pow 2 1074) den

/-- The number nearest to `digits` times ten to the power `exponent`. -/
def ofDecimal (negative : Bool) (digits : Nat) (exponent : Int) : Binary64 :=
  if digits = 0 then ofParts negative 0
  else if exponent > 400 then infinity negative
  else if exponent < -((digits.log2 : Int) + 400) then ofParts negative 0
  else nearest negative (digits * Nat.pow 10 exponent.toNat) (Nat.pow 10 (-exponent).toNat)

def ofInt (n : Int) : Binary64 :=
  nearest (n < 0) n.natAbs 1

def mul (x y : Binary64) : Binary64 :=
  nearestScaled (x.isNegative != y.isNegative) (x.magnitude * y.magnitude) (Nat.pow 2 1074)

def div (x y : Binary64) : Binary64 :=
  nearestScaled (x.isNegative != y.isNegative) (x.magnitude * Nat.pow 2 1074) y.magnitude

def add (x y : Binary64) : Binary64 :=
  let sum := x.scaled + y.scaled
  if sum = 0 then ofParts (x.isNegative && y.isNegative) 0
  else nearestScaled (sum < 0) sum.natAbs 1

def le (x y : Binary64) : Bool :=
  decide (x.scaled ≤ y.scaled)

/-! ### Shortest decimal form -/

def digitCount (n : Nat) : Nat :=
  (Nat.toDigits 10 n).length

/-- The power of ten that `num / den`, which is positive, reaches but whose successor it does not. -/
def leadingPower (num den : Nat) : Int :=
  if den ≤ num then (digitCount (num / den) : Int) - 1
  else -(digitCount ((den + num - 1) / num - 1) : Int)

/-- The decimals that read back as a number whose magnitude lies strictly between `low` and `high`, or
on them when `closed`. All three are in units of two to the power -1076. -/
structure Window where
  low : Nat
  value : Nat
  high : Nat
  closed : Bool

/-- The magnitudes that round to a finite number other than zero. -/
def window (x : Binary64) : Window :=
  let unit := Nat.pow 2 x.shift
  let below := if x.fractionField = 0 && x.exponentField > 1 then unit else 2 * unit
  { low := 4 * x.magnitude - below
    value := 4 * x.magnitude
    high := 4 * x.magnitude + 2 * unit
    closed := x.significand % 2 == 0 }

def Window.contains (w : Window) (num den : Nat) : Bool :=
  if w.closed then w.low * den ≤ num && num ≤ w.high * den
  else w.low * den < num && num < w.high * den

/-- The neighbours of the value among the multiples of ten to the power `k`: of those that lie in the
window the nearer, and the even one of two that are as near. -/
def Window.onGrid? (w : Window) (k : Int) : Option Nat :=
  let scale := Nat.pow 2 1076
  let up := Nat.pow 10 k.toNat
  let down := Nat.pow 10 (-k).toNat
  let floor := w.value * down / (up * scale)
  let inside (m : Nat) := m != 0 && w.contains (m * up * scale) down
  let twice := 2 * w.value * down
  let middle := (2 * floor + 1) * up * scale
  match inside floor, inside (floor + 1) with
  | false, false => none
  | true, false => some floor
  | false, true => some (floor + 1)
  | true, true =>
    if twice < middle then some floor
    else if middle < twice then some (floor + 1)
    else some (floor + floor % 2)

/-- A decimal: digits times a power of ten. -/
structure Decimal where
  digits : Nat
  exponent : Int
  deriving DecidableEq, Repr

/-- Drops the zeros at the end of the digits, at most as many as the first argument says. -/
def Decimal.trim : Nat → Decimal → Decimal
  | 0, d => d
  | n + 1, d => if d.digits % 10 = 0 then trim n ⟨d.digits / 10, d.exponent + 1⟩ else d

/-- The shortest decimal that reads back as the magnitude, and of these the nearest to it. -/
def shortest (x : Binary64) : Decimal :=
  if x.magnitude = 0 then ⟨0, 0⟩
  else
    let w := x.window
    let lead := leadingPower w.value (Nat.pow 2 1076)
    let candidates := (List.range 17).filterMap fun (n : Nat) =>
      let k := lead - (n : Int)
      (w.onGrid? k).map fun m => Decimal.mk m k
    match candidates with
    | d :: _ => d.trim 20
    | [] => ⟨0, 0⟩

/-- Digits with their decimal point, for a value below one or with places after the point. -/
private def positional (d : Decimal) (mark : String) : String :=
  let ds := toString d.digits
  let point := (ds.length : Int) + d.exponent
  if 0 ≤ d.exponent then ds ++ "".pushn '0' d.exponent.toNat ++ mark
  else if 0 < point then
    String.ofList (ds.toList.take point.toNat) ++ "." ++ String.ofList (ds.toList.drop point.toNat)
  else "0." ++ "".pushn '0' (-point).toNat ++ ds

/-- The text of a finite number in a document: positional from 1e-5 up to 1e16, with `.0` after a whole
number, and in exponent form elsewhere. -/
def toText (x : Binary64) : String :=
  let d := x.shortest
  let sign := if x.isNegative then "-" else ""
  if d.digits = 0 then sign ++ "0.0"
  else
    let ds := toString d.digits
    let point := (ds.length : Int) + d.exponent
    if -5 < point && point ≤ 16 then sign ++ positional d ".0"
    else
      let fraction := String.ofList (ds.toList.drop 1)
      let dot := if fraction.isEmpty then "" else "."
      let mark := if 1 ≤ point then "+" else ""
      sign ++ String.ofList (ds.toList.take 1) ++ dot ++ fraction ++ "e" ++ mark ++ toString (point - 1)

/-- The text of a finite number in a metric: always positional, a whole number without a point. -/
def toPlainText (x : Binary64) : String :=
  let sign := if x.isNegative then "-" else ""
  sign ++ positional x.shortest ""

end Binary64

end Reconciliation
