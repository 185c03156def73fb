import Reconciliation.Binary64
import Reconciliation.Text.Digits
/-!
# Decimal numbers

The common written form of a number with a fraction: digits with at most one point, of which at least one
is there, and an exponent. It stands for the nearest binary number.
-/

namespace Reconciliation

namespace Text

/-- A text without its sign, and whether that is negative. -/
def unsigned : List Char → Bool × List Char
  | '+' :: rest => (false, rest)
  | '-' :: rest => (true, rest)
  | s => (false, s)

/-- The power of ten that an exponent stands for. No exponent is zero. -/
def exponent? : List Char → Option Int
  | [] => some 0
  | e :: rest =>
    if e != 'e' && e != 'E' then none
    else
      let (negative, ds) := unsigned rest
      (radixValue? 10 ds).map fun n => if negative then -(n : Int) else n

/-- The number that a decimal without a sign stands for. -/
def decimal? (negative : Bool) (s : List Char) : Option Binary64 := do
  let whole := s.takeWhile Char.isDigit
  let (places, rest) := match s.dropWhile Char.isDigit with
    | '.' :: rest => (rest.takeWhile Char.isDigit, rest.dropWhile Char.isDigit)
    | rest => ([], rest)
  if whole.isEmpty && places.isEmpty then none
  else
    let exponent ← exponent? rest
    return .ofDecimal negative (decimalValue (whole ++ places)) (exponent - places.length)

/-- The number that a text stands for; a word may stand for an infinite one. -/
def binary64? (s : String) : Option Binary64 :=
  let (negative, rest) := unsigned s.toList
  let word := (String.ofList rest).toLower
  if word = "inf" ∨ word = "infinity" then some (.infinity negative) else decimal? negative rest

end Text

end Reconciliation
