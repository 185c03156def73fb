/-!
# Digits

Numbers are written in ASCII digits wherever they occur in text.
-/

namespace Reconciliation

namespace Text

def digitValue (c : Char) : Nat :=
  c.toNat - '0'.toNat

def decimalValue (ds : List Char) : Nat :=
  ds.foldl (fun n c => n * 10 + digitValue c) 0

def hexValue? (c : Char) : Option Nat :=
  if '0' ≤ c ∧ c ≤ '9' then some (c.toNat - '0'.toNat)
  else if 'a' ≤ c ∧ c ≤ 'f' then some (c.toNat - 'a'.toNat + 10)
  else if 'A' ≤ c ∧ c ≤ 'F' then some (c.toNat - 'A'.toNat + 10)
  else none

/-- The value of digits to a base of at most sixteen, most significant first, at least one. -/
def radixValue? (base : Nat) : List Char → Option Nat
  | [] => none
  | ds => ds.foldlM (fun n c => ((hexValue? c).filter (· < base)).map (n * base + ·)) 0

/-- Reads a word of 64 bits: decimal digits, at least one, after at most one plus sign. -/
def word64? (s : String) : Option Nat :=
  let ds := match s.toList with
    | '+' :: rest => rest
    | cs => cs
  if ds.isEmpty || !ds.all Char.isDigit then none
  else if decimalValue ds < Nat.pow 2 64 then some (decimalValue ds) else none

end Text

end Reconciliation
