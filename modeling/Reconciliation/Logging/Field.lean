import Reconciliation.Logging.Pattern
import Reconciliation.Text.Decimal
/-!
# Fields of directives

A directive may ask for a field of a span or of an entry, and for its value. A value is the first of these
that its text can be read as: a truth value, a whole number, a number with a fraction, a pattern.
-/

namespace Reconciliation

/-- A value that is asked of a field. A whole number of 64 bits without a sign is tried before one with a
sign, which is therefore negative or zero. -/
inductive FieldValue where
  | bool (b : Bool)
  | float (x : Binary64)
  | undefined
  | unsigned (n : Nat)
  | signed (n : Int)
  | pattern (text : String)
  deriving DecidableEq, Repr

/-- A field that a directive asks for, and the value that it asks for. -/
structure FieldPattern where
  name : String
  value : Option FieldValue
  deriving DecidableEq, Repr

namespace FieldValue

/-! ### Reading -/

def bool? : String → Option FieldValue
  | "true" => some (.bool true)
  | "false" => some (.bool false)
  | _ => none

def whole? (s : String) : Option FieldValue :=
  match Text.word64? s with
  | some n => some (.unsigned n)
  | none =>
    match s.toList with
    | '-' :: ds =>
      if ds.isEmpty || !ds.all Char.isDigit || Nat.pow 2 63 < Text.decimalValue ds then none
      else some (.signed (-Text.decimalValue ds))
    | _ => none

/-- Reads a number with a fraction, or the word for what is not a number. -/
def float? (s : String) : Option FieldValue :=
  if (String.ofList (Text.unsigned s.toList).2).toLower = "nan" then some .undefined
  else (Text.binary64? s).map float

def pattern? (s : String) : Option FieldValue :=
  if Pattern.isWellFormed s then some (.pattern s) else none

def ofText? (s : String) : Option FieldValue :=
  bool? s <|> whole? s <|> float? s <|> pattern? s

/-! ### Printing -/

def text : FieldValue → String
  | bool b => if b then "true" else "false"
  | float x => if x.isFinite then x.toPlainText else if x.isNegative then "-inf" else "inf"
  | undefined => "NaN"
  | unsigned n => toString n
  | signed n => toString n
  | pattern s => s

/-! ### Order -/

def rank : FieldValue → Nat
  | bool _ => 0
  | float _ => 1
  | undefined => 2
  | unsigned _ => 3
  | signed _ => 4
  | pattern _ => 5

/-- The order of values: by their kind, and in a kind by what they are. -/
def compare : FieldValue → FieldValue → Ordering
  | bool a, bool b => Ord.compare a b
  | float a, float b => Ord.compare a.scaled b.scaled
  | unsigned a, unsigned b => Ord.compare a b
  | signed a, signed b => Ord.compare a b
  | pattern a, pattern b => Ord.compare a b
  | a, b => Ord.compare a.rank b.rank

end FieldValue

/-- The order of what may be missing, which is less than everything. -/
def compareOptional {α : Type} (cmp : α → α → Ordering) : Option α → Option α → Ordering
  | none, none => .eq
  | none, some _ => .lt
  | some _, none => .gt
  | some a, some b => cmp a b

namespace FieldPattern

/-- Reads a field, and a value after an equals sign; what follows another one is ignored. -/
def ofChars? (cs : List Char) : Option FieldPattern :=
  let isEquals (c : Char) : Bool := c == '='
  let name := String.ofList (cs.takeWhile (!isEquals ·))
  match cs.dropWhile (!isEquals ·) with
  | [] => some ⟨name, none⟩
  | _ :: rest =>
    (FieldValue.ofText? (String.ofList (rest.takeWhile (!isEquals ·)))).map fun v => ⟨name, some v⟩

def text (f : FieldPattern) : String :=
  f.name ++ match f.value with
    | none => ""
    | some v => "=" ++ v.text

/-- The order of fields: one with a value is more than one without. -/
def compare (a b : FieldPattern) : Ordering :=
  (Ord.compare a.value.isSome b.value.isSome).then
    ((Ord.compare a.name b.name).then (compareOptional FieldValue.compare a.value b.value))

end FieldPattern

end Reconciliation
