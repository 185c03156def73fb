import Reconciliation.Template.Operand
/-!
# Helpers

The helpers that every template may use. Conditions go by truth: nothing, `false`, zero, and empty texts
and collections are false. A comparison takes numbers by their value, and so it takes a text that is a
number of JSON beside a number; what cannot be compared is neither greater nor less nor equal to. A test
gives a truth value, and its block has an alternative like that of a condition.
-/

namespace Reconciliation

namespace Template

inductive Helper where
  | ifTrue
  | ifFalse
  | each
  | within
  | lookup
  | raw
  | log
  | eq
  | ne
  | gt
  | gte
  | lt
  | lte
  | and
  | or
  | not
  | len
  deriving DecidableEq, Repr

namespace Helper

def names : List (String × Helper) := [
  ("if", ifTrue), ("unless", ifFalse), ("each", each), ("with", within), ("lookup", lookup), ("raw", raw),
  ("log", log), ("eq", eq), ("ne", ne), ("gt", gt), ("gte", gte), ("lt", lt), ("lte", lte), ("and", and),
  ("or", or), ("not", not), ("len", len)]

def ofName? (name : String) : Option Helper :=
  names.lookup name

def isTest : Helper → Bool
  | eq | ne | gt | gte | lt | lte | and | or | not => true
  | _ => false

end Helper

/-! ### Truth, text and order of values -/

/-- Whether a number is neither zero nor too small to have a full significand. -/
def isNormal (x : Binary64) : Bool :=
  x.isFinite && x.exponentField != 0

/-- Whether a value counts as true; zero may be asked to. -/
def isTruthy (zero : Bool) : Json → Bool
  | .null => false
  | .bool b => b
  | .int n => zero || n != 0
  | .float x => zero || isNormal x
  | .string s => !s.isEmpty
  | .array js => !js.isEmpty
  | .object fs => !fs.isEmpty

mutual

/-- The text of a value: nothing for `null`, the items of an array, and a word for any object. -/
def textOf : Json → String
  | .null => ""
  | .string s => s
  | .array js => "[" ++ textOfItems js ++ "]"
  | .object _ => "[object]"
  | .bool b => (Json.bool b).compress
  | .int n => (Json.int n).compress
  | .float x => (Json.float x).compress

def textOfItems : List Json → String
  | [] => ""
  | [j] => textOf j
  | j :: rest => textOf j ++ ", " ++ textOfItems rest

end

/-- A finite number in units of two to the power -1074. -/
def scaled? : Json → Option Int
  | .int n => some (n * Nat.pow 2 1074)
  | .float x => some x.scaled
  | _ => none

def compareNumbers? (a b : Json) : Option Ordering := do
  return compare (← scaled? a) (← scaled? b)

def compare? : Json → Json → Option Ordering
  | .string a, .string b => some (compare a b)
  | .bool a, .bool b => some (compare a b)
  | .string a, j => do compareNumbers? (← Json.numberOf? a) j
  | j, .string b => do compareNumbers? j (← Json.numberOf? b)
  | a, b => compareNumbers? a b

/-! ### Results -/

/-- What a helper was handed: values by place and by name, some of them missing. -/
structure Inputs where
  values : List (Option Json)
  options : Table (Option Json) := []

namespace Inputs

/-- A value that must be there, though it may stand for something missing. -/
def operand (i : Inputs) (h : String) (n : Nat) : Except RenderError Json :=
  match i.values[n]? with
  | some j => .ok (j.getD .null)
  | none => .error (.argument h)

/-- A value that must be there and must not be missing. -/
def present (i : Inputs) (h : String) (n : Nat) : Except RenderError Json :=
  match i.values[n]? with
  | some (some j) => .ok j
  | _ => .error (.argument h)

/-- The values, what is missing being `null`. -/
def all (i : Inputs) : List Json :=
  i.values.map (·.getD .null)

def zeroIsTrue (i : Inputs) : Bool :=
  ((i.options.find? "includeZero").bind fun j => j.bind Json.bool?).getD false

end Inputs

def logLevels : List String := ["error", "warn", "info", "debug", "trace"]

/-- The item of an array under a number, or the field of an object under a name. -/
def itemAt? : Json → Json → Option Json
  | .array js, .int n => if 0 ≤ n then js[n.toNat]? else none
  | .object fs, .string name => Table.find? fs name
  | _, _ => none

/-- The number of items or fields, or of the octets of a text. -/
def lengthOf : Json → Nat
  | .array js => js.length
  | .object fs => fs.length
  | .string s => s.utf8ByteSize
  | _ => 0

def comparison (i : Inputs) (h : String) (accepts : Ordering → Bool) : Except RenderError Json := do
  let a ← i.present h 0
  let b ← i.present h 1
  return .bool ((compare? a b).any accepts)

/-- The result of a helper without a block. Helpers that choose or repeat their block give an empty
text. -/
def Helper.result (h : Helper) (i : Inputs) : Except RenderError Json :=
  match h with
  | ifTrue => do
    let _ ← i.operand "if" 0
    return .string ""
  | ifFalse => do
    let _ ← i.operand "unless" 0
    return .string ""
  | each => do
    let _ ← i.operand "each" 0
    return .string ""
  | within => do
    let j ← i.operand "with" 0
    if isTruthy false j then return .string "" else throw (.missing none)
  | raw => .ok (.string "")
  | log =>
    let level := ((i.options.find? "level").bind fun j => j.bind Json.text?).getD "info"
    if logLevels.contains level.toLower then .ok (.string "") else .error (.logLevel level)
  | lookup => do
    let j ← i.operand "lookup" 0
    let k ← i.operand "lookup" 1
    match itemAt? j k with
    | some v => return v
    | none => throw (.missing none)
  | eq => do return .bool ((← i.present "eq" 0).same (← i.present "eq" 1))
  | ne => do return .bool (!(← i.present "ne" 0).same (← i.present "ne" 1))
  | gt => comparison i "gt" (· == .gt)
  | gte => comparison i "gte" (· != .lt)
  | lt => comparison i "lt" (· == .lt)
  | lte => comparison i "lte" (· != .gt)
  | and => .ok (.bool (i.all.all (isTruthy false)))
  | or => .ok (.bool (i.all.any (isTruthy false)))
  | not => do return .bool (!isTruthy false (← i.present "not" 0))
  | len => do return .int (lengthOf (← i.present "len" 0))

end Template

end Reconciliation
