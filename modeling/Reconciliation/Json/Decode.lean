import Reconciliation.Json.Written
import Reconciliation.Text.Quoted
import Reconciliation.Time.Rfc3339
/-!
# Decoding JSON into typed values

A decoder takes a value as it is written and gives what it stands for, or says what was found where
something else was expected. It looks at what it asks for only, so anything may be written in the rest.

Two sorts of objects differ in how they take a field that is given twice. A resource reads each of them and
keeps the last, and takes `null` for unset. A record refuses it, and may also be written as an array of its
values.
-/

namespace Reconciliation

/-- Why a value does not stand for what was asked for. -/
inductive DecodeError where
  | mismatch (found : Json.Written) (expected : String)
  | outOfRange (found : Int) (expected : String)
  | missing (field : String)
  | malformed (detail : String)
  deriving Inhabited

namespace DecodeError

def describeValue : Json → String
  | .null => "null"
  | .bool b => "boolean `" ++ (if b then "true" else "false") ++ "`"
  | .int n => "integer `" ++ toString n ++ "`"
  | .float x => "floating point `" ++ x.toText ++ "`"
  | .string s => "string " ++ Text.quoted s
  | .array _ => "sequence"
  | .object _ => "map"

def describe : Json.Written → String
  | .value j => describeValue j
  | .broken => "a value that stands for nothing"
  | .array _ => "sequence"
  | .object _ => "map"

def message : DecodeError → String
  | mismatch found expected => "invalid type: " ++ describe found ++ ", expected " ++ expected
  | outOfRange found expected =>
    "invalid value: integer `" ++ toString found ++ "`, expected " ++ expected
  | missing field => "missing field `" ++ field ++ "`"
  | malformed detail => detail

end DecodeError

abbrev Decoder (α : Type) : Type := Json.Written → Except DecodeError α

namespace Decoder

/-- The fields of an object, in the order in which they are given. -/
abbrev Fields : Type := List (String × Json.Written)

/-! ### Values -/

def text : Decoder String
  | .value (.string s) => .ok s
  | w => .error (.mismatch w "a string")

def bool : Decoder Bool
  | .value (.bool b) => .ok b
  | w => .error (.mismatch w "a boolean")

/-- A whole number of so many bits, with its sign. -/
def signed (bits : Nat) : Decoder Int
  | .value (.int n) =>
    if -(Nat.pow 2 (bits - 1) : Int) ≤ n ∧ n < Nat.pow 2 (bits - 1) then .ok n
    else .error (.outOfRange n ("i" ++ toString bits))
  | w => .error (.mismatch w ("i" ++ toString bits))

def int64 : Decoder Int64 := fun w =>
  Int64.ofInt <$> signed 64 w

/-- A whole number without a sign that fits so many bits. -/
def unsigned (bits : Nat) : Decoder Nat
  | .value (.int n) =>
    if 0 ≤ n ∧ n < Nat.pow 2 bits then .ok n.toNat
    else .error (.outOfRange n ("u" ++ toString bits))
  | w => .error (.mismatch w ("u" ++ toString bits))

def time : Decoder Instant
  | .value (.string s) =>
    match Instant.ofRfc3339? s with
    | some t => .ok t
    | none => .error (.malformed "input contains invalid characters")
  | w => .error (.mismatch w "an RFC 3339 formatted date and time string")

def any : Decoder Json := fun w =>
  match w.json? with
  | some j => .ok j
  | none => .error (.malformed "a value that stands for nothing")

def list {α : Type} (item : Decoder α) : Decoder (List α) := fun w =>
  match w.items? with
  | some ws => ws.mapM item
  | none => .error (.mismatch w "a sequence")

/-- The fields of an object, all of one kind. -/
def table {α : Type} (item : Decoder α) : Decoder (Table α) := fun w =>
  match w.fields? with
  | some fs => Table.ofList <$> fs.mapM fun f => do return (f.1, ← item f.2)
  | none => .error (.mismatch w "a map")

/-- The fields of an object that stands for the named kind of thing. -/
def fields (expected : String) : Decoder Fields := fun w =>
  match w.fields? with
  | some fs => .ok fs
  | none => .error (.mismatch w expected)

/-! ### Fields of a resource -/

def optional {α : Type} (fs : Fields) (name : String) (item : Decoder α) :
    Except DecodeError (Option α) := do
  let found ← (fs.filter (·.1 == name)).mapM fun f =>
    match f.2 with
    | .value .null => pure none
    | w => some <$> item w
  return found.getLast?.join

def withDefault {α : Type} (fs : Fields) (name : String) (item : Decoder α) (d : α) :
    Except DecodeError α :=
  (optional fs name item).map (·.getD d)

/-- Refuses a field that is there with another text than the given one. -/
def constant (fs : Fields) (name expected : String) : Except DecodeError Unit :=
  (fs.filter (·.1 == name)).forM fun f => do
    let s ← text f.2
    if s = expected then return ()
    else throw (.malformed ("invalid value: string " ++ Text.quoted s ++ ", expected " ++ expected))

/-! ### Fields of a record -/

/-- Refuses a field of one of some names that is given twice. -/
def distinct (names : List String) (fs : Fields) : Except DecodeError Unit :=
  if Json.Written.repeats names fs then .error (.malformed "duplicate field") else .ok ()

/-- The fields of a record with the given names, in their order. -/
def record (expected : String) (names : List String) : Decoder Fields := fun w =>
  match w.fields?, w.items? with
  | some fs, _ => do
    distinct names fs
    return fs
  | none, some ws =>
    if ws.length ≤ names.length then .ok (names.zip ws)
    else .error (.malformed ("too many items for " ++ expected))
  | none, none => .error (.mismatch w expected)

/-- A field with a default for when it is missing; it must not be `null`. -/
def defaulted {α : Type} (fs : Fields) (name : String) (item : Decoder α) (d : α) :
    Except DecodeError α :=
  match Json.Written.field? fs name with
  | none => .ok d
  | some w => item w

/-- A field that must be there and must not be `null`. -/
def required {α : Type} (fs : Fields) (name : String) (item : Decoder α) :
    Except DecodeError α :=
  match Json.Written.field? fs name with
  | none => .error (.missing name)
  | some w => item w

end Decoder

end Reconciliation
