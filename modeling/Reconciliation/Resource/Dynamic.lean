import Reconciliation.Resource.Kind
import Reconciliation.Resource.Metadata
/-!
# Objects of any kind

A dynamic object keeps its types and its metadata apart from the rest of its payload, which stays JSON.
Written as one value the three are merged, and the payload wins where it has a field of the same name.
Reading takes them apart again.

The kind of an object that cannot be read is not an error: an object whose types are incomplete is
simply untyped.
-/

namespace Reconciliation

/-- An object of any kind. -/
structure DynamicObject where
  types : Option TypeMeta
  metadata : ObjectMeta
  data : Json
  deriving Inhabited

namespace TypeMeta

def fields (t : TypeMeta) : List (String × Json) :=
  [("apiVersion", .string t.apiVersion), ("kind", .string t.kind)]

/-- Takes the types out of fields, one after the other, with the API version and the kind that were found
before. What was looked at is gone also when there turn out to be no types. A field of the wrong sort, or
one that is given twice, ends the search and leaves the fields after it. -/
def take : Option String → Option String → List (String × Json) →
    Option TypeMeta × List (String × Json)
  | some version, some kind, [] => (some ⟨version, kind⟩, [])
  | _, _, [] => (none, [])
  | version, kind, (name, j) :: rest =>
    if name = "apiVersion" then
      match version, j with
      | none, .string s => take (some s) kind rest
      | _, _ => (none, rest)
    else if name = "kind" then
      match kind, j with
      | none, .string s => take version (some s) rest
      | _, _ => (none, rest)
    else
      let (types, left) := take version kind rest
      (types, (name, j) :: left)

end TypeMeta

namespace DynamicObject

/-- What a payload that is no object is, for a message. -/
def describeData : Json → String
  | .bool _ => "a boolean"
  | .int _ => "an integer"
  | .float _ => "a float"
  | .string _ => "a string"
  | .array _ => "a sequence"
  | _ => "a map"

def header (types : Option TypeMeta) (m : ObjectMeta) : List (String × Json) :=
  (match types with
    | none => []
    | some t => t.fields) ++ [("metadata", m.toJson)]

/-- The payload of an object with the header put where it has no field of the same name. -/
def withHeader (fs : Table Json) (head : List (String × Json)) : Table Json :=
  head.foldl (fun t f => t.insertNew f.1 f.2) fs

/-- The object as one value. A payload of `null` has no fields, and one that is neither `null` nor an
object cannot be merged. -/
def toJson (o : DynamicObject) : Except String Json :=
  match o.data with
  | .object fs => .ok (.object (withHeader fs (header o.types o.metadata)))
  | .null => .ok (.object (withHeader [] (header o.types o.metadata)))
  | j => .error ("can only flatten structs and maps (got " ++ describeData j ++ ")")

def decode : Decoder DynamicObject := fun w => do
  let fs ← Decoder.fields "an object" w
  Decoder.distinct ["metadata"] fs
  let m ← Decoder.defaulted fs "metadata" ObjectMeta.decode {}
  let payload ← (fs.filter (·.1 != "metadata")).mapM fun f => do return (f.1, ← Decoder.any f.2)
  let (types, rest) := TypeMeta.take none none payload
  return ⟨types, m, .object (Table.ofList rest)⟩

def ofJson (j : Json) : Except DecodeError DynamicObject :=
  decode (.value j)

def status? (o : DynamicObject) : Option Json :=
  o.data.field? "status"

/-- Sets or removes the status in the payload, if the payload is an object. -/
def withStatus (o : DynamicObject) (status : Option Json) : DynamicObject :=
  match o.data with
  | .object fs =>
    { o with data := .object (match status with
        | some s => Table.insert fs "status" s
        | none => Table.erase fs "status") }
  | _ => o

end DynamicObject

end Reconciliation
