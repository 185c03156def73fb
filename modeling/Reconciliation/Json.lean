import Reconciliation.Binary64
import Reconciliation.Table
/-!
# JSON values

Stored payloads, manifests, template data and wire bodies are all JSON. Whole numbers and numbers with
a fraction are kept apart, as their texts are. The fields of an object are a table, so they are in the
order of their names.
-/

namespace Reconciliation

/-- A JSON value. -/
inductive Json where
  | null
  | bool (value : Bool)
  | int (value : Int)
  | float (value : Binary64)
  | string (text : String)
  | array (items : List Json)
  | object (fields : List (String × Json))
  deriving Inhabited

namespace Json

def fields? : Json → Option (Table Json)
  | object fs => some fs
  | _ => none

def items? : Json → Option (List Json)
  | array js => some js
  | _ => none

def text? : Json → Option String
  | string s => some s
  | _ => none

def bool? : Json → Option Bool
  | bool b => some b
  | _ => none

def int? : Json → Option Int
  | int n => some n
  | _ => none

def isNull : Json → Bool
  | null => true
  | _ => false

def field? (j : Json) (name : String) : Option Json :=
  j.fields?.bind (·.find? name)

def ofFields (fs : List (String × Option Json)) : Json :=
  object (Table.ofList (fs.filterMap fun f => f.2.map (f.1, ·)))

def ofTexts (t : Table String) : Json :=
  object (t.map fun e => (e.1, string e.2))

/-! ### Equality -/

mutual

/-- Whether two values are the same. Whole numbers differ from all others, and the two zeros with a
fraction are the same. -/
def same : Json → Json → Bool
  | null, null => true
  | bool a, bool b => a == b
  | int a, int b => a == b
  | float a, float b => a.scaled == b.scaled
  | string a, string b => a == b
  | array as, array bs => sameItems as bs
  | object as, object bs => sameFields as bs
  | _, _ => false

def sameItems : List Json → List Json → Bool
  | [], [] => true
  | a :: as, b :: bs => same a b && sameItems as bs
  | _, _ => false

def sameFields : List (String × Json) → List (String × Json) → Bool
  | [], [] => true
  | (k, a) :: as, (l, b) :: bs => k == l && same a b && sameFields as bs
  | _, _ => false

end

/-! ### Printing -/

def hexDigit (n : Nat) : Char :=
  Nat.digitChar (n % 16)

def escape (c : Char) : List Char :=
  if c = '"' then ['\\', '"']
  else if c = '\\' then ['\\', '\\']
  else if c = '\n' then ['\\', 'n']
  else if c = '\r' then ['\\', 'r']
  else if c = '\t' then ['\\', 't']
  else if c.toNat = 8 then ['\\', 'b']
  else if c.toNat = 12 then ['\\', 'f']
  else if c.toNat < 32 then ['\\', 'u', '0', '0', hexDigit (c.toNat / 16), hexDigit c.toNat]
  else [c]

def quote (s : String) : String :=
  String.ofList ('"' :: s.toList.flatMap escape ++ ['"'])

mutual

/-- The text of a value, without blanks. -/
def compress : Json → String
  | null => "null"
  | bool true => "true"
  | bool false => "false"
  | int n => toString n
  | float x => if x.isFinite then x.toText else "null"
  | string s => quote s
  | array js => "[" ++ compressItems js ++ "]"
  | object fs => "\x7b" ++ compressFields fs ++ "\x7d"

def compressItems : List Json → String
  | [] => ""
  | [j] => compress j
  | j :: rest => compress j ++ "," ++ compressItems rest

def compressFields : List (String × Json) → String
  | [] => ""
  | [(k, j)] => quote k ++ ":" ++ compress j
  | (k, j) :: rest => quote k ++ ":" ++ compress j ++ "," ++ compressFields rest

end

end Json

end Reconciliation
