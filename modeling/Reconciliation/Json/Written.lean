import Reconciliation.Json
/-!
# JSON as it is written

A text gives more than the value that it stands for: the order of the fields of an object, and fields that
are given twice. It also gives less, because a scalar can be well formed and stand for nothing, such as a
number out of range. Whoever reads a typed value from a text looks at what it asks for and passes over the
rest, so both matter.

A value that is known already counts as written too. `Written.json?` evaluates the whole.
-/

namespace Reconciliation

namespace Json

/-- A value as it is written. -/
inductive Written where
  | value (j : Json)
  | broken
  | array (items : List Written)
  | object (fields : List (String × Written))
  deriving Inhabited

namespace Written

def items? : Written → Option (List Written)
  | value (.array js) => some (js.map value)
  | array ws => some ws
  | _ => none

/-- The fields of an object, in the order in which they are given. -/
def fields? : Written → Option (List (String × Written))
  | value (.object fs) => some (fs.map fun f => (f.1, value f.2))
  | object fs => some fs
  | _ => none

mutual

/-- The value that is written, if all of it stands for something. Of two fields with one name the later
counts. -/
def json? : Written → Option Json
  | value j => some j
  | broken => none
  | array ws => (itemValues? ws).map .array
  | object fs => (fieldValues? fs).map fun fs => .object (Table.ofList fs)

def itemValues? : List Written → Option (List Json)
  | [] => some []
  | w :: ws => do return (← json? w) :: (← itemValues? ws)

def fieldValues? : List (String × Written) → Option (List (String × Json))
  | [] => some []
  | (name, w) :: fs => do return (name, ← json? w) :: (← fieldValues? fs)

end

/-- Whether one of some names is given to more than one field. -/
def repeats (names : List String) (fs : List (String × Written)) : Bool :=
  names.any fun name => 1 < (fs.filter (·.1 == name)).length

def field? (fs : List (String × Written)) (name : String) : Option Written :=
  (fs.find? (·.1 == name)).map Prod.snd

end Written

end Json

end Reconciliation
