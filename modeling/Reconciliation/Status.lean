import Reconciliation.Json.Reader
import Reconciliation.Time.Rfc3339
/-!
# Reconcile status

What a resource records about its last pass: when it ended, how, and why. The record is also the only
state of the backoff.

It is read from JSON in two shapes: an object with named fields, or an array of the same three in the
order of their names. A missing field has its default, a field of another name is passed over, and a word
that names no known outcome stands for an unknown one. A field must not be given twice, which only a text
can do.
-/

namespace Reconciliation

inductive Outcome where
  | success
  | failure
  | unknown
  deriving DecidableEq, Repr, Inhabited

namespace Outcome

def name : Outcome → String
  | success => "Success"
  | failure => "Failure"
  | unknown => "Unknown"

def ofName (s : String) : Outcome :=
  if s = "Success" then success else if s = "Failure" then failure else unknown

@[simp] theorem ofName_name (o : Outcome) : ofName o.name = o := by
  cases o <;> decide

end Outcome

/-- The record of the last pass over a resource. -/
structure Status where
  lastUpdate : Option Instant
  reason : String
  outcome : Outcome
  deriving DecidableEq, Repr

namespace Status

/-- The record of a resource that no pass has ended for. -/
def default : Status := ⟨none, "", .unknown⟩

instance : Inhabited Status := ⟨default⟩

def success (now : Instant) : Status := ⟨some now, "", .success⟩

def failure (now : Instant) (reason : String) : Status := ⟨some now, reason, .failure⟩

def toJson (s : Status) : Json :=
  .object ((match s.lastUpdate with
      | none => []
      | some t => [("lastUpdate", .string (t.toRfc3339 .shortest))])
    ++ [("reason", .string s.reason), ("status", .string s.outcome.name)])

def toText (s : Status) : String :=
  s.toJson.compress

/-! ### Reading -/

open Json (Written)

/-- Reads the time of a record: unset, or a written time. -/
def timeOf? : Written → Option (Option Instant)
  | .value .null => some none
  | .value (.string s) => (Instant.ofRfc3339? s).map some
  | _ => none

def reasonOf? : Written → Option String
  | .value (.string s) => some s
  | _ => none

/-- Reads an outcome: its word, or an object with the word as its only name and nothing under it. -/
def outcomeOf? (w : Written) : Option Outcome :=
  match w, w.fields? with
  | .value (.string s), _ => some (.ofName s)
  | _, some [(name, .value .null)] => some (.ofName name)
  | _, _ => none

def fieldNames : List String := ["lastUpdate", "reason", "status"]

def ofFields? (fs : List (String × Written)) : Option Status :=
  if Written.repeats fieldNames fs then none
  else do
    let lastUpdate ← ((Written.field? fs "lastUpdate").map timeOf?).getD (some none)
    let reason ← ((Written.field? fs "reason").map reasonOf?).getD (some "")
    let outcome ← ((Written.field? fs "status").map outcomeOf?).getD (some .unknown)
    return ⟨lastUpdate, reason, outcome⟩

/-- Reads a record from what is written: an object, or an array of the values of its fields. -/
def ofWritten? (w : Written) : Option Status :=
  match w.fields?, w.items? with
  | some fs, _ => ofFields? fs
  | none, some ws => if ws.length ≤ fieldNames.length then ofFields? (fieldNames.zip ws) else none
  | none, none => none

def ofText? (text : String) : Option Status :=
  (Written.ofText? text).bind ofWritten?

end Status

end Reconciliation
