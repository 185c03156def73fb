import Reconciliation.Metrics
import Reconciliation.Store
import Reconciliation.Time.Instant
/-!
# What a pass does to its surroundings

A reconciliation pass calls the store, publishes events, reads the clock and takes measurements. All of
these are questions of one dialogue, so their order is part of what a pass is.
-/

namespace Reconciliation

inductive Severity where
  | normal
  | warning
  deriving DecidableEq, Repr

def Severity.name : Severity → String
  | normal => "Normal"
  | warning => "Warning"

structure Notice where
  reference : ObjectReference
  severity : Severity
  reason : String
  action : String
  message : String
  deriving DecidableEq, Repr

/-- What a pass does to its surroundings. -/
inductive Effect where
  | store (call : StoreCall)
  | notify (notice : Notice)
  | now
  | measure (measurement : Measurement)

namespace Effect

def Answer : Effect → Type
  | store c => c.Answer
  | notify _ => Unit
  | now => Instant
  | measure _ => Unit

end Effect

/-- A computation with the effects of a pass. -/
abbrev Pass (α : Type) : Type := Dialogue Effect.Answer α

namespace Pass

def call (c : StoreCall) : Pass c.Answer :=
  .ask (.store c) .done

def get (k : ObjectKey) : Pass (Except StoreError DynamicObject) :=
  call (.get k)

def create (o : DynamicObject) : Pass (Except StoreError DynamicObject) :=
  call (.create o)

def update (o : DynamicObject) : Pass (Except StoreError DynamicObject) :=
  call (.update o)

def updateStatus (o : DynamicObject) : Pass (Except StoreError DynamicObject) :=
  call (.updateStatus o)

def delete (o : DynamicObject) : Pass (Except StoreError Unit) :=
  call (.delete o)

def notify (n : Notice) : Pass Unit :=
  .ask (.notify n) .done

def now : Pass Instant :=
  .ask .now .done

def measure (m : Measurement) : Pass Unit :=
  .ask (.measure m) .done

end Pass

end Reconciliation
