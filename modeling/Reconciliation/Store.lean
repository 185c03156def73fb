import Reconciliation.Dialogue
import Reconciliation.Error
import Reconciliation.Resource.Key
/-!
# Object stores

A store keeps objects and counts their versions. It is asked with a `StoreCall` and answers with the
object as it is then stored, or with why it did nothing; anything that answers such calls is a store.
-/

namespace Reconciliation

/-- What a store is asked to do. -/
inductive StoreCall where
  | get (key : ObjectKey)
  | create (object : DynamicObject)
  | update (object : DynamicObject)
  | updateStatus (object : DynamicObject)
  | delete (object : DynamicObject)

namespace StoreCall

/-- The sort of answer to a call: an object, except after a deletion. -/
def Answer : StoreCall → Type
  | delete _ => Except StoreError Unit
  | _ => Except StoreError DynamicObject

def failed (e : StoreError) : (c : StoreCall) → c.Answer
  | get _ => .error e
  | create _ => .error e
  | update _ => .error e
  | updateStatus _ => .error e
  | delete _ => .error e

end StoreCall

inductive CallKind where
  | get
  | create
  | update
  | updateStatus
  | delete
  deriving DecidableEq, Repr

namespace CallKind

def name : CallKind → String
  | get => "get"
  | create => "create"
  | update => "update"
  | updateStatus => "update_status"
  | delete => "delete"

end CallKind

def StoreCall.kind : StoreCall → CallKind
  | get _ => .get
  | create _ => .create
  | update _ => .update
  | updateStatus _ => .updateStatus
  | delete _ => .delete

abbrev Store (σ : Type) : Type := Dialogue.Responder StoreCall.Answer σ

/-- The identity that a store files an object under. -/
def storeKey (o : DynamicObject) : Except StoreError ObjectKey :=
  match ObjectKey.ofDynamic o with
  | .ok k => .ok k
  | .error e => .error (.invalid e.message)

end Reconciliation
