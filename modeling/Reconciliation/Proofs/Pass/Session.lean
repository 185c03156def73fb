import Mathlib.Logic.Function.Basic
import Reconciliation.Proofs.Pass.Alike
import Reconciliation.Proofs.Pass.Conclusion
/-!
# Sessions

A controller has objects in hand, asks the synchronizer to bring them to the store, one call after the other, and
concludes with the recording of a failure or a success of one of them (`Session`). An object is given back by each
call with what the store knows it by, so later calls depend on earlier ones through the objects in hand. Two runs of a
session make alike calls as long as its objects bring no version that the stores may yet issue (`Session.alike`).
-/

namespace Reconciliation

/-- The objects that a controller has in hand, by some names. -/
abbrev Hand (κ : Type) : Type := κ → ManagedObject

/-- What a controller asks of the synchronizer for objects in hand or for the resources of a template. -/
inductive SyncCall (κ : Type) where
  | converge (owner : Option ManagedObject) (nameSpace : Option String) (name : κ)
  | ensurePresent (owner : Option ManagedObject) (nameSpace : Option String) (name : κ)
  | ensureAbsent (name : κ)
  | convergeAll (owner : Option ManagedObject) (nameSpace : Option String) (names : List κ)
  | ensureAllPresent (owner : Option ManagedObject) (nameSpace : Option String) (names : List κ)
  | ensureAllAbsent (names : List κ)
  | convergeRendered (owner : Option ManagedObject) (nameSpace : Option String) (t : Template) (data : Json)
  | ensureRenderedPresent (owner : Option ManagedObject) (nameSpace : Option String) (t : Template) (data : Json)
  | ensureRenderedAbsent (nameSpace : Option String) (t : Template) (data : Json)

namespace Hand

variable {κ : Type} [DecidableEq κ]

/-- The objects in hand with some of them given back. -/
def takeBack (hand : Hand κ) : List κ → List ManagedObject → Hand κ
  | name :: names, o :: os => takeBack (Function.update hand name o) names os
  | _, _ => hand

/-- An operation on one object in hand. -/
def onOne (hand : Hand κ) (name : κ) (operation : ManagedObject → Pass (ManagedObject × Except ReconcileError Unit)) :
    Pass (Hand κ × Except ReconcileError Unit) := do
  let (o, r) ← operation (hand name)
  return (hand.takeBack [name] [o], r)

/-- An operation on several objects in hand. -/
def onAll (hand : Hand κ) (names : List κ)
    (operation : List ManagedObject → Pass (List ManagedObject × Except ReconcileError Unit)) :
    Pass (Hand κ × Except ReconcileError Unit) := do
  let (os, r) ← operation (names.map hand)
  return (hand.takeBack names os, r)

/-- An operation on no object in hand. -/
def beside (hand : Hand κ) (operation : Pass (Except ReconcileError Unit)) :
    Pass (Hand κ × Except ReconcileError Unit) := do
  let r ← operation
  return (hand, r)

end Hand

namespace SyncCall

variable {κ : Type} [DecidableEq κ]

def pass (r : Reconciler) (hand : Hand κ) : SyncCall κ → Pass (Hand κ × Except ReconcileError Unit)
  | converge owner nameSpace name => hand.onOne name (r.converge owner nameSpace)
  | ensurePresent owner nameSpace name => hand.onOne name (r.ensurePresent owner nameSpace)
  | ensureAbsent name => hand.onOne name Synchronize.ensureAbsent
  | convergeAll owner nameSpace names => hand.onAll names (r.convergeAll owner nameSpace)
  | ensureAllPresent owner nameSpace names => hand.onAll names (r.ensureAllPresent owner nameSpace)
  | ensureAllAbsent names => hand.onAll names Synchronize.ensureAllAbsent
  | convergeRendered owner nameSpace t data => hand.beside (r.convergeRendered owner nameSpace t data)
  | ensureRenderedPresent owner nameSpace t data => hand.beside (r.ensureRenderedPresent owner nameSpace t data)
  | ensureRenderedAbsent nameSpace t data => hand.beside (Synchronize.ensureRenderedAbsent nameSpace t data)

/-- One call after the other, with the outcome of each. -/
def passAll (r : Reconciler) (hand : Hand κ) :
    List (SyncCall κ) → Pass (Hand κ × List (Except ReconcileError Unit))
  | [] => return (hand, [])
  | c :: cs => do
    let (hand, outcome) ← c.pass r hand
    let (hand, outcomes) ← passAll r hand cs
    return (hand, outcome :: outcomes)

/-- The template of a call, with its data. -/
def rendered? : SyncCall κ → Option (Template × Json)
  | convergeRendered _ _ t data | ensureRenderedPresent _ _ t data | ensureRenderedAbsent _ t data => some (t, data)
  | _ => none

end SyncCall

/-- Calls of the synchronizer for objects in hand, and the recording of how they went for one of them. -/
structure Session (κ : Type) where
  reconciler : Reconciler
  clock : Instant
  hand : Hand κ
  calls : List (SyncCall κ)
  concluded : κ
  failure : Option String

namespace Session

variable {κ : Type} [DecidableEq κ]

/-- The pass of a session, with the outcome of each call and with what the scheduler is told. -/
def pass (s : Session κ) : Pass (List (Except ReconcileError Unit) × Requeue) := do
  let (hand, outcomes) ← SyncCall.passAll s.reconciler s.hand s.calls
  let (_, requeue) ← s.reconciler.conclude (hand s.concluded) s.failure
  return (outcomes, requeue)

/-- The store calls of a session. -/
def storeCalls (s : Session κ) : Dialogue StoreCall.Answer (List (Except ReconcileError Unit) × Requeue) :=
  s.pass.calls s.clock

/-- An object that a session begins with: one in hand or a resource of a template. -/
def Brings (s : Session κ) (o : ManagedObject) : Prop :=
  (∃ name, o = s.hand name) ∨
    ∃ c ∈ s.calls, ∃ t data os d, c.rendered? = some (t, data) ∧ t.resources data = .ok os ∧ d ∈ os ∧ o = .dynamic d

end Session

/-! ### Alike sessions -/

open Pass

variable {V V' : Matching} {κ : Type} [DecidableEq κ] {hand hand' : Hand κ} {r : Reconciler} {clock : Instant}

namespace Hand

def Alike (V : Matching) (hand hand' : Hand κ) : Prop :=
  ∀ name, (hand name).Alike V (hand' name)

omit [DecidableEq κ] in
theorem Alike.mono (h : hand.Alike V hand') (hV : V ≤ V') : hand.Alike V' hand' :=
  fun name => (h name).mono hV

theorem Alike.takeBack (h : hand.Alike V hand') (names : List κ) {os os' : List ManagedObject}
    (hos : List.Forall₂ (ManagedObject.Alike V) os os') :
    (hand.takeBack names os).Alike V (hand'.takeBack names os') := by
  induction names generalizing hand hand' os os' with
  | nil => exact h
  | cons name names ih =>
    cases hos with
    | nil => exact h
    | cons ho hrest =>
      refine ih (fun other => ?_) hrest
      by_cases hother : other = name
      · subst hother
        rwa [Function.update_self, Function.update_self]
      · rw [Function.update_of_ne hother, Function.update_of_ne hother]
        exact h other

omit [DecidableEq κ] in
theorem Alike.map (h : hand.Alike V hand') (names : List κ) :
    List.Forall₂ (ManagedObject.Alike V) (names.map hand) (names.map hand') := by
  induction names with
  | nil => exact .nil
  | cons name names ih => exact .cons (h name) ih

/-- Objects in hand and the outcome of a call. -/
def GivenAlike (V : Matching) (r r' : Hand κ × Except ReconcileError Unit) : Prop :=
  r.1.Alike V r'.1 ∧ OutcomeAlike r.2 r'.2

theorem alike_onOne (h : hand.Alike V hand') (name : κ)
    {operation : ManagedObject → Pass (ManagedObject × Except ReconcileError Unit)}
    (hop : ∀ {o o' : ManagedObject}, o.Alike V o' →
      (operation o).Alike clock Reconciliation.GivenAlike V (operation o')) :
    (hand.onOne name operation).Alike clock GivenAlike V (hand'.onOne name operation) :=
  alike_andThen (hop (h name)) fun _ hV _ _ hgiven =>
    alike_done ⟨(h.mono hV).takeBack [name] (.cons hgiven.1 .nil), hgiven.2⟩

theorem alike_onAll (h : hand.Alike V hand') (names : List κ)
    {operation : List ManagedObject → Pass (List ManagedObject × Except ReconcileError Unit)}
    (hop : ∀ {os os' : List ManagedObject}, List.Forall₂ (ManagedObject.Alike V) os os' →
      (operation os).Alike clock AllGivenAlike V (operation os')) :
    (hand.onAll names operation).Alike clock GivenAlike V (hand'.onAll names operation) :=
  alike_andThen (hop (h.map names)) fun _ hV _ _ hgiven =>
    alike_done ⟨(h.mono hV).takeBack names hgiven.1, hgiven.2⟩

omit [DecidableEq κ] in
theorem alike_beside (h : hand.Alike V hand') {operation : Pass (Except ReconcileError Unit)}
    (hop : operation.Alike clock (fun _ => OutcomeAlike) V operation) :
    (hand.beside operation).Alike clock GivenAlike V (hand'.beside operation) :=
  alike_andThen hop fun _ hV _ _ houtcome => alike_done ⟨h.mono hV, houtcome⟩

end Hand

namespace SyncCall

open Synchronize

/-- The resources that a call renders bring matched versions. -/
def RendersAlike (V : Matching) (c : SyncCall κ) : Prop :=
  ∀ t data os, c.rendered? = some (t, data) → t.resources data = .ok os →
    ∀ d ∈ os, (ManagedObject.dynamic d).Alike V (.dynamic d)

omit [DecidableEq κ] in
theorem RendersAlike.forall₂ {c : SyncCall κ} (hc : c.RendersAlike V) {t : Template} {data : Json}
    (hrendered : c.rendered? = some (t, data)) {os : List DynamicObject} (hos : t.resources data = .ok os) :
    List.Forall₂ (ManagedObject.Alike V) (os.map .dynamic) (os.map .dynamic) := by
  refine forall₂_refl fun o ho => ?_
  obtain ⟨d, hd, rfl⟩ := List.mem_map.1 ho
  exact hc t data os hrendered hos d hd

theorem alike_pass (hr : r.stamper.Blind) (h : hand.Alike V hand') {c : SyncCall κ} (hc : c.RendersAlike V) :
    (c.pass r hand).Alike clock Hand.GivenAlike V (c.pass r hand') := by
  cases c with
  | converge owner nameSpace name => exact Hand.alike_onOne h name (alike_converge hr)
  | ensurePresent owner nameSpace name => exact Hand.alike_onOne h name (alike_ensurePresent hr)
  | ensureAbsent name => exact Hand.alike_onOne h name alike_ensureAbsent
  | convergeAll owner nameSpace names => exact Hand.alike_onAll h names (alike_batch (alike_converge hr))
  | ensureAllPresent owner nameSpace names => exact Hand.alike_onAll h names (alike_batch (alike_ensurePresent hr))
  | ensureAllAbsent names => exact Hand.alike_onAll h names (alike_batch alike_ensureAbsent)
  | convergeRendered owner nameSpace t data =>
    exact Hand.alike_beside h (alike_onRendered fun os hos => alike_batch (alike_converge hr) (hc.forall₂ rfl hos))
  | ensureRenderedPresent owner nameSpace t data =>
    exact Hand.alike_beside h (alike_onRendered fun os hos =>
      alike_batch (alike_ensurePresent hr) (hc.forall₂ rfl hos))
  | ensureRenderedAbsent nameSpace t data =>
    refine Hand.alike_beside h (alike_onRendered fun os hos => alike_batch alike_ensureAbsent (forall₂_refl ?_))
    intro moved hmoved
    obtain ⟨o, ho, rfl⟩ := List.mem_map.1 hmoved
    have halike := List.forall₂_same.1 (hc.forall₂ rfl hos) o ho
    exact halike.withMetadata (halike.metadata.inNamespace nameSpace)

/-- Objects in hand and the outcomes of several calls. -/
def AllGivenAlike (V : Matching) (r r' : Hand κ × List (Except ReconcileError Unit)) : Prop :=
  r.1.Alike V r'.1 ∧ List.Forall₂ OutcomeAlike r.2 r'.2

theorem alike_passAll (hr : r.stamper.Blind) (h : hand.Alike V hand') {cs : List (SyncCall κ)}
    (hcs : ∀ c ∈ cs, c.RendersAlike V) :
    (passAll r hand cs).Alike clock AllGivenAlike V (passAll r hand' cs) := by
  induction cs generalizing V hand hand' with
  | nil => exact alike_done ⟨h, .nil⟩
  | cons c cs ih =>
    refine alike_andThen (alike_pass hr h (hcs c List.mem_cons_self)) fun V' hV given given' hgiven => ?_
    have hrest : ∀ c ∈ cs, c.RendersAlike V' := fun c hc t data os hrendered hos d hd =>
      (hcs c (List.mem_cons_of_mem _ hc) t data os hrendered hos d hd).mono hV
    refine alike_andThen (ih hgiven.1 hrest) fun V'' hV' all all' hall => ?_
    exact alike_done ⟨hall.1, .cons hgiven.2 hall.2⟩

end SyncCall

namespace Session

/-- The same outcomes of all calls, and the same for the scheduler. -/
def ResultAlike (r r' : List (Except ReconcileError Unit) × Requeue) : Prop :=
  List.Forall₂ OutcomeAlike r.1 r'.1 ∧ r.2 = r'.2

theorem alike_conclude {o o' : ManagedObject} (r : Reconciler) (h : o.Alike V o') (failure : Option String) :
    (r.conclude o failure).Alike clock Conclusion.RequeueAlike V (r.conclude o' failure) := by
  cases failure with
  | none => exact Conclusion.alike_recordSuccess h
  | some message => exact Conclusion.alike_recordFailure h message

theorem alike {s : Session κ} (hr : s.reconciler.stamper.Blind) (h : ∀ o, s.Brings o → o.Alike V o) :
    Dialogue.Alike (fun _ => ResultAlike) V s.storeCalls s.storeCalls := by
  have hhand : s.hand.Alike V s.hand := fun name => h _ (.inl ⟨name, rfl⟩)
  have hcalls : ∀ c ∈ s.calls, c.RendersAlike V := fun c hc t data os hrendered hos d hd =>
    h _ (.inr ⟨c, hc, t, data, os, d, hrendered, hos, hd, rfl⟩)
  refine alike_andThen (SyncCall.alike_passAll hr hhand hcalls) fun V' hV given given' hgiven => ?_
  refine alike_andThen (alike_conclude s.reconciler (hgiven.1 s.concluded) s.failure) fun V'' hV' told told' htold => ?_
  exact alike_done ⟨hgiven.2, htold.2⟩

end Session

end Reconciliation
