import Reconciliation.Proofs.Memory.Log
/-!
# Stores apart from their logs

A store never reads its log. So stores that differ in their logs alone answer every call the same, and after the call
they differ in their logs alone again (`SameButLog.respond`). The log says which calls came last, and whether it is
cleared or gives up entries makes no difference to what is stored (`log_latest`).
-/

namespace Reconciliation

namespace Memory

variable {m m' : Memory}

/-- Whether two stores hold the same, whatever they have in their logs. -/
structure SameButLog (m m' : Memory) : Prop where
  objects : m'.objects = m.objects
  version : m'.version = m.version
  rejectsStatus : m'.rejectsStatus = m.rejectsStatus

/-- Whether two stores gave the same answer and hold the same after it. -/
def SameResponse {α : Type} (response response' : α × Memory) : Prop :=
  response'.1 = response.1 ∧ SameButLog response.2 response'.2

/-- A run of a store whose log a rule sets after each action, in place of what the store would keep. -/
def runKeeping (keep : Memory → Action → List LoggedCall) (m : Memory) (actions : List Action) : Memory :=
  actions.foldl (fun m a => { m.perform a with log := keep m a }) m

namespace SameButLog

theorem refl (m : Memory) : SameButLog m m := ⟨rfl, rfl, rfl⟩

theorem stored (h : SameButLog m m') (k : ObjectKey) : m'.stored k = m.stored k := by
  rw [Memory.stored, h.objects, Memory.stored]

theorem nextVersion (h : SameButLog m m') : m'.nextVersion = m.nextVersion := by
  rw [Memory.nextVersion, h.version, Memory.nextVersion]

theorem record (h : SameButLog m m') (kind : CallKind) (path : String) :
    SameButLog (m.record kind path) (m'.record kind path) :=
  ⟨h.objects, h.version, h.rejectsStatus⟩

theorem put (h : SameButLog m m') (path : String) (o : DynamicObject) :
    SameButLog (m.put path o) (m'.put path o) where
  objects := congrArg (Table.insert · path o) h.objects
  version := congrArg (· + 1) h.version
  rejectsStatus := h.rejectsStatus

theorem erase (h : SameButLog m m') (path : String) :
    SameButLog { m with objects := m.objects.erase path } { m' with objects := m'.objects.erase path } where
  objects := congrArg (Table.erase · path) h.objects
  version := h.version
  rejectsStatus := h.rejectsStatus

theorem get (h : SameButLog m m') (k : ObjectKey) : SameResponse (Memory.get k m) (Memory.get k m') := by
  have hrecord := h.record .get k.path
  cases hs : m.stored k with
  | none =>
    rw [get_absent hs, get_absent ((h.stored k).trans hs)]
    exact ⟨rfl, hrecord⟩
  | some old =>
    rw [get_present hs, get_present ((h.stored k).trans hs)]
    exact ⟨rfl, hrecord⟩

theorem create (h : SameButLog m m') (o : DynamicObject) :
    SameResponse (Memory.create o m) (Memory.create o m') := by
  cases hk : storeKey o with
  | error e =>
    rw [create_invalid hk, create_invalid hk]
    exact ⟨rfl, h⟩
  | ok k =>
    have hrecord := h.record .create k.path
    cases hs : m.stored k with
    | none =>
      rw [create_absent hk hs, create_absent hk ((h.stored k).trans hs), h.nextVersion]
      exact ⟨rfl, hrecord.put k.path _⟩
    | some old =>
      rw [create_present hk hs, create_present hk ((h.stored k).trans hs)]
      exact ⟨rfl, hrecord⟩

theorem overwrite (h : SameButLog m m') (k : ObjectKey) (o : DynamicObject)
    (write : DynamicObject → DynamicObject → String → DynamicObject) :
    SameResponse (Memory.overwrite k o write m) (Memory.overwrite k o write m') := by
  cases hs : m.stored k with
  | none =>
    rw [overwrite_absent write hs, overwrite_absent write ((h.stored k).trans hs)]
    exact ⟨rfl, h⟩
  | some old =>
    have hs' := (h.stored k).trans hs
    cases hv : checkVersion k old o with
    | error e =>
      rw [overwrite_stale write hs hv, overwrite_stale write hs' hv]
      exact ⟨rfl, h⟩
    | ok =>
      rw [overwrite_present write hs hv, overwrite_present write hs' hv, h.nextVersion]
      exact ⟨rfl, h.put k.path _⟩

theorem update (h : SameButLog m m') (o : DynamicObject) :
    SameResponse (Memory.update o m) (Memory.update o m') := by
  cases hk : storeKey o with
  | error e =>
    rw [update_invalid hk, update_invalid hk]
    exact ⟨rfl, h⟩
  | ok k =>
    rw [update_eq hk, update_eq hk]
    exact (h.record .update k.path).overwrite k o updatedObject

theorem updateStatus (h : SameButLog m m') (o : DynamicObject) :
    SameResponse (Memory.updateStatus o m) (Memory.updateStatus o m') := by
  cases hk : storeKey o with
  | error e =>
    rw [updateStatus_invalid hk, updateStatus_invalid hk]
    exact ⟨rfl, h⟩
  | ok k =>
    have hrecord := h.record .updateStatus k.path
    cases hr : m.rejectsStatus with
    | true =>
      rw [updateStatus_rejected hk hr, updateStatus_rejected hk (h.rejectsStatus.trans hr)]
      exact ⟨rfl, hrecord⟩
    | false =>
      rw [updateStatus_eq hk hr, updateStatus_eq hk (h.rejectsStatus.trans hr)]
      exact hrecord.overwrite k o restatedObject

theorem delete (h : SameButLog m m') (o : DynamicObject) :
    SameResponse (Memory.delete o m) (Memory.delete o m') := by
  cases hk : storeKey o with
  | error e =>
    rw [delete_invalid hk, delete_invalid hk]
    exact ⟨rfl, h⟩
  | ok k =>
    have hrecord := h.record .delete k.path
    cases hs : m.stored k with
    | none =>
      rw [delete_absent hk hs, delete_absent hk ((h.stored k).trans hs)]
      exact ⟨rfl, hrecord⟩
    | some old =>
      rw [delete_present hk hs, delete_present hk ((h.stored k).trans hs)]
      exact ⟨rfl, hrecord.erase k.path⟩

theorem respond (h : SameButLog m m') (c : StoreCall) :
    SameResponse (Memory.respond c m) (Memory.respond c m') := by
  cases c with
  | get k => exact h.get k
  | create o => exact h.create o
  | update o => exact h.update o
  | updateStatus o => exact h.updateStatus o
  | delete o => exact h.delete o

theorem runKeeping (h : SameButLog m m') (keep : Memory → Action → List LoggedCall) (actions : List Action) :
    SameButLog (m.run actions) (m'.runKeeping keep (actions.filter fun a => !a.clears)) := by
  induction actions generalizing m m' with
  | nil => exact h
  | cons a actions ih =>
    cases a with
    | call c =>
      have hnext := (h.respond c).2
      exact ih ⟨hnext.objects, hnext.version, hnext.rejectsStatus⟩
    | rejectStatus => exact ih ⟨h.objects, h.version, rfl⟩
    | clearLog => exact ih ⟨h.objects, h.version, h.rejectsStatus⟩

end SameButLog

/-- The log of a store that starts empty has the last entries of the calls since it was cleared, as many as there are
or as are kept. A store that goes through the same run, but is never cleared and keeps its log by whatever rule, also
by one that gives up no entry, holds the same objects, has issued the same versions and answers the next call the
same. -/
theorem log_latest (actions : List Action) :
    (run {} actions).log = (entriesSinceClear actions).rtake maxLogged ∧
    (run {} actions).log.length = min (entriesSinceClear actions).length maxLogged ∧
    ∀ keep : Memory → Action → List LoggedCall,
      let other := runKeeping keep {} (actions.filter fun a => !a.clears)
      other.objects = (run {} actions).objects ∧ other.version = (run {} actions).version ∧
      ∀ c, (respond c other).1 = (respond c (run {} actions)).1 := by
  have hlog := log_run actions
  refine ⟨hlog, ?_, ?_⟩
  · rw [hlog, length_rtake]
  · intro keep other
    have hsame : SameButLog (run {} actions) other := (SameButLog.refl {}).runKeeping keep actions
    exact ⟨hsame.objects, hsame.version, fun c => (hsame.respond c).1⟩

end Memory

end Reconciliation
