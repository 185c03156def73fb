import Reconciliation.Proofs.Memory.History
import Reconciliation.Proofs.Pass.Conclusion
import Reconciliation.Reconciler
/-!
# One object and its recordings

A controller keeps one object in hand and records how its passes over it end. Each time is a visit: it has its own
time, it records a failure or a success, and before it anything may have happened to the store (`Visit`). What
comes of a visit is decided by whether the store accepts its one status write (`after_accepted`, `after_rejected`).
-/

namespace Reconciliation

/-- The recording of a failure with its message or of a success, and what happens to the store before it. -/
structure Visit where
  clock : Instant
  failure : Option String
  meanwhile : List Memory.Action := []

/-- An object in the hands of a controller, and the surroundings of its passes. -/
structure Tended where
  object : ManagedObject
  surroundings : Surroundings Memory

namespace Visit

/-- The status that a visit records. -/
def status (v : Visit) : Status :=
  match v.failure with
  | some message => .failure v.clock message
  | none => .success v.clock

def pass (b : Backoff) (v : Visit) (o : ManagedObject) : Pass (ManagedObject × Requeue) :=
  match v.failure with
  | some message => Conclusion.recordFailure b o message
  | none => Conclusion.recordSuccess b o

def enter (v : Visit) (s : Surroundings Memory) : Surroundings Memory :=
  { s with store := s.store.run v.meanwhile, clock := v.clock }

end Visit

namespace Tended

def run (b : Backoff) (t : Tended) (v : Visit) : (ManagedObject × Requeue) × Surroundings Memory :=
  Surroundings.run Memory.respond (v.pass b t.object) (v.enter t.surroundings)

def after (b : Backoff) (t : Tended) (v : Visit) : Tended :=
  ⟨(t.run b v).1.1, (t.run b v).2⟩

/-- What a visit tells the scheduler. -/
def requeue (b : Backoff) (t : Tended) (v : Visit) : Requeue :=
  (t.run b v).1.2

def afterAll (b : Backoff) (t : Tended) (visits : List Visit) : Tended :=
  visits.foldl (after b) t

@[simp] theorem afterAll_nil (b : Backoff) (t : Tended) : t.afterAll b [] = t := rfl

theorem afterAll_concat (b : Backoff) (t : Tended) (visits : List Visit) (v : Visit) :
    t.afterAll b (visits ++ [v]) = (t.afterAll b visits).after b v := by
  rw [afterAll, List.foldl_append]
  rfl

def found (t : Tended) (v : Visit) : Memory :=
  t.surroundings.store.run v.meanwhile

end Tended

namespace ManagedObject

variable {o : ManagedObject}

@[simp] theorem tracksStatus_withStatus (o : ManagedObject) (s : Status) :
    (o.withStatus s).tracksStatus = o.tracksStatus := by
  cases o <;> rfl

@[simp] theorem tracksStatus_adopt (o : ManagedObject) (stored : DynamicObject) :
    (Synchronize.adopt o stored).tracksStatus = o.tracksStatus := by
  cases o <;> rfl

theorem status?_withStatus (ho : o.tracksStatus = true) (s : Status) : (o.withStatus s).status? = some s := by
  obtain ⟨t, rfl⟩ := eq_tracked_of_tracksStatus ho
  rfl

@[simp] theorem status?_adopt (o : ManagedObject) (stored : DynamicObject) :
    (Synchronize.adopt o stored).status? = o.status? := by
  cases o <;> rfl

@[simp] theorem key_adopt (o : ManagedObject) (stored : DynamicObject) :
    ObjectKey.of (Synchronize.adopt o stored) = ObjectKey.of o := by
  cases o <;> rfl

@[simp] theorem writable_adopt (o : ManagedObject) (stored : DynamicObject) :
    (Synchronize.adopt o stored).Writable ↔ o.Writable :=
  o.writable_withMetadata _

@[simp] theorem resourceVersion_adopt (o : ManagedObject) (stored : DynamicObject) :
    (Synchronize.adopt o stored).metadata.resourceVersion = stored.metadata.resourceVersion := by
  cases o <;> rfl

end ManagedObject

namespace Tended

variable {b : Backoff} {o : ManagedObject} {k : ObjectKey} {s : Surroundings Memory} {t : Tended} {v : Visit}
  {w : DynamicObject} {m : Memory} {e : StoreError}

theorem run_eq_conclude (b : Backoff) (t : Tended) (v : Visit) :
    t.run b v =
      Surroundings.run Memory.respond (Conclusion.conclude b v.failure t.object) (v.enter t.surroundings) := by
  obtain ⟨clock, failure, meanwhile⟩ := v
  cases failure <;> rfl

theorem status_eq_concluded (v : Visit) : v.status = Conclusion.concluded v.clock v.failure := by
  obtain ⟨clock, failure, meanwhile⟩ := v
  cases failure <;> rfl

/-! ### The two ways in which a visit ends -/

def Accepts (t : Tended) (v : Visit) : Prop :=
  ∃ d w, (t.object.withStatus v.status).toDynamic = .ok d ∧ (Memory.updateStatus d (t.found v)).1 = .ok w

/-- A status write is accepted if the object can be written and has the stored version. -/
theorem accepts_of_current {old : DynamicObject} (hwritable : t.object.Writable)
    (hk : ObjectKey.of t.object = .ok k) (hrejects : (t.found v).rejectsStatus = false)
    (hold : (t.found v).stored k = some old)
    (hversion : old.metadata.resourceVersion = t.object.metadata.resourceVersion) : t.Accepts v := by
  obtain ⟨d, hd⟩ := (ManagedObject.writable_withStatus t.object v.status).2 hwritable
  have hsame : d.metadata.resourceVersion = t.object.metadata.resourceVersion := by
    rw [(ManagedObject.toDynamic_ok hd).2.1, ManagedObject.metadata_withStatus]
  have hcheck : Memory.checkVersion k old d = .ok () := Memory.checkVersion_same k (hversion.trans hsame.symm)
  have hwrite := Memory.overwrite_present (m := Memory.record _ .updateStatus k.path) Memory.restatedObject hold hcheck
  rw [← Memory.updateStatus_eq ((ManagedObject.storeKey_toDynamic_withStatus hd).2 hk) hrejects] at hwrite
  exact ⟨d, _, hd, congrArg Prod.fst hwrite⟩

theorem not_accepts_of_rejects (hk : ObjectKey.of t.object = .ok k)
    (hrejects : (t.found v).rejectsStatus = true) : ¬ t.Accepts v := by
  rintro ⟨d, w, hd, hw⟩
  rw [Memory.updateStatus_rejected ((ManagedObject.storeKey_toDynamic_withStatus hd).2 hk) hrejects] at hw
  cases hw

/-- An accepted visit puts its status into the stored object, and the object takes over the new version. -/
theorem after_accepted (b : Backoff) (ho : t.object.tracksStatus = true) (hk : ObjectKey.of t.object = .ok k)
    (h : t.Accepts v) :
    ∃ old d w, (t.found v).stored k = some old ∧ d.status? = some v.status.field ∧
      w = Memory.restatedObject old d (t.found v).nextVersion ∧
      (t.after b v).surroundings.store.stored k = some w ∧
      (t.after b v).object = Synchronize.adopt (t.object.withStatus v.status) w ∧
      t.requeue b v =
        if v.failure.isSome then .later (b.requeueDelay v.clock t.object.status?) else .done := by
  obtain ⟨d, w, hd, hw⟩ := h
  obtain ⟨k', old, hk', hold, hform, hstored⟩ := Memory.updateStatus_ok hw
  cases ((ManagedObject.storeKey_toDynamic_withStatus hd).2 hk).symm.trans hk'
  have hstatus := ManagedObject.status?_toDynamic_withStatus ho hd
  rw [status_eq_concluded] at hd
  obtain ⟨s', hrun, hstore⟩ := Conclusion.run_conclude_accepted Memory.respond (b := b) (v.enter t.surroundings)
    v.failure hk ho hd (Prod.ext hw rfl)
  rw [after, requeue, run_eq_conclude, hrun, status_eq_concluded]
  dsimp only
  rw [hstore]
  exact ⟨old, d, w, hold, by rw [hstatus, status_eq_concluded], hform, hstored, rfl, rfl⟩

/-- A visit that is not accepted changes nothing that is stored, but the object has the status all the same. -/
theorem after_rejected (b : Backoff) (ho : t.object.tracksStatus = true) (hk : ObjectKey.of t.object = .ok k)
    (h : ¬ t.Accepts v) :
    (t.after b v).surroundings.store.objects = (t.found v).objects ∧
      (t.after b v).object = t.object.withStatus v.status ∧ t.requeue b v = .later b.base := by
  suffices hrun : ∃ s' : Surroundings Memory,
      t.run b v = ((t.object.withStatus v.status, .later b.base), s') ∧ s'.store.objects = (t.found v).objects by
    obtain ⟨s', hrun, hobjects⟩ := hrun
    rw [after, requeue, hrun]
    exact ⟨hobjects, rfl, rfl⟩
  rw [run_eq_conclude]
  rw [Accepts, status_eq_concluded] at h
  rw [status_eq_concluded]
  cases hd : (t.object.withStatus (Conclusion.concluded v.clock v.failure)).toDynamic with
  | error cause =>
    obtain ⟨s', hrun, hstore⟩ := Conclusion.run_conclude_unwritable Memory.respond (b := b) (v.enter t.surroundings)
      v.failure hk ho hd
    exact ⟨s', hrun, congrArg Memory.objects hstore⟩
  | ok d =>
    cases hanswer : (Memory.updateStatus d (t.found v)).1 with
    | ok w => exact absurd ⟨d, w, hd, hanswer⟩ h
    | error e =>
      obtain ⟨s', hrun, hstore⟩ := Conclusion.run_conclude_rejected Memory.respond (b := b) (v.enter t.surroundings)
        v.failure hk ho hd (Prod.ext hanswer rfl)
      refine ⟨s', hrun, (congrArg Memory.objects hstore).trans ?_⟩
      -- What is logged and counted may differ, but a failed call changes no object.
      refine ((Memory.response (.updateStatus d) (t.found v)).eq_of_error ?_).1
      simp [Memory.respond, hanswer, StoreCall.error?]

theorem tracksStatus_after (b : Backoff) (ho : t.object.tracksStatus = true) (hk : ObjectKey.of t.object = .ok k)
    (v : Visit) :
    (t.after b v).object.tracksStatus = true ∧ ObjectKey.of (t.after b v).object = .ok k ∧
      (t.after b v).object.status? = some v.status := by
  by_cases h : t.Accepts v
  · obtain ⟨old, d, w, -, -, -, -, hobject, -⟩ := after_accepted b ho hk h
    rw [hobject]
    simp [ho, hk, ManagedObject.status?_withStatus ho]
  · obtain ⟨-, hobject, -⟩ := after_rejected b ho hk h
    rw [hobject]
    simp [ho, hk, ManagedObject.status?_withStatus ho]

/-! ### Visits that nobody disturbs -/

/-- Nobody else changes the stored object before a visit. -/
def Undisturbed (k : ObjectKey) (t : Tended) (v : Visit) : Prop :=
  ¬ Memory.Happens (Memory.Changes k.path) t.surroundings.store v.meanwhile

def UndisturbedAll (b : Backoff) (k : ObjectKey) (t : Tended) (visits : List Visit) : Prop :=
  ∀ before v rest, visits = before ++ v :: rest → Undisturbed k (t.afterAll b before) v

theorem UndisturbedAll.of_append {visits visits' : List Visit} (h : UndisturbedAll b k t (visits ++ visits')) :
    UndisturbedAll b k t visits := by
  rintro before u rest rfl
  refine h before u (rest ++ visits') ?_
  rw [List.append_assoc, List.cons_append]

theorem UndisturbedAll.last {visits : List Visit} (h : UndisturbedAll b k t (visits ++ [v])) :
    Undisturbed k (t.afterAll b visits) v :=
  h visits v [] rfl

theorem undisturbed_of_no_calls (h : ∀ c, .call c ∉ v.meanwhile) : Undisturbed k t v := by
  rintro ⟨before, c, rest, hsplit, -⟩
  refine h c ?_
  rw [hsplit]
  exact List.mem_append_right _ List.mem_cons_self

theorem undisturbedAll_of_no_calls {visits : List Visit} (h : ∀ v ∈ visits, ∀ c, .call c ∉ v.meanwhile) :
    UndisturbedAll b k t visits := by
  rintro before v rest rfl
  exact undisturbed_of_no_calls (h v (List.mem_append_right _ List.mem_cons_self))

theorem stored_found (h : Undisturbed k t v) : (t.found v).stored k = t.surroundings.store.stored k :=
  Memory.find?_run h

/-- The object in hand is identified, tracks its status, can be stored and has the version of the stored one. -/
structure Current (k : ObjectKey) (t : Tended) : Prop where
  tracks : t.object.tracksStatus = true
  key : ObjectKey.of t.object = .ok k
  writable : t.object.Writable
  stored : ∃ w, t.surroundings.store.stored k = some w ∧
    w.metadata.resourceVersion = t.object.metadata.resourceVersion

theorem Current.accepts (ht : Current k t) (h : Undisturbed k t v) (hrejects : (t.found v).rejectsStatus = false) :
    t.Accepts v := by
  obtain ⟨w, hw, hversion⟩ := ht.stored
  exact accepts_of_current ht.writable ht.key hrejects ((stored_found h).trans hw) hversion

theorem Current.after (ht : Current k t) (h : Undisturbed k t v) : Current k (t.after b v) := by
  obtain ⟨htracks, hkey, -⟩ := tracksStatus_after b ht.tracks ht.key v
  by_cases haccepts : t.Accepts v
  · obtain ⟨old, d, w, -, -, -, hstored, hobject, -⟩ := after_accepted b ht.tracks ht.key haccepts
    refine ⟨htracks, hkey, ?_, w, hstored, ?_⟩
    · rw [hobject, ManagedObject.writable_adopt, ManagedObject.writable_withStatus]
      exact ht.writable
    · rw [hobject, ManagedObject.resourceVersion_adopt]
  · obtain ⟨hobjects, hobject, -⟩ := after_rejected b ht.tracks ht.key haccepts
    obtain ⟨w, hw, hversion⟩ := ht.stored
    refine ⟨htracks, hkey, ?_, w, ?_, ?_⟩
    · rw [hobject, ManagedObject.writable_withStatus]
      exact ht.writable
    · rw [Memory.stored, hobjects, ← hw]
      exact stored_found h
    · rw [hobject, hversion, ManagedObject.metadata_withStatus]

/-! ### A registry in hand and in a store -/

theorem second_bounds {n : Nat} (h : n < 1000) : Instant.firstSecond ≤ n ∧ (n : Int) ≤ Instant.lastSecond := by
  have hfirst : Instant.firstSecond = -8334601228800 := by decide
  have hlast : Instant.lastSecond = 8210266876799 := by decide
  rw [hfirst, hlast]
  omega

theorem nanos_second : 0 < 2 * nanosPerSecond := by decide

/-- So many seconds after the beginning of 1970. -/
def second (n : Fin 1000) : Instant :=
  ⟨n.val, 0, (second_bounds n.isLt).1, (second_bounds n.isLt).2, nanos_second⟩

def registryKey : ObjectKey := ⟨⟨"quay.redhat.com", "v1", "QuayRegistry"⟩, some "quay", "registry"⟩

/-- A registry as it was created, with the version and the identifier that it was given. -/
def createdRegistry : Registry where
  metadata := { name := some "registry", nameSpace := some "quay", resourceVersion := some "1", uid := some "memory-1" }
  replicas := 1
  status := none

def tendedRegistry : Tended where
  object := .registry createdRegistry
  surroundings :=
    { store := Memory.run {} [.call (.create ⟨some Registry.types, createdRegistry.metadata,
        .object createdRegistry.contents.fields⟩)]
      clock := default }

theorem current_tendedRegistry : Current registryKey tendedRegistry where
  tracks := rfl
  key := rfl
  writable := ⟨_, ManagedObject.toDynamic_tracked rfl⟩
  stored := ⟨_, rfl, rfl⟩

end Tended

end Reconciliation
