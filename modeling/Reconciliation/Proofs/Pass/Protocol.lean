import Reconciliation.Proofs.Pass.Twice
/-!
# The calls of converging, whatever answers them

Converging makes no call for an object without identity or written form, a lookup alone if that fails for good, and
otherwise a lookup and one write of the same identity. An update has the version that the lookup gave, and the answer
to the write decides how converging ends (`converge_protocol`). Nothing is assumed of the store: it may answer the
lookup with an unrelated object, or with one that has no version.
-/

namespace Reconciliation

def Effect.call? : Effect → Option StoreCall
  | .store c => some c
  | _ => none

namespace Pass

variable {σ α : Type}

/-- The calls that a pass makes to the store of its surroundings. -/
def storeCalls (store : Store σ) (p : Pass α) (s : Surroundings σ) : List StoreCall :=
  (Dialogue.questions (Surroundings.respond store) p s).filterMap Effect.call?

theorem storeCalls_eq (store : Store σ) (p : Pass α) (s : Surroundings σ) :
    p.storeCalls store s = Dialogue.questions store (p.calls s.clock) s.store := by
  induction p generalizing s with
  | done a => rfl
  | ask e next ih =>
    cases e with
    | store c =>
      have hrest := ih (store c s.store).1 { s with store := (store c s.store).2 }
      exact congrArg (c :: ·) hrest
    | notify n => exact ih () { s with notices := s.notices ++ [n] }
    | now => exact ih s.clock s
    | measure m => exact ih () { s with metrics := s.metrics ++ [m] }

end Pass

namespace Synchronize

variable {σ : Type} {store : Store σ} {s : Surroundings σ} {p : Placement} {o : ManagedObject} {k : ObjectKey}
  {d : DynamicObject}

/-- How a call ends that has made its write. -/
def ending : Except StoreError DynamicObject → Except ReconcileError Unit
  | .ok _ => .ok ()
  | .error e => .error (.store e)

theorem afterWrite_eq (o : ManagedObject) (answer : Except StoreError DynamicObject) :
    (afterWrite o answer).2 = ending answer := by
  cases answer <;> rfl

/-- The object with another version and another identifier, and otherwise as it was. -/
def Versioned (q o : ManagedObject) : Prop :=
  ∃ version uid, o = q.withMetadata { q.metadata with resourceVersion := version, uid := uid }

theorem versioned_self (q : ManagedObject) : Versioned q q :=
  ⟨q.metadata.resourceVersion, q.metadata.uid, q.withMetadata_metadata.symm⟩

theorem versioned_afterWrite {q o : ManagedObject} (h : Versioned q o) (answer : Except StoreError DynamicObject) :
    Versioned q (afterWrite o answer).1 := by
  cases answer with
  | error e => exact h
  | ok written =>
    obtain ⟨version, uid, rfl⟩ := h
    refine ⟨written.metadata.resourceVersion, written.metadata.uid <|> uid, ?_⟩
    simp only [afterWrite, adopt, ObjectMeta.adopt, ManagedObject.metadata_withMetadata,
      ManagedObject.withMetadata_withMetadata]

theorem identify_error {e : ReconcileError} (h : identify o = .error e) :
    (∃ cause, e = .typeMismatch cause) ∧
      ((∃ cause, ObjectKey.of o = .error cause) ∨ ∃ cause, o.toDynamic = .error cause) := by
  unfold identify at h
  split at h
  · rename_i cause hkey
    cases h
    exact ⟨⟨cause, rfl⟩, .inl ⟨cause, hkey⟩⟩
  · split at h
    · rename_i cause hwritten
      cases h
      exact ⟨⟨cause, rfl⟩, .inr ⟨cause, hwritten⟩⟩
    · cases h

theorem run_converge_error {e : ReconcileError} (h : identify (prepare p o) = .error e) :
    (converge p o).storeCalls store s = [] ∧
      (Surroundings.run store (converge p o) s).1 = (prepare p o, .error e) := by
  have hopen : converge p o = .done (prepare p o, .error e) := by
    simp only [converge, h]
    rfl
  rw [hopen]
  exact ⟨rfl, rfl⟩

/-- The calls and the result of converging an identified object are those of its two steps. -/
theorem run_converge_ok (store : Store σ) (s : Surroundings σ) (h : identify (prepare p o) = .ok (k, d)) :
    let left := afterLookup (prepare p o) d (store (.get k) s.store).1
    (converge p o).storeCalls store s = .get k :: Dialogue.questions store left (store (.get k) s.store).2 ∧
      (Surroundings.run store (converge p o) s).1 = (Dialogue.run store left (store (.get k) s.store).2).1 := by
  intro left
  have hresult := congrArg Prod.fst (Pass.run_calls store (converge p o) s)
  rw [calls_converge h] at hresult
  rw [Pass.storeCalls_eq, calls_converge h]
  exact ⟨rfl, hresult.symm⟩

/-- How converging goes on when a lookup found something or failed, and what comes of it. -/
structure Course (store : Store σ) (k : ObjectKey) (found : Except StoreError DynamicObject) (t : σ)
    (calls : List StoreCall) (r : Except ReconcileError Unit) : Prop where
  refused : calls = [.get k] ↔ ∃ e, found = .error e ∧ e.isNotFound = false
  updated : (∃ u, calls = [.get k, .update u]) ↔ ∃ stored, found = .ok stored
  created : (∃ u, calls = [.get k, .create u]) ↔ ∃ e, found = .error e ∧ e.isNotFound = true
  error : ∀ e, found = .error e → e.isNotFound = false → r = .error (.store e)
  update : ∀ u, calls = [.get k, .update u] → storeKey u = .ok k ∧
    (∀ stored, found = .ok stored → u.metadata.resourceVersion = stored.metadata.resourceVersion) ∧
    r = ending (store (.update u) t).1
  create : ∀ u, calls = [.get k, .create u] → storeKey u = .ok k ∧ r = ending (store (.create u) t).1

section Course

variable {t : σ} {u stored : DynamicObject} {e : StoreError} {r : Except ReconcileError Unit}

theorem course_of_found (hkey : storeKey u = .ok k)
    (hversion : u.metadata.resourceVersion = stored.metadata.resourceVersion)
    (hr : r = ending (store (.update u) t).1) : Course store k (.ok stored) t [.get k, .update u] r where
  refused := by simp
  updated := by simp
  created := by simp
  error := by simp
  update := by
    intro u' hu
    cases hu
    refine ⟨hkey, ?_, hr⟩
    intro stored' hstored
    cases hstored
    exact hversion
  create := by simp

theorem course_of_missing (he : e.isNotFound = true) (hkey : storeKey u = .ok k)
    (hr : r = ending (store (.create u) t).1) : Course store k (.error e) t [.get k, .create u] r where
  refused := by simp [he]
  updated := by simp
  created := by simp [he]
  error := by simp [he]
  update := by simp
  create := by
    intro u' hu
    cases hu
    exact ⟨hkey, hr⟩

theorem course_of_refused (he : e.isNotFound = false) :
    Course store k (.error e) t [.get k] (.error (.store e)) where
  refused := by simp [he]
  updated := by simp
  created := by simp [he]
  error := by simp
  update := by simp
  create := by simp

end Course

theorem course_converge (store : Store σ) (s : Surroundings σ) (h : identify (prepare p o) = .ok (k, d)) :
    Course store k (store (.get k) s.store).1 (store (.get k) s.store).2 ((converge p o).storeCalls store s)
        (Surroundings.run store (converge p o) s).1.2 ∧
      Versioned (prepare p o) (Surroundings.run store (converge p o) s).1.1 := by
  have hkey : storeKey d = .ok k := storeKey_of_identify h
  obtain ⟨hcalls, hresult⟩ := run_converge_ok store s h
  rw [hcalls, hresult]
  cases (store (.get k) s.store).1 with
  | ok stored =>
    have hcarried : Versioned (prepare p o) ((prepare p o).withMetadata { (prepare p o).metadata with
        resourceVersion := stored.metadata.resourceVersion }) := ⟨_, _, rfl⟩
    constructor
    · exact course_of_found ((storeKey_carrying d stored).trans hkey) rfl (afterWrite_eq _ _)
    · exact versioned_afterWrite hcarried _
  | error e =>
    rw [afterLookup]
    cases hmissing : e.isNotFound with
    | true =>
      constructor
      · exact course_of_missing hmissing hkey (afterWrite_eq _ _)
      · exact versioned_afterWrite (versioned_self _) _
    | false => exact ⟨course_of_refused hmissing, versioned_self _⟩

/-- Whatever a store answers, converging makes no call exactly if the object has no identity or cannot be written, and
otherwise it takes the course that the lookup determines. The object that it gives back is the prepared one but for
the version and the identifier. Marking the owner as controller prepares nothing but the owner references. -/
theorem converge_protocol (store : Store σ) (p : Placement) (o : ManagedObject) (s : Surroundings σ) :
    let q := prepare p o
    let calls := (converge p o).storeCalls store s
    let r := (Surroundings.run store (converge p o) s).1
    (calls = [] ↔ (∃ e, ObjectKey.of q = .error e) ∨ ∃ e, q.toDynamic = .error e) ∧
    (calls = [] → ∃ cause, r = (q, .error (.typeMismatch cause))) ∧
    (∀ k d, ObjectKey.of q = .ok k → q.toDynamic = .ok d →
      Course store k (store (.get k) s.store).1 (store (.get k) s.store).2 calls r.2) ∧
    Versioned q r.1 ∧
    (p.stamper = Stamper.controllerReference → ∃ references nameSpace version uid,
      r.1 = o.withMetadata { o.metadata with
        ownerReferences := references
        nameSpace := nameSpace
        resourceVersion := version
        uid := uid }) := by
  intro q calls r
  have hversioned : Versioned q r.1 := by
    cases h : identify q with
    | error e =>
      rw [show r = _ from (run_converge_error h).2]
      exact versioned_self q
    | ok found => exact (course_converge store s h).2
  refine ⟨?_, ?_, ?_, hversioned, ?_⟩
  · cases h : identify q with
    | error e => exact iff_of_true (run_converge_error h).1 (identify_error h).2
    | ok found =>
      obtain ⟨hk, hd⟩ := identify_eq_ok.1 h
      rw [show calls = _ from (run_converge_ok store s h).1, hk, hd]
      simp
  · intro hnone
    cases h : identify q with
    | error e =>
      obtain ⟨⟨cause, rfl⟩, -⟩ := identify_error h
      exact ⟨cause, (run_converge_error h).2⟩
    | ok found =>
      rw [show calls = _ from (run_converge_ok store s h).1] at hnone
      cases hnone
  · intro k d hk hd
    exact (course_converge store s (identify_eq_ok.2 ⟨hk, hd⟩)).1
  · intro hstamper
    obtain ⟨stamper, owner, target⟩ := p
    cases hstamper
    obtain ⟨version, uid, hr⟩ := hversioned
    have hq : q = _ := prepare_controlled owner target o
    rw [hr, hq, ManagedObject.metadata_withMetadata, ManagedObject.withMetadata_withMetadata,
      ObjectMeta.inNamespace_eq]
    exact ⟨_, _, _, _, rfl⟩

end Synchronize

end Reconciliation
