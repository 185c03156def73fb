import Reconciliation.Proofs.Pass.Protocol
/-!
# The calls of creating and of deleting an object

For an object that is identified, `ensurePresent` makes one creation and `ensureAbsent` one deletion, whatever answers
them. The answer alone decides how they end: there being an object already is no failure of a creation, and there being
none is no failure of a deletion. Alone with a store in memory both succeed, and what they leave there is an equation of
stores.
-/

namespace Reconciliation

namespace Synchronize

variable {σ : Type} {store : Store σ} {s : Surroundings σ} {p : Placement} {o : ManagedObject} {k : ObjectKey}
  {d : DynamicObject} {e : ReconcileError}

/-- How a creation ends with its answer, an object that is there already being as good as a new one. -/
def afterCreation (o : ManagedObject) :
    Except StoreError DynamicObject → ManagedObject × Except ReconcileError Unit
  | .ok created => (adopt o created, .ok ())
  | .error e => (o, if e.isAlreadyExists then .ok () else .error (.store e))

/-- How a deletion ends with its answer, an object that is missing already being as good as deleted. -/
def afterDeletion : Except StoreError Unit → Except ReconcileError Unit
  | .ok () => .ok ()
  | .error e => if e.isNotFound then .ok () else .error (.store e)

theorem calls_ensurePresent (h : identify (prepare p o) = .ok (k, d)) (clock : Instant) :
    (ensurePresent p o).calls clock = .ask (.create d) fun answer => .done (afterCreation (prepare p o) answer) := by
  simp only [ensurePresent, h]
  refine congrArg (Dialogue.ask (StoreCall.create d)) ?_
  funext answer
  cases answer with
  | ok created => rfl
  | error e => cases e <;> rfl

theorem calls_ensureAbsent (h : identify o = .ok (k, d)) (clock : Instant) :
    (ensureAbsent o).calls clock = .ask (.delete d) fun answer => .done (o, afterDeletion answer) := by
  simp only [ensureAbsent, h]
  refine congrArg (Dialogue.ask (StoreCall.delete d)) ?_
  funext answer
  cases answer with
  | ok => rfl
  | error e => cases e <;> rfl

/-- What creating an object does to any store, and what comes of it. -/
theorem run_ensurePresent (store : Store σ) (s : Surroundings σ) (h : identify (prepare p o) = .ok (k, d)) :
    let answer := store (.create d) s.store
    let after := Surroundings.run store (ensurePresent p o) s
    (ensurePresent p o).storeCalls store s = [.create d] ∧
      after.1 = afterCreation (prepare p o) answer.1 ∧ after.2.store = answer.2 := by
  intro answer after
  have hrun := Pass.run_calls store (ensurePresent p o) s
  rw [calls_ensurePresent h] at hrun
  rw [Pass.storeCalls_eq, calls_ensurePresent h]
  exact ⟨rfl, (congrArg Prod.fst hrun).symm, (congrArg Prod.snd hrun).symm⟩

/-- What deleting an object does to any store, and what comes of it. -/
theorem run_ensureAbsent_ok (store : Store σ) (s : Surroundings σ) (h : identify o = .ok (k, d)) :
    let answer := store (.delete d) s.store
    let after := Surroundings.run store (ensureAbsent o) s
    (ensureAbsent o).storeCalls store s = [.delete d] ∧
      after.1 = (o, afterDeletion answer.1) ∧ after.2.store = answer.2 := by
  intro answer after
  have hrun := Pass.run_calls store (ensureAbsent o) s
  rw [calls_ensureAbsent h] at hrun
  rw [Pass.storeCalls_eq, calls_ensureAbsent h]
  exact ⟨rfl, (congrArg Prod.fst hrun).symm, (congrArg Prod.snd hrun).symm⟩

theorem run_ensurePresent_error (h : identify (prepare p o) = .error e) :
    (ensurePresent p o).storeCalls store s = [] ∧
      (Surroundings.run store (ensurePresent p o) s).1 = (prepare p o, .error e) := by
  have hopen : ensurePresent p o = .done (prepare p o, .error e) := by
    simp only [ensurePresent, h, Dialogue.pure_eq]
  rw [hopen]
  exact ⟨rfl, rfl⟩

/-! ### Alone with a store in memory -/

section Alone

variable {s : Surroundings Memory} {stored : DynamicObject}

theorem run_ensurePresent_absent (h : identify (prepare p o) = .ok (k, d)) (hs : s.store.stored k = none) :
    let w := Memory.newObject d s.store.nextVersion
    let after := Surroundings.run Memory.respond (ensurePresent p o) s
    after.1 = (adopt (prepare p o) w, .ok ()) ∧ after.2.store = (s.store.record .create k.path).put k.path w := by
  intro w after
  obtain ⟨-, hresult, hstore⟩ := run_ensurePresent Memory.respond s h
  have hcreate : Memory.respond (.create d) s.store = _ := Memory.create_absent (storeKey_of_identify h) hs
  rw [hcreate] at hresult hstore
  exact ⟨hresult, hstore⟩

theorem run_ensurePresent_present (h : identify (prepare p o) = .ok (k, d)) (hs : s.store.stored k = some stored) :
    let after := Surroundings.run Memory.respond (ensurePresent p o) s
    after.1 = (prepare p o, .ok ()) ∧ after.2.store = s.store.record .create k.path := by
  intro after
  obtain ⟨-, hresult, hstore⟩ := run_ensurePresent Memory.respond s h
  have hcreate : Memory.respond (.create d) s.store = _ := Memory.create_present (storeKey_of_identify h) hs
  rw [hcreate] at hresult hstore
  exact ⟨hresult, hstore⟩

theorem run_ensureAbsent (h : identify o = .ok (k, d)) (s : Surroundings Memory) :
    let after := Surroundings.run Memory.respond (ensureAbsent o) s
    after.1 = (o, .ok ()) ∧
      after.2.store = { s.store.record .delete k.path with objects := s.store.objects.erase k.path } := by
  intro after
  obtain ⟨-, hresult, hstore⟩ := run_ensureAbsent_ok Memory.respond s h
  have hkey := storeKey_of_identify h
  have hdone : afterDeletion (Memory.delete d s.store).1 = .ok () := by
    cases hs : s.store.stored k with
    | none =>
      rw [Memory.delete_absent hkey hs]
      rfl
    | some stored =>
      rw [Memory.delete_present hkey hs]
      rfl
  exact ⟨hresult.trans (congrArg (Prod.mk o) hdone), hstore.trans (Memory.delete_store hkey s.store)⟩

end Alone

end Synchronize

end Reconciliation
