import Reconciliation.Proofs.Memory.Log
import Reconciliation.Proofs.Memory.Status
/-!
# Writes that fail

A write fails if its object has no identity, and else for one of the reasons in `Refusal`. It does so without a
trace but for its entry in the log: the checks of every operation come after the entry and before the version is
counted and the object stored. So of a write that failed, a caller may assume that nothing happened.
-/

namespace Reconciliation

namespace Memory

/-- The reasons for which a store refuses a write of an object with an identity, in view of what is stored under
that identity. A status write is refused while status writes are rejected, and else as an update would be. -/
inductive Refusal (m : Memory) (k : ObjectKey) : StoreCall → StoreError → Prop
  | taken (o old : DynamicObject) (stored : m.stored k = some old) :
      Refusal m k (.create o) (.alreadyExists k.kind.kind k.name)
  | absent (o : DynamicObject) (absent : m.stored k = none) :
      Refusal m k (.update o) (.notFound k.kind.kind k.name)
  | stale (o old : DynamicObject) (version : String) (stored : m.stored k = some old)
      (carried : o.metadata.resourceVersion = some version)
      (other : old.metadata.resourceVersion ≠ some version) :
      Refusal m k (.update o) (.conflict k.kind.kind k.name
        ("the object has been modified; resourceVersion " ++ version ++ " is stale"))
  | rejected (o : DynamicObject) (rejects : m.rejectsStatus = true) :
      Refusal m k (.updateStatus o) (.unavailable "status subresource rejected the write")
  | status (o : DynamicObject) (e : StoreError) (accepts : m.rejectsStatus = false)
      (update : Refusal m k (.update o) e) : Refusal m k (.updateStatus o) e
  | gone (o : DynamicObject) (absent : m.stored k = none) :
      Refusal m k (.delete o) (.notFound k.kind.kind k.name)

variable {m : Memory} {c : StoreCall} {k : ObjectKey} {o : DynamicObject} {e : StoreError}

/-- An overwriting fails as an update does, whatever it writes and whatever was noted before it. -/
theorem overwrite_error_iff (kind : CallKind) (path : String)
    (write : DynamicObject → DynamicObject → String → DynamicObject) :
    (overwrite k o write (m.record kind path)).1 = .error e ↔ m.Refusal k (.update o) e := by
  constructor
  · intro h
    cases hs : m.stored k with
    | none =>
      rw [overwrite_absent write ((record_stored m kind path k).trans hs)] at h
      cases h
      exact .absent o hs
    | some old =>
      have hfound : (m.record kind path).stored k = some old := hs
      rcases checkVersion_cases k old o with hv | ⟨version, hv, hother⟩
      · rw [overwrite_present write hfound hv] at h
        cases h
      · rw [overwrite_stale write hfound (checkVersion_stale k hv hother)] at h
        cases h
        exact .stale o old version hs hv hother
  · intro h
    cases h with
    | absent _ hs => rw [overwrite_absent write ((record_stored m kind path k).trans hs)]
    | stale _ old version hs hv hother =>
      rw [overwrite_stale write ((record_stored m kind path k).trans hs) (checkVersion_stale k hv hother)]

theorem create_error_iff (hk : storeKey o = .ok k) :
    (create o m).1 = .error e ↔ m.Refusal k (.create o) e := by
  cases hs : m.stored k with
  | none =>
    rw [create_absent hk hs]
    refine iff_of_false (by simp) ?_
    intro h
    cases h with
    | taken _ old hold =>
      rw [hs] at hold
      cases hold
  | some old =>
    rw [create_present hk hs]
    constructor
    · intro h
      cases h
      exact .taken o old hs
    · intro h
      cases h
      rfl

theorem update_error_iff (hk : storeKey o = .ok k) :
    (update o m).1 = .error e ↔ m.Refusal k (.update o) e := by
  rw [update_eq hk]
  exact overwrite_error_iff .update k.path updatedObject

theorem updateStatus_error_iff (hk : storeKey o = .ok k) :
    (updateStatus o m).1 = .error e ↔ m.Refusal k (.updateStatus o) e := by
  cases hr : m.rejectsStatus with
  | true =>
    rw [updateStatus_rejected hk hr]
    constructor
    · intro h
      cases h
      exact .rejected o hr
    · intro h
      cases h with
      | rejected => rfl
      | status _ _ haccepts _ =>
        rw [hr] at haccepts
        cases haccepts
  | false =>
    rw [updateStatus_eq hk hr, overwrite_error_iff .updateStatus k.path restatedObject]
    constructor
    · intro h
      exact .status o e hr h
    · intro h
      cases h with
      | rejected _ hrejects =>
        rw [hr] at hrejects
        cases hrejects
      | status _ _ _ hupdate => exact hupdate

theorem delete_error_iff (hk : storeKey o = .ok k) :
    (delete o m).1 = .error e ↔ m.Refusal k (.delete o) e := by
  cases hs : m.stored k with
  | none =>
    rw [delete_absent hk hs]
    constructor
    · intro h
      cases h
      exact .gone o hs
    · intro h
      cases h
      rfl
  | some old =>
    rw [delete_present hk hs]
    refine iff_of_false (by simp) ?_
    intro h
    cases h with
    | gone _ habsent =>
      rw [hs] at habsent
      cases habsent

theorem error?_eq_some_iff (ho : c.object? = some o) (hk : storeKey o = .ok k) :
    c.error? (respond c m).1 = some e ↔ m.Refusal k c e := by
  cases c with
  | get => cases ho
  | create =>
    cases ho
    rw [← create_error_iff hk, respond]
    cases (create o m).1 <;> simp [StoreCall.error?]
  | update =>
    cases ho
    rw [← update_error_iff hk, respond]
    cases (update o m).1 <;> simp [StoreCall.error?]
  | updateStatus =>
    cases ho
    rw [← updateStatus_error_iff hk, respond]
    cases (updateStatus o m).1 <;> simp [StoreCall.error?]
  | delete =>
    cases ho
    rw [← delete_error_iff hk, respond]
    cases (delete o m).1 <;> simp [StoreCall.error?]

/-- No write of an identified object is refused as invalid. -/
theorem Refusal.ne_invalid (h : m.Refusal k c e) (detail : String) : e ≠ .invalid detail := by
  induction h with
  | taken | absent | stale | rejected | gone => simp
  | status _ _ _ _ ih => exact ih

theorem error?_unidentified (ho : c.object? = some o) (hk : storeKey o = .error e) :
    c.error? (respond c m).1 = some e := by
  cases c with
  | get => cases ho
  | create =>
    cases ho
    rw [respond, create_invalid hk]
    rfl
  | update =>
    cases ho
    rw [respond, update_invalid hk]
    rfl
  | updateStatus =>
    cases ho
    rw [respond, updateStatus_invalid hk]
    rfl
  | delete =>
    cases ho
    rw [respond, delete_invalid hk]
    rfl

/-- A write of an object without an identity fails as invalid and changes nothing at all. A write of an object with
an identity fails exactly for the reasons in `Refusal`, none of which is that the object is invalid, and if it fails,
it changes nothing but the log. There it adds one entry, and the log drops what is beyond its bound. -/
theorem refused_unchanged (hm : m.Reachable) (ho : c.object? = some o) :
    (∀ i, ObjectKey.ofDynamic o = .error i →
      c.error? (respond c m).1 = some (.invalid i.message) ∧ (respond c m).2 = m) ∧
    (∀ k, ObjectKey.ofDynamic o = .ok k →
      (∀ e, c.error? (respond c m).1 = some e ↔ m.Refusal k c e) ∧
      (∀ detail, c.error? (respond c m).1 ≠ some (.invalid detail)) ∧
      (c.error? (respond c m).1 ≠ none →
        (respond c m).2 = { m with log := (m.log ++ [LoggedCall.mk c.kind k.path]).rtake maxLogged })) := by
  constructor
  · intro i hi
    have hk := storeKey_of_ofDynamic_error hi
    have herror : c.error? (respond c m).1 = some (.invalid i.message) := error?_unidentified ho hk
    refine ⟨herror, ?_⟩
    rw [respond_of_error (by simp [herror]), noted_unidentified ho hk]
  · intro k hi
    have hk := storeKey_eq_ok_iff.2 hi
    refine ⟨fun e => error?_eq_some_iff ho hk, ?_, ?_⟩
    · intro detail herror
      exact ((error?_eq_some_iff ho hk).1 herror).ne_invalid detail rfl
    · intro hfails
      rw [respond_of_error hfails, noted_identified ho hk, ← log_record hm.length_log]
      rfl

/-- A copy of `ready` as it was before its status was written. -/
def staleReady : DynamicObject :=
  { ready with metadata := { ready.metadata with resourceVersion := some "1" } }

theorem refused_staleReady :
    let c : StoreCall := .update staleReady
    withReady.Reachable ∧ c.object? = some staleReady ∧
    c.error? (respond c withReady).1 = some (.conflict "ConfigMap" "settings"
      "the object has been modified; resourceVersion 1 is stale") ∧
    (respond c withReady).2 = { withReady with
      log := (withReady.log ++ [LoggedCall.mk .update "v1/ConfigMap//settings"]).rtake maxLogged } := by
  intro c
  have hreach : withReady.Reachable := ⟨_, rfl⟩
  obtain ⟨hreason, -, hlog⟩ := (refused_unchanged (c := c) hreach rfl).2 readyKey rfl
  have hstale : withReady.Refusal readyKey c (.conflict "ConfigMap" "settings"
      "the object has been modified; resourceVersion 1 is stale") :=
    .stale staleReady _ "1" rfl rfl (by decide)
  have hfails := (hreason _).2 hstale
  exact ⟨hreach, rfl, hfails, hlog (by simp [hfails])⟩

end Memory

end Reconciliation
