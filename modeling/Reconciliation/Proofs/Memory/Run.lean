import Reconciliation.Proofs.Memory.Operation
import Reconciliation.Proofs.Table
/-!
# Runs of the store in memory

A run is any sequence of calls, between which status writes may come to be rejected or accepted and the
log may be cleared. The version never goes back along a run. What is stored under a path stays as it is
until a call changes it, and from the first such change on it carries a version that was not issued before
the run.
-/

namespace Reconciliation

namespace Memory

/-- What can happen to a store in memory. -/
inductive Action where
  | call (c : StoreCall)
  | rejectStatus (rejects : Bool)
  | clearLog

/-- The store after something happened to it. -/
def perform (m : Memory) : Action → Memory
  | .call c => (respond c m).2
  | .rejectStatus rejects => { m with rejectsStatus := rejects }
  | .clearLog => m.clearLog

/-- The store after a run. -/
def run (m : Memory) (actions : List Action) : Memory :=
  actions.foldl perform m

/-- A store that a run from the empty one leads to. -/
def Reachable (m : Memory) : Prop :=
  ∃ actions, run {} actions = m

/-- Whether some call of a run has a property, in view of the store that it was made of. -/
def Happens (P : Memory → StoreCall → Prop) (m : Memory) (actions : List Action) : Prop :=
  ∃ before c after, actions = before ++ .call c :: after ∧ P (m.run before) c

/-- Whether a call changes what is stored under a path: it has that path and succeeds. -/
def Changes (path : String) (m : Memory) (c : StoreCall) : Prop :=
  c.path? = some path ∧ c.error? (respond c m).1 = none

/-- Whether a call removes what is stored under a path. -/
def Removes (path : String) (m : Memory) (c : StoreCall) : Prop :=
  (∃ d, c = .delete d) ∧ Changes path m c

@[simp] theorem run_nil (m : Memory) : m.run [] = m := rfl

@[simp] theorem run_cons (m : Memory) (a : Action) (actions : List Action) :
    m.run (a :: actions) = (m.perform a).run actions := rfl

theorem run_append (m : Memory) (before after : List Action) :
    m.run (before ++ after) = (m.run before).run after :=
  List.foldl_append

theorem Reachable.run {m : Memory} (h : m.Reachable) (actions : List Action) :
    (m.run actions).Reachable := by
  obtain ⟨past, rfl⟩ := h
  exact ⟨past ++ actions, run_append {} past actions⟩

theorem not_happens_nil {P : Memory → StoreCall → Prop} {m : Memory} : ¬ Happens P m [] := by
  rintro ⟨before, c, after, h, -⟩
  cases before <;> cases h

/-- A call of a run is the first thing that happens or it is a call of the rest. -/
theorem happens_cons {P : Memory → StoreCall → Prop} {m : Memory} {a : Action}
    {actions : List Action} :
    Happens P m (a :: actions) ↔ (∃ c, a = .call c ∧ P m c) ∨ Happens P (m.perform a) actions := by
  constructor
  · rintro ⟨before, c, after, h, hP⟩
    cases before with
    | nil =>
      obtain ⟨rfl, rfl⟩ := List.cons.inj h
      exact .inl ⟨c, rfl, hP⟩
    | cons b before =>
      obtain ⟨rfl, rfl⟩ := List.cons.inj h
      exact .inr ⟨before, c, after, rfl, hP⟩
  · rintro (⟨c, rfl, hP⟩ | ⟨before, c, after, rfl, hP⟩)
    · exact ⟨[], c, actions, rfl, hP⟩
    · exact ⟨a :: before, c, after, rfl, hP⟩

/-! ### What stays -/

theorem version_le_perform (m : Memory) (a : Action) : m.version ≤ (m.perform a).version := by
  cases a with
  | call c => exact (response c m).version_le
  | rejectStatus | clearLog => exact le_rfl

theorem version_le_run (m : Memory) (actions : List Action) : m.version ≤ (m.run actions).version := by
  induction actions generalizing m with
  | nil => exact le_rfl
  | cons a actions ih => exact le_trans (version_le_perform m a) (ih _)

theorem find?_perform {m : Memory} {a : Action} {path : String}
    (h : ∀ c, a = .call c → ¬ Changes path m c) :
    (m.perform a).objects.find? path = m.objects.find? path := by
  cases a with
  | call c => exact (response c m).find?_eq (h c rfl)
  | rejectStatus | clearLog => rfl

/-- What is stored under a path stays as it is while no call changes it. -/
theorem find?_run {m : Memory} {actions : List Action} {path : String}
    (h : ¬ Happens (Changes path) m actions) :
    (m.run actions).objects.find? path = m.objects.find? path := by
  induction actions generalizing m with
  | nil => rfl
  | cons a actions ih =>
    rw [happens_cons, not_or] at h
    rw [run_cons, ih h.2]
    exact find?_perform fun c hc hchanges => h.1 ⟨c, hc, hchanges⟩

/-! ### Versions after a change -/

/-- Whether what is stored under a path, if anything, has a later version than a given one. -/
def Newer (path : String) (version : Nat) (m : Memory) : Prop :=
  ∀ o, m.objects.find? path = some o →
    ∃ n, version < n ∧ o.metadata.resourceVersion = some (toString n)

theorem newer_of_changes {m : Memory} {c : StoreCall} {path : String} {version : Nat}
    (hv : version ≤ m.version) (h : Changes path m c) : Newer path version (respond c m).2 := by
  obtain ⟨hpath, herror⟩ := h
  intro o ho
  rw [(response c m).find?_path hpath herror] at ho
  exact ⟨m.version + 1, by omega, ((response c m).version_of_written ho).1⟩

theorem Newer.perform {m : Memory} {path : String} {version : Nat} (h : Newer path version m)
    (hv : version ≤ m.version) (a : Action) : Newer path version (m.perform a) := by
  by_cases hchange : ∃ c, a = .call c ∧ Changes path m c
  · obtain ⟨c, rfl, hchange⟩ := hchange
    exact newer_of_changes hv hchange
  · intro o ho
    rw [find?_perform fun c hc hchanges => hchange ⟨c, hc, hchanges⟩] at ho
    exact h o ho

theorem Newer.run {m : Memory} {path : String} {version : Nat} (h : Newer path version m)
    (hv : version ≤ m.version) (actions : List Action) : Newer path version (m.run actions) := by
  induction actions generalizing m with
  | nil => exact h
  | cons a actions ih => exact ih (h.perform hv a) (le_trans hv (version_le_perform m a))

/-- After a run that changes what is stored under a path, a removal and a new creation included, what is
stored there is newer than all that was stored before the run. -/
theorem newer_run_of_happens {m : Memory} {actions : List Action} {path : String} {version : Nat}
    (hv : version ≤ m.version) (h : Happens (Changes path) m actions) :
    Newer path version (m.run actions) := by
  induction actions generalizing m with
  | nil => exact absurd h not_happens_nil
  | cons a actions ih =>
    have hle : version ≤ (m.perform a).version := le_trans hv (version_le_perform m a)
    rcases happens_cons.1 h with ⟨c, rfl, hchange⟩ | hrest
    · exact (newer_of_changes hv hchange).run hle actions
    · exact ih hle hrest

end Memory

end Reconciliation
