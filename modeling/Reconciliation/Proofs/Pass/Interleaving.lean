import Mathlib.Logic.Function.Basic
import Reconciliation.Pass.Surroundings
import Reconciliation.Proofs.Memory.Run
/-!
# Passes that share a store

Of a pass the others notice its store calls alone (`Pass.calls`). In `Shared` any number of passes use one
store in memory, each being what is left of it. A turn lets one pass make its next call, or lets something
else happen to the store, so a list of turns is an order in which all of them are interleaved.

What the turns do to the store is a run of the store (`memory_run`), and a pass stays as it is until its
own next turn (`passes_run`).
-/

namespace Reconciliation

namespace Pass

variable {σ α : Type}

/-- The store calls of a pass. Its clock stands still, and nothing comes back from events and
measurements. -/
def calls (clock : Instant) (p : Pass α) : Dialogue StoreCall.Answer α :=
  p.relay fun
    | .store c => Dialogue.question c
    | .notify _ => .done ()
    | .now => .done clock
    | .measure _ => .done ()

/-- Alone with a store, the calls of a pass do to it what the pass does. -/
theorem run_calls (store : Store σ) (p : Pass α) (s : Surroundings σ) :
    Dialogue.run store (p.calls s.clock) s.store =
      ((Surroundings.run store p s).1, (Surroundings.run store p s).2.store) := by
  induction p generalizing s with
  | done a => rfl
  | ask e next ih =>
    cases e with
    | store c => exact ih _ { s with store := (store c s.store).2 }
    | notify n => exact ih () { s with notices := s.notices ++ [n] }
    | now => exact ih s.clock s
    | measure m => exact ih () { s with metrics := s.metrics ++ [m] }

end Pass

/-- A store in memory and what is left of each pass that uses it. -/
structure Shared (ι α : Type) where
  memory : Memory
  passes : ι → Dialogue StoreCall.Answer α

/-- Who comes next: a pass with its next call, or anybody else with anything. -/
inductive Turn (ι : Type) where
  | pass (i : ι)
  | other (a : Memory.Action)

namespace Shared

variable {ι α : Type} [DecidableEq ι]

/-- What a turn makes happen to the store. A pass that has ended does nothing. -/
def action? (s : Shared ι α) : Turn ι → Option Memory.Action
  | .pass i =>
    match s.passes i with
    | .done _ => none
    | .ask c _ => some (.call c)
  | .other a => some a

/-- What a turn leads to. -/
def step (s : Shared ι α) : Turn ι → Shared ι α
  | .pass i =>
    match s.passes i with
    | .done _ => s
    | .ask c next =>
      { memory := (Memory.respond c s.memory).2
        passes := Function.update s.passes i (next (Memory.respond c s.memory).1) }
  | .other a => { s with memory := s.memory.perform a }

/-- What turns lead to, one after the other. -/
def run (s : Shared ι α) (turns : List (Turn ι)) : Shared ι α :=
  turns.foldl step s

/-- What turns make happen to the store. -/
def actions (s : Shared ι α) : List (Turn ι) → List Memory.Action
  | [] => []
  | t :: turns => (s.action? t).toList ++ (s.step t).actions turns

@[simp] theorem run_nil (s : Shared ι α) : s.run [] = s := rfl

@[simp] theorem run_cons (s : Shared ι α) (t : Turn ι) (turns : List (Turn ι)) :
    s.run (t :: turns) = (s.step t).run turns := rfl

theorem run_append (s : Shared ι α) (before after : List (Turn ι)) :
    s.run (before ++ after) = (s.run before).run after :=
  List.foldl_append

theorem step_pass {s : Shared ι α} {i : ι} {c : StoreCall} {next : c.Answer → Dialogue StoreCall.Answer α}
    (h : s.passes i = .ask c next) :
    s.step (.pass i) =
      { memory := (Memory.respond c s.memory).2
        passes := Function.update s.passes i (next (Memory.respond c s.memory).1) } := by
  simp only [step, h]

theorem memory_step (s : Shared ι α) (t : Turn ι) :
    (s.step t).memory = s.memory.run (s.action? t).toList := by
  cases t with
  | other a => rfl
  | pass i => cases h : s.passes i <;> simp [step, action?, h, Memory.perform]

theorem memory_run (s : Shared ι α) (turns : List (Turn ι)) :
    (s.run turns).memory = s.memory.run (s.actions turns) := by
  induction turns generalizing s with
  | nil => rfl
  | cons t turns ih => rw [run_cons, ih, memory_step, actions, Memory.run_append]

theorem passes_step {s : Shared ι α} {t : Turn ι} {i : ι} (h : t ≠ .pass i) :
    (s.step t).passes i = s.passes i := by
  cases t with
  | other a => rfl
  | pass j =>
    have hne : i ≠ j := fun heq => h (heq ▸ rfl)
    cases hj : s.passes j with
    | done a => simp only [step, hj]
    | ask c next =>
      rw [step_pass hj]
      exact Function.update_of_ne hne _ _

/-- A pass stays as it is until its own next turn. -/
theorem passes_run {s : Shared ι α} {turns : List (Turn ι)} {i : ι} (h : .pass i ∉ turns) :
    (s.run turns).passes i = s.passes i := by
  induction turns generalizing s with
  | nil => rfl
  | cons t turns ih =>
    rw [List.mem_cons, not_or] at h
    rw [run_cons, ih h.2, passes_step (Ne.symm h.1)]

theorem passes_step_self {s : Shared ι α} {i : ι} {c : StoreCall}
    {next : c.Answer → Dialogue StoreCall.Answer α} (h : s.passes i = .ask c next) :
    (s.step (.pass i)).passes i = next (Memory.respond c s.memory).1 := by
  rw [step_pass h]
  exact Function.update_self _ _ _

theorem reachable_run {s : Shared ι α} (h : s.memory.Reachable) (turns : List (Turn ι)) :
    (s.run turns).memory.Reachable := by
  rw [memory_run]
  exact h.run _

end Shared

end Reconciliation
