/-!
# Dialogues

A dialogue is a computation that asks questions on its way to a result. What answers them is chosen when
it is run, so one definition serves every store, and a proof may run it against any state machine,
answer by answer, or with the questions of others in between.

The rest reaches dialogues through `ask`, the monad operations, `run` and `relay`.
-/

namespace Reconciliation

/-- A computation that asks questions of type `ρ`, the answer to `r` being of type `A r`. -/
inductive Dialogue {ρ : Type} (A : ρ → Type) (α : Type) : Type where
  | done (result : α)
  | ask (question : ρ) (next : A question → Dialogue A α)

namespace Dialogue

variable {ρ τ σ : Type} {A : ρ → Type} {B : τ → Type} {α β γ : Type}

def question (r : ρ) : Dialogue A (A r) :=
  ask r done

/-- One dialogue and then another that depends on its result. -/
def andThen : Dialogue A α → (α → Dialogue A β) → Dialogue A β
  | done a, f => f a
  | ask r next, f => ask r fun a => andThen (next a) f

instance : Monad (Dialogue A) where
  pure := done
  bind := andThen

/-- A way to answer questions from a state that the answers may change. -/
abbrev Responder (A : ρ → Type) (σ : Type) : Type := (r : ρ) → σ → A r × σ

def run (respond : Responder A σ) : Dialogue A α → σ → α × σ
  | done a, s => (a, s)
  | ask r next, s => run respond (next (respond r s).1) (respond r s).2

/-- The dialogue that finds the answer to each question by a dialogue of another kind. -/
def relay (f : (r : ρ) → Dialogue B (A r)) : Dialogue A α → Dialogue B α
  | done a => done a
  | ask r next => andThen (f r) fun a => relay f (next a)

/-- The questions of a run, in the order in which they were asked. -/
def questions (respond : Responder A σ) : Dialogue A α → σ → List ρ
  | done _, _ => []
  | ask r next, s => r :: questions respond (next (respond r s).1) (respond r s).2

/-! ### Laws -/

@[simp] theorem pure_eq (a : α) : (pure a : Dialogue A α) = done a := rfl

@[simp] theorem bind_eq (d : Dialogue A α) (f : α → Dialogue A β) : d >>= f = andThen d f := rfl

@[simp] theorem andThen_done (a : α) (f : α → Dialogue A β) : andThen (done a) f = f a := rfl

@[simp] theorem andThen_ask (r : ρ) (next : A r → Dialogue A α) (f : α → Dialogue A β) :
    andThen (ask r next) f = ask r fun a => andThen (next a) f := rfl

theorem andThen_assoc (d : Dialogue A α) (f : α → Dialogue A β) (g : β → Dialogue A γ) :
    andThen (andThen d f) g = andThen d fun a => andThen (f a) g := by
  induction d with
  | done a => rfl
  | ask r next ih =>
    simp only [andThen_ask]
    congr
    funext a
    exact ih a

theorem andThen_done_right (d : Dialogue A α) : andThen d done = d := by
  induction d with
  | done a => rfl
  | ask r next ih =>
    simp only [andThen_ask]
    congr
    funext a
    exact ih a

instance : LawfulMonad (Dialogue A) :=
  LawfulMonad.mk' _
    (fun d => andThen_done_right d)
    (fun _ _ => rfl)
    (fun d f g => andThen_assoc d f g)

@[simp] theorem run_done (respond : Responder A σ) (a : α) (s : σ) :
    run respond (done a) s = (a, s) := rfl

@[simp] theorem run_ask (respond : Responder A σ) (r : ρ) (next : A r → Dialogue A α) (s : σ) :
    run respond (ask r next) s = run respond (next (respond r s).1) (respond r s).2 := rfl

theorem run_andThen (respond : Responder A σ) (d : Dialogue A α) (f : α → Dialogue A β) (s : σ) :
    run respond (andThen d f) s = run respond (f (run respond d s).1) (run respond d s).2 := by
  induction d generalizing s with
  | done a => rfl
  | ask r next ih => exact ih _ _

end Dialogue

end Reconciliation
