import Reconciliation.Pass.Effect
/-!
# Logs

The log of a run has the questions with their answers, in the order in which they were asked. A dialogue yields what
holds of its log and its result however it is answered (`Yields`), so also when between the answers anything else
happens to what gives them. For a pass the rules of `Yields` follow its effects.
-/

namespace Reconciliation

namespace Dialogue

variable {ρ σ α β : Type} {A : ρ → Type} {P : List ((r : ρ) × A r) → α → Prop}

/-- The questions of a run with their answers. -/
def log (respond : Responder A σ) : Dialogue A α → σ → List ((r : ρ) × A r)
  | done _, _ => []
  | ask r next, s => ⟨r, (respond r s).1⟩ :: log respond (next (respond r s).1) (respond r s).2

@[simp] theorem log_done (respond : Responder A σ) (a : α) (s : σ) : log respond (done a) s = [] := rfl

theorem log_andThen (respond : Responder A σ) (d : Dialogue A α) (f : α → Dialogue A β) (s : σ) :
    log respond (andThen d f) s = log respond d s ++ log respond (f (run respond d s).1) (run respond d s).2 := by
  induction d generalizing s with
  | done a => rfl
  | ask r next ih => exact congrArg (⟨r, (respond r s).1⟩ :: ·) (ih _ _)

/-- However a dialogue is answered, its log and its result have a property. -/
def Yields (P : List ((r : ρ) × A r) → α → Prop) : Dialogue A α → Prop
  | done a => P [] a
  | ask r next => ∀ a, Yields (fun rest result => P (⟨r, a⟩ :: rest) result) (next a)

theorem yields_andThen {Q : List ((r : ρ) × A r) → β → Prop} {d : Dialogue A α} {f : α → Dialogue A β}
    (h : Yields (fun log a => Yields (fun rest result => Q (log ++ rest) result) (f a)) d) :
    Yields Q (andThen d f) := by
  -- The property takes in each question that is passed, so it changes along the dialogue.
  induction d generalizing Q with
  | done a => exact h
  | ask r next ih => exact fun a => ih a (h a)

theorem Yields.mono {Q : List ((r : ρ) × A r) → α → Prop} {d : Dialogue A α} (hd : Yields P d)
    (h : ∀ log result, P log result → Q log result) : Yields Q d := by
  induction d generalizing P Q with
  | done a => exact h _ _ hd
  | ask r next ih => exact fun a => ih a (hd a) fun rest result => h _ _

theorem Yields.run {d : Dialogue A α} (hd : Yields P d) (respond : Responder A σ) (s : σ) :
    P (log respond d s) (run respond d s).1 := by
  induction d generalizing P s with
  | done a => exact hd
  | ask r next ih => exact ih _ (hd _) _

end Dialogue

namespace Pass

open Dialogue (Yields)

variable {α : Type} {P : List ((e : Effect) × e.Answer) → α → Prop}

theorem yields_done {a : α} (h : P [] a) : Yields P (.done a) := h

theorem yields_call {c : StoreCall} {next : c.Answer → Pass α}
    (h : ∀ answer, Yields (fun rest result => P (⟨.store c, answer⟩ :: rest) result) (next answer)) :
    Yields P (Dialogue.andThen (call c) next) := h

theorem yields_notify {n : Notice} {next : Unit → Pass α}
    (h : Yields (fun rest result => P (⟨.notify n, ()⟩ :: rest) result) (next ())) :
    Yields P (Dialogue.andThen (notify n) next) := fun _ => h

theorem yields_now {next : Instant → Pass α}
    (h : ∀ t, Yields (fun rest result => P (⟨.now, t⟩ :: rest) result) (next t)) :
    Yields P (Dialogue.andThen now next) := h

theorem yields_measure {m : Measurement} {next : Unit → Pass α}
    (h : Yields (fun rest result => P (⟨.measure m, ()⟩ :: rest) result) (next ())) :
    Yields P (Dialogue.andThen (measure m) next) := fun _ => h

end Pass

end Reconciliation
