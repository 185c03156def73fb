import Reconciliation.Pass.Effect
/-!
# Surroundings of a pass

What a pass runs in: a store, a clock that stands still during the pass, the events published so far and
the measurements taken so far.
-/

namespace Reconciliation

/-- A store state, the time, the published events and the measurements, the earliest first. -/
structure Surroundings (σ : Type) where
  store : σ
  clock : Instant
  notices : List Notice := []
  metrics : Metrics := []

namespace Surroundings

variable {σ α : Type}

/-- The surroundings over a store. -/
def respond (store : Store σ) : Dialogue.Responder Effect.Answer (Surroundings σ)
  | .store c, s => ((store c s.store).1, { s with store := (store c s.store).2 })
  | .notify n, s => ((), { s with notices := s.notices ++ [n] })
  | .now, s => (s.clock, s)
  | .measure m, s => ((), { s with metrics := s.metrics ++ [m] })

def run (store : Store σ) (p : Pass α) (s : Surroundings σ) : α × Surroundings σ :=
  Dialogue.run (respond store) p s

end Surroundings

end Reconciliation
