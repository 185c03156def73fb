import Mathlib.Logic.Function.Iterate
import Reconciliation.Proofs.Pass.Interleaving
import Reconciliation.Proofs.Pass.Session
import Reconciliation.Proofs.Pass.Visit
/-!
# Sessions that keep apart

Sessions share one store and with it one count of versions, so each of them is given other versions than it would be
given alone. As long as no two of them touch the same path that is all they notice of each other: in every order in
which their calls are interleaved, each goes through the same calls as alone up to a matching of versions, which grows
with each of its writes (`Lockstep`). So each call has the outcome that it has alone, and what is stored in the end is
what the sessions store one after the other (`Session.together_alone`).
-/

namespace Reconciliation

namespace Dialogue

variable {ρ σ : Type} {A : ρ → Type} {α : Type} {respond : Responder A σ}

/-- What is left of a dialogue, and the state, after its next question. -/
def advance (respond : Responder A σ) : Dialogue A α × σ → Dialogue A α × σ
  | (done a, s) => (done a, s)
  | (ask r next, s) => (next (respond r s).1, (respond r s).2)

theorem mem_questions_advance {x : Dialogue A α × σ} {r : ρ}
    (h : r ∈ questions respond (advance respond x).1 (advance respond x).2) : r ∈ questions respond x.1 x.2 := by
  obtain ⟨d, s⟩ := x
  cases d with
  | done a => exact h
  | ask r' next => exact List.mem_cons_of_mem _ h

/-- After as many questions as it asks, a dialogue has ended. -/
theorem advance_iterate {d : Dialogue A α} {s : σ} {n : Nat} (h : (questions respond d s).length ≤ n) :
    (advance respond)^[n] (d, s) = (.done (run respond d s).1, (run respond d s).2) := by
  induction n generalizing d s with
  | zero =>
    cases d with
    | done a => rfl
    | ask r next => exact absurd h (Nat.not_succ_le_zero _)
  | succ n ih =>
    rw [Function.iterate_succ_apply]
    cases d with
    | done a => exact ih (Nat.zero_le n)
    | ask r next => exact ih (Nat.le_of_succ_le_succ h)

end Dialogue

namespace Shared

variable {ι α : Type} [DecidableEq ι] {s : Shared ι α} {i j : ι}

/-- A pass and the store after its next turn. -/
theorem step_advance (s : Shared ι α) (i : ι) :
    ((s.step (.pass i)).passes i, (s.step (.pass i)).memory) =
      Dialogue.advance Memory.respond (s.passes i, s.memory) := by
  cases hi : s.passes i with
  | done a => simp only [step, hi, Dialogue.advance]
  | ask c next => rw [passes_step_self hi, step_pass hi, Dialogue.advance]

theorem run_replicate (s : Shared ι α) (i : ι) (n : Nat) :
    ((s.run ((List.replicate n i).map .pass)).passes i, (s.run ((List.replicate n i).map .pass)).memory) =
      (Dialogue.advance Memory.respond)^[n] (s.passes i, s.memory) := by
  induction n generalizing s with
  | zero => rfl
  | succ n ih => rw [List.replicate_succ, List.map_cons, run_cons, ih, step_advance, Function.iterate_succ_apply]

/-- With enough turns in a row, a pass does to the store what it does alone. -/
theorem memory_run_replicate {n : Nat}
    (h : (Dialogue.questions Memory.respond (s.passes i) s.memory).length ≤ n) :
    (s.run ((List.replicate n i).map .pass)).memory = (Dialogue.run Memory.respond (s.passes i) s.memory).2 := by
  have hrun := run_replicate s i n
  rw [Dialogue.advance_iterate h] at hrun
  exact (Prod.mk.inj hrun).2

end Shared

/-! ### One session among others -/

section Lockstep

variable {ι α : Type} {Q : Matching → α → α → Prop} {paths : String → Prop}
  {x x' : Dialogue StoreCall.Answer α × Memory} {c : StoreCall}

/-- What is left of a session alone, with its store, and what is left of it among others, with theirs. Both make alike
calls from now on, all of them at some paths, where the stores hold alike objects. -/
structure Follows (Q : Matching → α → α → Prop) (paths : String → Prop)
    (x x' : Dialogue StoreCall.Answer α × Memory) : Prop where
  coupled : ∃ V, Dialogue.Alike Q V x.1 x'.1 ∧ Memory.Coupled V paths x.2 x'.2
  touched : ∀ c ∈ Dialogue.questions Memory.respond x.1 x.2, ∀ path, c.touched? = some path → paths path

theorem Follows.advance (h : Follows Q paths x x') :
    Follows Q paths (Dialogue.advance Memory.respond x) (Dialogue.advance Memory.respond x') := by
  obtain ⟨d, m⟩ := x
  obtain ⟨d', m'⟩ := x'
  obtain ⟨V, halike, hcoupled⟩ := h.coupled
  refine ⟨?_, fun c hc => h.touched c (Dialogue.mem_questions_advance hc)⟩
  cases halike with
  | done hresult => exact ⟨V, .done hresult, hcoupled⟩
  | ask hc hnext =>
    obtain ⟨V', hV, hcoupled', hanswers⟩ := Memory.respond_alike hcoupled hc (h.touched _ List.mem_cons_self)
    exact ⟨V', hnext V' hV _ _ hanswers, hcoupled'⟩

/-- A call of the others at other paths. -/
theorem Follows.elsewhere (h : Follows Q paths x x') (hc : ∀ path, c.touched? = some path → ¬ paths path) :
    Follows Q paths x (x'.1, (Memory.respond c x'.2).2) := by
  obtain ⟨V, halike, hcoupled⟩ := h.coupled
  exact ⟨⟨V, halike, hcoupled.respond_elsewhere hc⟩, h.touched⟩

/-- Among others a session touches no path that it does not touch alone. -/
theorem Follows.touched_next (h : Follows Q paths x x') {next : c.Answer → Dialogue StoreCall.Answer α}
    (hask : x'.1 = .ask c next) : ∀ path, c.touched? = some path → paths path := by
  obtain ⟨d, m⟩ := x
  obtain ⟨d', m'⟩ := x'
  obtain ⟨V, halike, -⟩ := h.coupled
  cases hask
  cases halike with
  | ask hc hnext =>
    rw [hc.touched?]
    exact h.touched _ List.mem_cons_self

theorem Follows.done (h : Follows Q paths x x') {a : α} (hx : x.1 = .done a) :
    ∃ V a', x'.1 = .done a' ∧ Q V a a' ∧ Memory.Coupled V paths x.2 x'.2 := by
  obtain ⟨d, m⟩ := x
  obtain ⟨d', m'⟩ := x'
  obtain ⟨V, halike, hcoupled⟩ := h.coupled
  cases hx
  cases halike with
  | done hresult => exact ⟨V, _, rfl, hresult, hcoupled⟩

/-! ### All sessions -/

variable [DecidableEq ι] {alone : ι → Dialogue StoreCall.Answer α × Memory} {s : Shared ι α} {own : ι → String → Prop}

/-- Each session follows what it does alone. -/
def Lockstep (Q : Matching → α → α → Prop) (own : ι → String → Prop)
    (alone : ι → Dialogue StoreCall.Answer α × Memory) (s : Shared ι α) : Prop :=
  ∀ i, Follows Q (own i) (alone i) (s.passes i, s.memory)

theorem Lockstep.step (h : Lockstep Q own alone s) (hown : ∀ i j, i ≠ j → ∀ path, own i path → ¬ own j path) (i : ι) :
    Lockstep Q own (Function.update alone i (Dialogue.advance Memory.respond (alone i))) (s.step (.pass i)) := by
  intro j
  by_cases hj : j = i
  · subst hj
    rw [Function.update_self, Shared.step_advance]
    exact (h j).advance
  · rw [Function.update_of_ne hj, Shared.passes_step fun heq => hj (Turn.pass.inj heq).symm]
    cases hi : s.passes i with
    | done a =>
      simp only [Shared.step, hi]
      exact h j
    | ask c next =>
      rw [Shared.step_pass hi]
      exact (h j).elsewhere fun path hpath => hown i j (Ne.symm hj) path ((h i).touched_next hi path hpath)

theorem Lockstep.run (h : Lockstep Q own alone s) (hown : ∀ i j, i ≠ j → ∀ path, own i path → ¬ own j path)
    (schedule : List ι) :
    Lockstep Q own (fun i => (Dialogue.advance Memory.respond)^[schedule.count i] (alone i))
      (s.run (schedule.map .pass)) := by
  induction schedule generalizing alone s with
  | nil => exact h
  | cons i schedule ih =>
    intro j
    have hrest := ih (h.step hown i) j
    dsimp only at hrest ⊢
    by_cases hj : j = i
    · subst hj
      rw [Function.update_self] at hrest
      rw [List.count_cons_self, Function.iterate_succ_apply]
      exact hrest
    · rw [Function.update_of_ne hj] at hrest
      rw [List.count_cons_of_ne (Ne.symm hj)]
      exact hrest

theorem Lockstep.find?_run (h : Lockstep Q own alone s) (hown : ∀ i j, i ≠ j → ∀ path, own i path → ¬ own j path)
    (schedule : List ι) {path : String} (hpath : ∀ i, ¬ own i path) :
    (s.run (schedule.map .pass)).memory.objects.find? path = s.memory.objects.find? path := by
  induction schedule generalizing alone s with
  | nil => rfl
  | cons i schedule ih =>
    rw [List.map_cons, Shared.run_cons, ih (h.step hown i)]
    cases hi : s.passes i with
    | done a => simp only [Shared.step, hi]
    | ask c next =>
      rw [Shared.step_pass hi]
      refine (Memory.response c s.memory).find?_eq fun hc => ?_
      exact hpath i ((h i).touched_next hi path (StoreCall.touched?_of_path? hc.1))

end Lockstep

namespace Memory

variable {m : Memory}

/-- A version that the store does not issue any more: an issued one, or one that it never issues. -/
def Settled (m : Memory) (version : String) : Prop :=
  ∀ n, version = toString n → n ≤ m.version

/-- The settled versions of a store stand for themselves. -/
def settledMatching (m : Memory) : Matching :=
  fun version version' => version = version' ∧ m.Settled version

theorem alike_of_settled {o : ManagedObject}
    (h : ∀ version, o.metadata.resourceVersion = some version → m.Settled version) : o.Alike m.settledMatching o where
  rest := by simp
  metadata := by
    refine ⟨rfl, ?_, .inl rfl⟩
    cases hv : o.metadata.resourceVersion with
    | none => exact .none
    | some version => exact .some ⟨rfl, h version hv⟩

theorem Valid.settled (hm : m.Valid) {path version : String} {o : DynamicObject}
    (ho : m.objects.find? path = some o) (hversion : o.metadata.resourceVersion = some version) :
    m.Settled version := by
  obtain ⟨n, -, hle, hn⟩ := hm.versioned path o ho
  intro n' hn'
  have hsame := toString_version_inj ((Option.some.inj (hn.symm.trans hversion)).trans hn')
  omega

theorem coupled_self (hm : m.Valid) (paths : String → Prop) : Coupled m.settledMatching paths m m where
  oneToOne a a' b b' ha hb := by rw [ha.1, hb.1]
  left n a' h := h.2 n rfl
  right a n h := h.2 n h.1
  objects path _ := by
    cases ho : m.objects.find? path with
    | none => exact .none
    | some o =>
      refine .some ⟨rfl, rfl, rfl, ?_, .inl rfl⟩
      obtain ⟨n, -, -, hn⟩ := hm.versioned path o ho
      rw [hn]
      exact .some ⟨rfl, hm.settled ho hn⟩
  rejectsStatus := rfl

end Memory

namespace DynamicObject

/-- The same object but for its version and for identifiers that stores have made. -/
abbrev SameButIssued : DynamicObject → DynamicObject → Prop :=
  Alike fun _ _ => True

theorem sameButIssued_refl (d : DynamicObject) : d.SameButIssued d := by
  refine ⟨rfl, rfl, rfl, ?_, .inl rfl⟩
  cases d.metadata.resourceVersion with
  | none => exact .none
  | some version => exact .some trivial

theorem rel_sameButIssued_refl (found : Option DynamicObject) : Option.Rel SameButIssued found found := by
  cases found with
  | none => exact .none
  | some d => exact .some (sameButIssued_refl d)

/-- Two objects that are alike to a third one. -/
theorem sameButIssued_of_alike {V V' : Matching} {d a b : DynamicObject} (ha : d.Alike V a) (hb : d.Alike V' b) :
    a.SameButIssued b where
  types := hb.types.trans ha.types.symm
  data := hb.data.trans ha.data.symm
  metadata := by
    refine ⟨?_, ?_, ?_⟩
    · rw [ha.metadata.rest, hb.metadata.rest]
    · have hversion := ha.metadata.version
      have hversion' := hb.metadata.version
      generalize d.metadata.resourceVersion = v at hversion hversion'
      generalize a.metadata.resourceVersion = va at hversion ⊢
      generalize b.metadata.resourceVersion = vb at hversion' ⊢
      cases hversion <;> cases hversion'
      · exact .some trivial
      · exact .none
    · rcases ha.metadata.uid with huid | ⟨hd, hgen⟩ <;> rcases hb.metadata.uid with huid' | ⟨hd', hgen'⟩
      · exact .inl (huid.symm.trans huid')
      · exact .inr ⟨huid ▸ hd', hgen'⟩
      · exact .inr ⟨hgen, huid' ▸ hd⟩
      · exact .inr ⟨hgen, hgen'⟩

theorem rel_sameButIssued {V V' : Matching} {found a b : Option DynamicObject} (ha : Option.Rel (Alike V) found a)
    (hb : Option.Rel (Alike V') found b) : Option.Rel SameButIssued a b := by
  cases ha with
  | none =>
    cases hb
    exact .none
  | some ha =>
    cases hb with
    | some hb => exact .some (sameButIssued_of_alike ha hb)

end DynamicObject

namespace Session

variable {ι κ : Type} [DecidableEq ι] [DecidableEq κ] {sessions : ι → Session κ} {m : Memory}

/-- A path at which a session makes a call when it is alone with a store. -/
def Touches (s : Session κ) (m : Memory) (path : String) : Prop :=
  ∃ c ∈ Dialogue.questions Memory.respond s.storeCalls m, c.touched? = some path

/-- Sessions over one store of which no two touch the same path, with objects that bring no version that the store may
yet issue. How owners are marked does not hang on versions and identifiers. -/
structure KeepApart (sessions : ι → Session κ) (m : Memory) : Prop where
  blind : ∀ i, (sessions i).reconciler.stamper.Blind
  settled : ∀ i o, (sessions i).Brings o → ∀ version, o.metadata.resourceVersion = some version → m.Settled version
  apart : ∀ i j, i ≠ j → ∀ path, (sessions i).Touches m path → ¬ (sessions j).Touches m path

/-- Sessions that share a store. -/
def together (sessions : ι → Session κ) (m : Memory) :
    Shared ι (List (Except ReconcileError Unit) × Requeue) :=
  ⟨m, fun i => (sessions i).storeCalls⟩

omit [DecidableEq ι] in
theorem KeepApart.lockstep (h : KeepApart sessions m) (hm : m.Valid) :
    Lockstep (fun _ => ResultAlike) (fun i => (sessions i).Touches m) (fun i => ((sessions i).storeCalls, m))
      (together sessions m) := by
  intro i
  refine ⟨⟨m.settledMatching, ?_, Memory.coupled_self hm _⟩, fun c hc path hpath => ⟨c, hc, hpath⟩⟩
  exact Session.alike (h.blind i) fun o ho => Memory.alike_of_settled (h.settled i o ho)

/-- An order of turns in which each session has as many as it makes calls alone. -/
def Completes (sessions : ι → Session κ) (m : Memory) (schedule : List ι) : Prop :=
  ∀ i, (Dialogue.questions Memory.respond (sessions i).storeCalls m).length ≤ schedule.count i

variable {schedule schedule' : List ι}

/-- In any order of their calls, sessions that keep apart end with what they end with alone and leave what they leave
alone. -/
theorem KeepApart.run (h : KeepApart sessions m) (hm : m.Valid) (hschedule : Completes sessions m schedule) (i : ι) :
    ∃ V result, ((together sessions m).run (schedule.map .pass)).passes i = .done result ∧
      ResultAlike (Dialogue.run Memory.respond (sessions i).storeCalls m).1 result ∧
      Memory.Coupled V ((sessions i).Touches m) (Dialogue.run Memory.respond (sessions i).storeCalls m).2
        ((together sessions m).run (schedule.map .pass)).memory := by
  have hrun := (h.lockstep hm).run h.apart schedule i
  dsimp only at hrun
  rw [Dialogue.advance_iterate (hschedule i)] at hrun
  obtain ⟨V, result, hdone, hresult, hcoupled⟩ := hrun.done rfl
  exact ⟨V, result, hdone, hresult, hcoupled⟩

/-- Two orders of their calls leave the same: at each path what the session that touches it leaves there alone. -/
theorem KeepApart.find?_run (h : KeepApart sessions m) (hm : m.Valid) (hschedule : Completes sessions m schedule)
    (hschedule' : Completes sessions m schedule') (path : String) :
    Option.Rel DynamicObject.SameButIssued
      (((together sessions m).run (schedule.map .pass)).memory.objects.find? path)
      (((together sessions m).run (schedule'.map .pass)).memory.objects.find? path) := by
  by_cases hpath : ∃ i, (sessions i).Touches m path
  · obtain ⟨i, hi⟩ := hpath
    obtain ⟨V, -, -, -, hcoupled⟩ := h.run hm hschedule i
    obtain ⟨V', -, -, -, hcoupled'⟩ := h.run hm hschedule' i
    exact DynamicObject.rel_sameButIssued (hcoupled.objects path hi) (hcoupled'.objects path hi)
  · have helse := not_exists.1 hpath
    rw [(h.lockstep hm).find?_run h.apart schedule helse, (h.lockstep hm).find?_run h.apart schedule' helse]
    exact DynamicObject.rel_sameButIssued_refl _

/-! ### Two sessions -/

section Two

variable {sessions : Bool → Session κ}

/-- One session after the other is an order of their calls as well. -/
theorem memory_together_replicate (sessions : Bool → Session κ) {n n' : Nat}
    (hn : (Dialogue.questions Memory.respond (sessions false).storeCalls m).length ≤ n)
    (hn' : (Dialogue.questions Memory.respond (sessions true).storeCalls
      (Dialogue.run Memory.respond (sessions false).storeCalls m).2).length ≤ n') :
    ((together sessions m).run ((List.replicate n false ++ List.replicate n' true).map .pass)).memory =
      (Dialogue.run Memory.respond (sessions true).storeCalls
        (Dialogue.run Memory.respond (sessions false).storeCalls m).2).2 := by
  have hfirst : ((together sessions m).run ((List.replicate n false).map .pass)).memory =
      (Dialogue.run Memory.respond (sessions false).storeCalls m).2 :=
    Shared.memory_run_replicate hn
  have hother : ((together sessions m).run ((List.replicate n false).map .pass)).passes true =
      (sessions true).storeCalls := by
    refine Shared.passes_run fun hmem => ?_
    obtain ⟨i, hi, heq⟩ := List.mem_map.1 hmem
    cases (List.eq_of_mem_replicate hi).symm.trans (Turn.pass.inj heq)
  rw [List.map_append, Shared.run_append, Shared.memory_run_replicate, hother, hfirst]
  rw [hother, hfirst]
  exact hn'

theorem completes_replicate (sessions : Bool → Session κ) {n n' : Nat}
    (hn : (Dialogue.questions Memory.respond (sessions false).storeCalls m).length ≤ n)
    (hn' : (Dialogue.questions Memory.respond (sessions true).storeCalls m).length ≤ n') :
    Completes sessions m (List.replicate n false ++ List.replicate n' true) := by
  intro i
  cases i <;> simpa [List.count_replicate]

/-- Two sessions that touch different paths may make their calls in any order. Each call has the outcome that it has
when the session is alone with the store, the scheduler is told the same, and what is stored in the end is what the
sessions leave one after the other, up to versions and generated identifiers. -/
theorem together_alone (sessions : Bool → Session κ) (hm : m.Reachable) (h : KeepApart sessions m)
    (schedule : List Bool) (hschedule : Completes sessions m schedule) :
    let alone := fun i => Dialogue.run Memory.respond (sessions i).storeCalls m
    let oneByOne := (Dialogue.run Memory.respond (sessions true).storeCalls (alone false).2).2
    let final := (together sessions m).run (schedule.map .pass)
    (∀ i, ∃ result, final.passes i = .done result ∧ ResultAlike (alone i).1 result) ∧
      ∀ path, Option.Rel DynamicObject.SameButIssued (oneByOne.objects.find? path)
        (final.memory.objects.find? path) := by
  intro alone oneByOne final
  constructor
  · intro i
    obtain ⟨V, result, hdone, hresult, -⟩ := h.run hm.valid hschedule i
    exact ⟨result, hdone, hresult⟩
  · intro path
    let calls := fun m => (Dialogue.questions Memory.respond (sessions true).storeCalls m).length
    have hmemory := memory_together_replicate sessions (Nat.le_refl _)
      (Nat.le_add_left (calls (alone false).2) (calls m))
    have hcompletes := completes_replicate sessions (m := m) (Nat.le_refl _)
      (Nat.le_add_right (calls m) (calls (alone false).2))
    rw [← show _ = oneByOne from hmemory]
    exact h.find?_run hm.valid hcompletes hschedule path

/-- The stored registry and another one that is not stored yet. -/
def registries : Bool → Registry
  | false => Tended.createdRegistry
  | true => { metadata := { name := some "mirror", nameSpace := some "quay" }, replicas := 1, status := none }

/-- Converging each registry, and then the recording of a success. -/
def converging (i : Bool) : Session Unit where
  reconciler := .ofConfiguration .default
  clock := default
  hand := fun _ => .registry (registries i)
  calls := [.converge none none ()]
  concluded := ()
  failure := none

def registriesStore : Memory :=
  Tended.tendedRegistry.surroundings.store

theorem reachable_registriesStore : registriesStore.Reachable :=
  ⟨_, rfl⟩

theorem touched_converging (i : Bool) :
    (Dialogue.questions Memory.respond (converging i).storeCalls registriesStore).map StoreCall.touched? =
      List.replicate 3 (some ("quay.redhat.com/v1/QuayRegistry/quay/" ++ bif i then "mirror" else "registry")) := by
  cases i <;> decide

theorem keepApart_converging : KeepApart converging registriesStore where
  blind _ := Stamper.blind_controllerReference
  settled := by
    rintro i o (⟨name, rfl⟩ | ⟨c, hc, t, data, os, d, hrendered, -⟩) version hversion
    · cases i with
      | false =>
        obtain ⟨w, hw, hcurrent⟩ := Tended.current_tendedRegistry.stored
        exact reachable_registriesStore.valid.settled hw (hcurrent.trans hversion)
      | true => cases hversion
    · cases List.mem_singleton.1 hc
      cases hrendered
  apart := by
    rintro i j hne path ⟨c, hc, hpath⟩ ⟨c', hc', hpath'⟩
    have hi := List.mem_map_of_mem (f := StoreCall.touched?) hc
    have hj := List.mem_map_of_mem (f := StoreCall.touched?) hc'
    rw [touched_converging] at hi hj
    have heq := (List.eq_of_mem_replicate hi).symm.trans (hpath.trans (hpath'.symm.trans (List.eq_of_mem_replicate hj)))
    revert heq
    cases i <;> cases j
    · exact absurd rfl hne
    · decide
    · decide
    · exact absurd rfl hne

theorem completes_converging : Completes converging registriesStore [false, true, true, false, false, true] := by
  intro i
  rw [← List.length_map (f := StoreCall.touched?), touched_converging]
  cases i <;> decide

theorem together_alone_converging :
    let alone := fun i => Dialogue.run Memory.respond (converging i).storeCalls registriesStore
    let oneByOne := (Dialogue.run Memory.respond (converging true).storeCalls (alone false).2).2
    let final := (together converging registriesStore).run ([false, true, true, false, false, true].map .pass)
    (∀ i, ∃ result, final.passes i = .done result ∧ ResultAlike (alone i).1 result) ∧
      ∀ path, Option.Rel DynamicObject.SameButIssued (oneByOne.objects.find? path)
        (final.memory.objects.find? path) :=
  together_alone converging reachable_registriesStore keepApart_converging _ completes_converging

end Two

end Session

end Reconciliation
