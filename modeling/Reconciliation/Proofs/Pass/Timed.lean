import Reconciliation.Proofs.Pass.Recorded
import Reconciliation.Proofs.Pass.Visit
import Reconciliation.Proofs.Time.Instant
/-!
# Recorded times never go back

A recording reads the clock early and writes late, and meanwhile others may have recorded later times. What keeps
its time out then is the version of its object: the store had returned that version before the clock was read, so
the write is accepted only if nothing has been written since, and what is stored was recorded before the clock was
read. Hence the time of the stored status never goes back while the object is stored (`lastUpdateAt_le_run`).
-/

namespace Reconciliation

namespace StoreCall

/-- The object that a call returns. -/
def returned? : (c : StoreCall) → c.Answer → Option DynamicObject
  | get _, .ok o => some o
  | c, answer => c.written? answer

theorem storeKey_of_path? {o : DynamicObject} {path : String} (h : (updateStatus o).path? = some path) :
    ∃ k, storeKey o = .ok k ∧ k.path = path := by
  rw [path?] at h
  cases hk : storeKey o with
  | error e => simp [hk] at h
  | ok k =>
    rw [hk] at h
    exact ⟨k, rfl, Option.some.inj h⟩

end StoreCall

namespace Memory

variable {m : Memory} {c : StoreCall} {path version : String} {clock : Instant} {w : DynamicObject}

/-- The time of the status that is stored under a path. -/
def lastUpdateAt (m : Memory) (path : String) : Option Instant :=
  (Status.recorded? (m.statusAt path)).bind Status.lastUpdate

theorem lastUpdateAt_of_statusAt (status : Status) (h : m.statusAt path = some status.field) :
    m.lastUpdateAt path = status.lastUpdate.map Instant.settled := by
  rw [lastUpdateAt, h, Status.recorded?_field, Option.bind_some, Status.settled]

theorem lastUpdateAt_absent (h : m.objects.find? path = none) : m.lastUpdateAt path = none := by
  rw [lastUpdateAt, statusAt, h]
  rfl

/-- A version that was given to a write already. -/
def Issued (m : Memory) (version : String) : Prop :=
  ∃ n ≤ m.version, version = toString n

theorem Issued.mono {m' : Memory} (h : m.Issued version) (hle : m.version ≤ m'.version) : m'.Issued version := by
  obtain ⟨n, hn, rfl⟩ := h
  exact ⟨n, hn.trans hle, rfl⟩

theorem issued_of_returned (hm : m.Valid) (h : c.returned? (respond c m).1 = some w)
    (hversion : w.metadata.resourceVersion = some version) : (respond c m).2.Issued version := by
  have hanswer : (∃ k, c = .get k) ∨ c.written? (respond c m).1 = some w := by
    cases c with
    | get k => exact .inl ⟨k, rfl⟩
    | delete => cases h
    | create | update | updateStatus => exact .inr h
  rcases hanswer with ⟨k, rfl⟩ | hwritten
  · cases hstored : m.stored k with
    | none =>
      rw [respond, get_absent hstored] at h
      cases h
    | some old =>
      rw [respond, get_present hstored] at h ⊢
      cases h
      obtain ⟨n, -, hle, hn⟩ := hm.versioned k.path w hstored
      exact ⟨n, hle, Option.some.inj (hversion.symm.trans hn)⟩
  · obtain ⟨hnext, hstep⟩ := (response c m).version_of_written hwritten
    exact ⟨m.version + 1, hstep.ge, Option.some.inj (hversion.symm.trans hnext)⟩

/-- A write that changed what is stored gave it a version that no one has seen. -/
theorem Issued.ne_of_changes (h : m.Issued version) (hc : Changes path m c)
    (hw : (respond c m).2.objects.find? path = some w) : w.metadata.resourceVersion ≠ some version := by
  obtain ⟨n, hn, rfl⟩ := h
  obtain ⟨n', hlt, hn'⟩ := newer_of_changes (Nat.le_refl m.version) hc w hw
  rw [hn']
  intro heq
  have hsame := toString_version_inj (Option.some.inj heq)
  omega

/-- A status write with a version is accepted only if the stored object has that version. -/
theorem current_of_updateStatus_ok {o : DynamicObject} (h : (updateStatus o m).1 = .ok w)
    (hversion : o.metadata.resourceVersion = some version) :
    ∃ k old, storeKey o = .ok k ∧ m.stored k = some old ∧ old.metadata.resourceVersion = some version := by
  obtain ⟨k, old, hk, hold, -, -⟩ := updateStatus_ok h
  refine ⟨k, old, hk, hold, ?_⟩
  by_contra hstale
  cases hr : m.rejectsStatus with
  | true =>
    rw [updateStatus_rejected hk hr] at h
    cases h
  | false =>
    rw [← record_stored m .updateStatus k.path] at hold
    rw [updateStatus_eq hk hr, overwrite_stale restatedObject hold (checkVersion_stale k hversion hstale)] at h
    cases h

/-! ### Status writes in time -/

/-- A call may come at some time: no status write to a path is late, as it has an issued version and the time that
it brings, which is read as it was written, is not before the one that is stored with that version. All others bring
payloads with fields. -/
def Timely (path : String) (clock : Instant) (m : Memory) : StoreCall → Prop
  | .updateStatus d => (StoreCall.updateStatus d).path? = some path →
    ∃ (status : Status) (t : Instant) (version : String), d.status? = some status.field ∧
      status.lastUpdate = some t ∧ t.overruns = false ∧ t ≤ clock ∧
      d.metadata.resourceVersion = some version ∧ m.Issued version ∧
      ∀ w u, m.objects.find? path = some w → w.metadata.resourceVersion = some version →
        m.lastUpdateAt path = some u → u ≤ t
  | c => c.BringsFields

theorem timely_of_carries (h : c.Carries none) : Timely path clock m c := by
  cases c with
  | updateStatus d =>
    obtain ⟨s, hs, -⟩ := h
    cases hs
  | get | create | update | delete => exact h

theorem Timely.bringsFields (h : Timely path clock m c) : c.BringsFields := by
  cases c with
  | updateStatus d => trivial
  | get | create | update | delete => exact h

theorem Timely.later {now : Instant} (h : Timely path clock m c) (hle : clock ≤ now) : Timely path now m c := by
  cases c with
  | updateStatus d =>
    intro hpath
    obtain ⟨status, t, version, hstatus, ht, hsettled, hclock, hrest⟩ := h hpath
    exact ⟨status, t, version, hstatus, ht, hsettled, Instant.le_trans hclock hle, hrest⟩
  | get | create | update | delete => exact h

/-- What happens to the store makes no call late: it leaves the stored object alone, or it gives it a version that
the call does not have. -/
theorem Timely.perform (h : Timely path clock m c) (a : Action) : Timely path clock (m.perform a) c := by
  cases c with
  | get | create | update | delete => exact h
  | updateStatus d =>
    intro hpath
    obtain ⟨status, t, version, hstatus, ht, hsettled, hclock, hversion, hissued, hfresh⟩ := h hpath
    refine ⟨status, t, version, hstatus, ht, hsettled, hclock, hversion, hissued.mono (version_le_perform m a), ?_⟩
    intro w u hw hwversion hu
    by_cases hchange : ∃ c, a = .call c ∧ Changes path m c
    · obtain ⟨c, rfl, hchange⟩ := hchange
      exact absurd hwversion (hissued.ne_of_changes hchange hw)
    · have hsame : (m.perform a).objects.find? path = m.objects.find? path :=
        find?_perform fun c hc h => hchange ⟨c, hc, h⟩
      rw [lastUpdateAt, statusAt, hsame] at hu
      exact hfresh w u (hsame ▸ hw) hwversion hu

theorem Timely.run (h : Timely path clock m c) (actions : List Action) : Timely path clock (m.run actions) c := by
  induction actions generalizing m with
  | nil => exact h
  | cons a actions ih => exact ih (h.perform a)

/-- The time of the status under a path stays, or it goes on and not beyond the clock, unless nothing is stored there
any more. -/
def Advances (path : String) (clock : Instant) (m m' : Memory) : Prop :=
  m'.lastUpdateAt path = m.lastUpdateAt path ∨ m'.objects.find? path = none ∨
    ∃ t, m'.lastUpdateAt path = some t ∧ t ≤ clock ∧ ∀ u, m.lastUpdateAt path = some u → u ≤ t

theorem advances_respond (hm : m.Fielded) (h : Timely path clock m c) : Advances path clock m (respond c m).2 := by
  by_cases hdecides : Decides path m c
  · have hstatus := statusAt_of_decides hm hdecides
    obtain ⟨⟨hpath, hok⟩, hupdate⟩ := hdecides
    cases c with
    | get k => cases hpath
    | update o => exact absurd rfl (hupdate o)
    | create o =>
      left
      rw [lastUpdateAt, lastUpdateAt, statusAt_create hm h.bringsFields]
    | delete o =>
      right; left
      rw [(response (.delete o) m).find?_path hpath hok]
      rfl
    | updateStatus o =>
      right; right
      obtain ⟨status, t, version, hfield, ht, hsettled, hclock, hversion, -, hfresh⟩ := h hpath
      refine ⟨t, ?_, hclock, ?_⟩
      · rw [lastUpdateAt_of_statusAt status (hstatus.trans hfield), ht, Option.map_some,
          Instant.settled_of_not_overruns hsettled]
      · intro u hu
        cases hanswer : (updateStatus o m).1 with
        | error e => simp [respond, hanswer, StoreCall.error?] at hok
        | ok w =>
          obtain ⟨k, old, hk, hold, hcurrent⟩ := current_of_updateStatus_ok hanswer hversion
          cases (path?_of_storeKey (.inr (.inr (.inl rfl))) hk).symm.trans hpath
          exact hfresh old u hold hcurrent hu
  · left
    rw [lastUpdateAt, lastUpdateAt, statusAt_of_not_decides h.bringsFields hdecides]

end Memory

/-- Operations that share a store and a clock, and the versions that the store has returned so far. -/
structure Timed (ι : Type) where
  shared : Shared ι Unit
  clock : Instant
  returned : List String := []

namespace Timed

/-- What comes next: the clock goes on, an operation begins and reads it, or somebody uses the store. -/
inductive Event (ι : Type) where
  | tick (now : Instant)
  | begin (i : ι) (r : Reconciler) (operation : Operation)
  | turn (t : Turn ι)

variable {ι : Type} [DecidableEq ι] {s : Timed ι} {path : String} {e : Event ι} {events : List (Event ι)}

/-- An empty store that nobody uses yet. -/
def start (clock : Instant) : Timed ι :=
  { shared := ⟨{}, fun _ => .done ()⟩, clock }

/-- The version that the store returns at a turn. -/
def returnedAt (s : Timed ι) (t : Turn ι) : Option String :=
  match s.shared.action? t with
  | some (.call c) => (c.returned? (Memory.respond c s.shared.memory).1).bind fun w => w.metadata.resourceVersion
  | _ => none

def step (s : Timed ι) : Event ι → Timed ι
  | .tick now => { s with clock := now }
  | .begin i r operation =>
    { s with shared := ⟨s.shared.memory, Function.update s.shared.passes i (Job.calls ⟨r, s.clock, operation⟩)⟩ }
  | .turn t => { s with shared := s.shared.step t, returned := s.returned ++ (s.returnedAt t).toList }

def run (s : Timed ι) (events : List (Event ι)) : Timed ι :=
  events.foldl step s

@[simp] theorem run_nil (s : Timed ι) : s.run [] = s := rfl

@[simp] theorem run_cons (s : Timed ι) (e : Event ι) (events : List (Event ι)) :
    s.run (e :: events) = (s.step e).run events := rfl

theorem run_append (s : Timed ι) (before after : List (Event ι)) :
    s.run (before ++ after) = (s.run before).run after :=
  List.foldl_append

/-- The clock does not go back, an operation that records the end of a pass on the object under a path reads it at a
time that does not overrun its second and has a version of an object that the store has returned before, and only
recordings write statuses. -/
def Admits (path : String) (s : Timed ι) : Event ι → Prop
  | .tick now => s.clock ≤ now
  | .begin _ _ operation => ∀ o k, operation.recorded? = some o → ObjectKey.of o = .ok k → k.path = path →
    s.clock.overruns = false ∧ ∃ version ∈ s.returned, o.metadata.resourceVersion = some version
  | .turn (.other (.call c)) => c.Carries none
  | .turn _ => True

def AdmitsAll (path : String) (s : Timed ι) : List (Event ι) → Prop
  | [] => True
  | e :: events => Admits path s e ∧ AdmitsAll path (s.step e) events

theorem admitsAll_append {before after : List (Event ι)} :
    AdmitsAll path s (before ++ after) ↔ AdmitsAll path s before ∧ AdmitsAll path (s.run before) after := by
  induction before generalizing s with
  | nil => simp [AdmitsAll]
  | cons e before ih => rw [List.cons_append, AdmitsAll, AdmitsAll, ih, run_cons, and_assoc]

/-! ### Statuses that are not ahead of the clock -/

/-- What is stored under a path was recorded before now, and no recording that is under way is late. -/
structure InTime (path : String) (s : Timed ι) : Prop where
  valid : s.shared.memory.Valid
  fielded : s.shared.memory.Fielded
  issued : ∀ version ∈ s.returned, s.shared.memory.Issued version
  past : ∀ u, s.shared.memory.lastUpdateAt path = some u → u ≤ s.clock
  timely : ∀ i, Dialogue.Always (Memory.Timely path s.clock s.shared.memory) (s.shared.passes i)

omit [DecidableEq ι] in
theorem inTime_start (path : String) (clock : Instant) : InTime path (start clock : Timed ι) where
  valid := Memory.valid_empty
  fielded := Memory.fielded_empty
  issued := List.forall_mem_nil _
  past _ h := nomatch h
  timely _ := trivial

omit [DecidableEq ι] in
/-- A recording that begins now is timely: it has an issued version, and what is stored was recorded before now. -/
theorem InTime.timely_begin (h : InTime path s) {i : ι} {r : Reconciler} {operation : Operation}
    (ha : Admits path s (.begin i r operation)) :
    Dialogue.Always (Memory.Timely path s.clock s.shared.memory) (Job.calls ⟨r, s.clock, operation⟩) := by
  refine Job.sends_of _ (fun c hc => Memory.timely_of_carries hc) ?_
  intro o status d hrecorded hstatus ho hd hpath
  obtain ⟨k, hk, rfl⟩ := StoreCall.storeKey_of_path? hpath
  obtain ⟨hsettled, version, hreturned, hversion⟩ :=
    ha o k hrecorded ((ManagedObject.storeKey_toDynamic_withStatus hd).1 hk) rfl
  have hlast : status.lastUpdate = some s.clock := by
    cases operation <;> cases hstatus <;> rfl
  have hsent : d.metadata.resourceVersion = some version := by
    rw [(ManagedObject.toDynamic_ok hd).2.1, ManagedObject.metadata_withStatus, hversion]
  exact ⟨status, s.clock, version, ManagedObject.status?_toDynamic_withStatus ho hd, hlast, hsettled,
    Instant.le_refl _, hsent, h.issued version hreturned, fun w u _ _ hu => h.past u hu⟩

omit [DecidableEq ι] in
/-- What a turn makes happen to the store is timely. -/
theorem InTime.timely_action (h : InTime path s) {t : Turn ι} (ha : Admits path s (.turn t)) {c : StoreCall}
    (hc : s.shared.action? t = some (.call c)) : Memory.Timely path s.clock s.shared.memory c := by
  cases t with
  | other a =>
    cases hc
    exact Memory.timely_of_carries ha
  | pass i =>
    obtain ⟨next, hask⟩ := Shared.action?_pass_eq_some hc
    have hi := h.timely i
    rw [hask] at hi
    exact hi.1

theorem InTime.begin (h : InTime path s) {i : ι} {r : Reconciler} {operation : Operation}
    (ha : Admits path s (.begin i r operation)) : InTime path (s.step (.begin i r operation)) := by
  refine ⟨h.valid, h.fielded, h.issued, h.past, fun j => ?_⟩
  change Dialogue.Always _ (Function.update s.shared.passes i (Job.calls ⟨r, s.clock, operation⟩) j)
  by_cases hj : j = i
  · rw [hj, Function.update_self]
    exact h.timely_begin ha
  · rw [Function.update_of_ne hj]
    exact h.timely j

omit [DecidableEq ι] in
theorem issued_of_returnedAt (h : InTime path s) {t : Turn ι} {version : String}
    (hversion : s.returnedAt t = some version) : (s.shared.memory.run (s.shared.action? t).toList).Issued version := by
  rw [returnedAt] at hversion
  split at hversion
  · rename_i c haction
    obtain ⟨w, hreturned, hw⟩ := Option.bind_eq_some_iff.1 hversion
    rw [haction]
    exact Memory.issued_of_returned h.valid hreturned hw
  · cases hversion

theorem InTime.advances (h : InTime path s) (ha : Admits path s e) :
    Memory.Advances path s.clock s.shared.memory (s.step e).shared.memory := by
  cases e with
  | tick | begin => exact .inl rfl
  | turn t =>
    rw [step, Shared.memory_step]
    cases haction : s.shared.action? t with
    | none => exact .inl rfl
    | some a =>
      cases a with
      | rejectStatus | clearLog => exact .inl rfl
      | call c => exact Memory.advances_respond h.fielded (h.timely_action ha haction)

theorem InTime.turn (h : InTime path s) {t : Turn ι} (ha : Admits path s (.turn t)) :
    InTime path (s.step (.turn t)) := by
  have hmemory : (s.step (.turn t)).shared.memory = s.shared.memory.run (s.shared.action? t).toList :=
    Shared.memory_step s.shared t
  constructor
  case valid =>
    rw [hmemory]
    exact h.valid.run _
  case fielded =>
    rw [hmemory]
    exact h.fielded.run fun c hc => (h.timely_action ha (Option.mem_toList.1 hc)).bringsFields
  case issued =>
    intro version hversion
    rw [hmemory]
    rcases List.mem_append.1 hversion with hbefore | hnow
    · exact (h.issued version hbefore).mono (Memory.version_le_run _ _)
    · exact issued_of_returnedAt h (Option.mem_toList.1 hnow)
  case past =>
    intro u hu
    rcases h.advances ha with hsame | habsent | ⟨t', ht', hle, -⟩
    · exact h.past u (hsame.symm.trans hu)
    · rw [Memory.lastUpdateAt_absent habsent] at hu
      cases hu
    · cases ht'.symm.trans hu
      exact hle
  case timely =>
    intro i
    rw [hmemory]
    exact (Shared.always_step h.timely t i).mono fun c hc => hc.run _

theorem InTime.step (h : InTime path s) (ha : Admits path s e) : InTime path (s.step e) := by
  cases e with
  | tick now =>
    exact ⟨h.valid, h.fielded, h.issued, fun u hu => Instant.le_trans (h.past u hu) ha,
      fun i => (h.timely i).mono fun c hc => hc.later ha⟩
  | begin i r operation => exact h.begin ha
  | turn t => exact h.turn ha

theorem InTime.run (h : InTime path s) (ha : AdmitsAll path s events) : InTime path (s.run events) := by
  induction events generalizing s with
  | nil => exact h
  | cons e events ih => exact ih (h.step ha.1) ha.2

/-! ### Times of stored statuses -/

theorem InTime.lastUpdateAt_step (h : InTime path s) (ha : Admits path s e)
    (hkept : (s.step e).shared.memory.objects.find? path ≠ none) {u : Instant}
    (hu : s.shared.memory.lastUpdateAt path = some u) :
    ∃ t, (s.step e).shared.memory.lastUpdateAt path = some t ∧ u ≤ t := by
  rcases h.advances ha with hsame | habsent | ⟨t, ht, -, hle⟩
  · exact ⟨u, hsame.trans hu, Instant.le_refl u⟩
  · exact absurd habsent hkept
  · exact ⟨t, ht, hle u hu⟩

theorem InTime.lastUpdateAt_run (h : InTime path s) (ha : AdmitsAll path s events)
    (hkept : ∀ past, past <+: events → (s.run past).shared.memory.objects.find? path ≠ none) {u : Instant}
    (hu : s.shared.memory.lastUpdateAt path = some u) :
    ∃ t, (s.run events).shared.memory.lastUpdateAt path = some t ∧ u ≤ t := by
  induction events generalizing s u with
  | nil => exact ⟨u, hu, Instant.le_refl u⟩
  | cons e events ih =>
    obtain ⟨u', hu', hle⟩ := h.lastUpdateAt_step ha.1 (hkept [e] (List.prefix_append [e] events)) hu
    have hkept' : ∀ past, past <+: events → ((s.step e).run past).shared.memory.objects.find? path ≠ none :=
      fun past hpast => hkept (e :: past) (List.prefix_cons_inj e |>.2 hpast)
    obtain ⟨t, ht, hle'⟩ := ih (h.step ha.1) ha.2 hkept' hu'
    exact ⟨t, ht, Instant.le_trans hle hle'⟩

/-- While the clock does not go back and every recording has a version that the store had returned when the clock was
read, at a time that does not overrun its second, the time of the stored status does not go back as long as the object
is stored. -/
theorem lastUpdateAt_le_run (path : String) (clock : Instant) (before after : List (Event ι))
    (ha : AdmitsAll path (start clock) (before ++ after))
    (hkept : ∀ past, past <+: after →
      ((start clock : Timed ι).run (before ++ past)).shared.memory.objects.find? path ≠ none)
    (u : Instant) (hu : ((start clock : Timed ι).run before).shared.memory.lastUpdateAt path = some u) :
    ∃ t, ((start clock : Timed ι).run (before ++ after)).shared.memory.lastUpdateAt path = some t ∧ u ≤ t := by
  obtain ⟨hbefore, hafter⟩ := admitsAll_append.1 ha
  simp only [run_append] at hkept ⊢
  exact ((inTime_start path clock).run hbefore).lastUpdateAt_run hafter hkept hu

/-- A failure that is seen before a success and written after it. -/
def lateFailure (early late : Instant) : List (Event Bool) :=
  [.turn (.other (.call (.create ⟨some Registry.types, Tended.createdRegistry.metadata,
      .object Tended.createdRegistry.contents.fields⟩))),
    .tick early, .begin false (.ofConfiguration .default)
      (.recordFailure (.registry Tended.createdRegistry) "disk full"),
    .tick late, .begin true (.ofConfiguration .default)
      (.recordSuccess (.registry Tended.createdRegistry)),
    .turn (.pass true)]

theorem admitsAll_lateFailure :
    AdmitsAll Tended.registryKey.path (start default)
      (lateFailure (Tended.second 1) (Tended.second 2) ++ [.turn (.pass false)]) := by
  refine ⟨⟨_, rfl⟩, .inl (by decide), ?_, .inl (by decide), ?_, trivial, trivial, trivial⟩
  · rintro o k ⟨⟩ - -
    exact ⟨rfl, "1", List.mem_singleton.2 rfl, rfl⟩
  · rintro o k ⟨⟩ - -
    exact ⟨rfl, "1", List.mem_singleton.2 rfl, rfl⟩

theorem lastUpdateAt_lateFailure :
    ∃ t, ((start default).run
        (lateFailure (Tended.second 1) (Tended.second 2) ++ [.turn (.pass false)])).shared.memory.lastUpdateAt
      Tended.registryKey.path = some t ∧ Tended.second 2 ≤ t := by
  refine lastUpdateAt_le_run Tended.registryKey.path default (lateFailure (Tended.second 1) (Tended.second 2))
    [.turn (.pass false)] admitsAll_lateFailure ?_ _ ?_
  · intro past hpast
    rcases List.prefix_cons_iff.1 hpast with rfl | ⟨rest, rfl, hrest⟩
    · decide
    · cases List.prefix_nil.1 hrest
      decide
  · exact Memory.lastUpdateAt_of_statusAt (.success (Tended.second 2)) rfl

end Timed

end Reconciliation
