import Reconciliation.Proofs.Pass.Converge
/-!
# No update is lost

An update carries the version that its own lookup gave. Whatever changes the object after the lookup, be it a
removal and a new creation, takes a version that was never issued before, so the update is refused. Hence
converging an object never writes over a change that it has not seen, in whatever order it is interleaved
with other passes and other clients (`converge_interleaved`).
-/

namespace Reconciliation

namespace Memory

variable {m : Memory} {actions : List Action} {k : ObjectKey} {o stored : DynamicObject}

/-- An update with the version of a lookup succeeds if nothing has changed the object since. -/
theorem update_of_not_happens (hk : storeKey o = .ok k) (hs : m.stored k = some stored)
    (hv : o.metadata.resourceVersion = stored.metadata.resourceVersion)
    (h : ¬ Happens (Changes k.path) m actions) :
    (update o (m.run actions)).1 = .ok (updatedObject stored o (m.run actions).nextVersion) := by
  have hnow : (m.run actions).stored k = some stored := (find?_run h).trans hs
  rw [update_present hk hnow (checkVersion_same k hv.symm)]

/-- An update with the version of a lookup is refused if anything has changed the object since, a removal
and a new creation included. -/
theorem update_of_happens (hm : m.Valid) (hk : storeKey o = .ok k) (hs : m.stored k = some stored)
    (hv : o.metadata.resourceVersion = stored.metadata.resourceVersion)
    (h : Happens (Changes k.path) m actions) :
    ((m.run actions).stored k = none →
      (update o (m.run actions)).1 = .error (.notFound k.kind.kind k.name)) ∧
    ((m.run actions).stored k ≠ none →
      ∃ text, (update o (m.run actions)).1 = .error (.conflict k.kind.kind k.name text)) := by
  obtain ⟨n, -, hle, hn⟩ := hm.versioned k.path stored hs
  constructor
  · intro hnone
    rw [update_absent hk hnone]
  · intro hsome
    obtain ⟨now, hnow⟩ := Option.ne_none_iff_exists'.1 hsome
    -- What is there now has a later version than every object before the run.
    obtain ⟨n', hlt, hn'⟩ := newer_run_of_happens hle h now hnow
    have hstale : now.metadata.resourceVersion ≠ some (toString n) := by
      rw [hn']
      intro heq
      have hsame := toString_version_inj (Option.some.inj heq)
      omega
    exact ⟨_, congrArg Prod.fst (update_stale hk hnow (checkVersion_stale k (hv.trans hn) hstale))⟩

end Memory

namespace Synchronize

theorem afterWrite_ok {o : ManagedObject} {answer : Except StoreError DynamicObject} {w : DynamicObject}
    (h : answer = .ok w) : (afterWrite o answer).2 = .ok () := by
  rw [h, afterWrite]

theorem afterWrite_error {o : ManagedObject} {answer : Except StoreError DynamicObject} {e : StoreError}
    (h : answer = .error e) : (afterWrite o answer).2 = .error (.store e) := by
  rw [h, afterWrite]

section Interleaved

variable {ι : Type} [DecidableEq ι] {s : Shared ι (ManagedObject × Except ReconcileError Unit)} {i : ι}
  {o : ManagedObject} {k : ObjectKey} {u stored : DynamicObject}

/-- A pass whose call fails leaves what is stored and the version as they are. -/
theorem step_failed {c : StoreCall}
    {next : c.Answer → Dialogue StoreCall.Answer (ManagedObject × Except ReconcileError Unit)}
    (hpass : s.passes i = .ask c next) (herror : c.error? (Memory.respond c s.memory).1 ≠ none) :
    (s.step (.pass i)).memory.objects = s.memory.objects ∧
    (s.step (.pass i)).memory.version = s.memory.version := by
  rw [Shared.step_pass hpass]
  exact (Memory.response c s.memory).eq_of_error herror

/-- The last turn of a pass that is about to update what it found. -/
theorem step_update {looked : Memory} {actions : List Memory.Action} (hlooked : looked.Valid)
    (hs : s.memory = looked.run actions)
    (hpass : s.passes i = .ask (.update u) fun answer => .done (afterWrite o answer))
    (hk : storeKey u = .ok k) (hstored : looked.stored k = some stored)
    (hv : u.metadata.resourceVersion = stored.metadata.resourceVersion) :
    let changed := Memory.Happens (Memory.Changes k.path) looked actions
    ∃ r, (s.step (.pass i)).passes i = .done r ∧
      (r.2 = .ok () ↔ ¬ changed) ∧
      (changed → s.memory.stored k = none → r.2 = .error (.store (.notFound k.kind.kind k.name))) ∧
      (changed → s.memory.stored k ≠ none →
        ∃ text, r.2 = .error (.store (.conflict k.kind.kind k.name text))) ∧
      (r.2 ≠ .ok () → (s.step (.pass i)).memory.objects = s.memory.objects ∧
        (s.step (.pass i)).memory.version = s.memory.version) := by
  intro changed
  refine ⟨_, Shared.passes_step_self hpass, ?_⟩
  by_cases hchange : changed
  · have hupdate := Memory.update_of_happens hlooked hk hstored hv hchange
    rw [← hs] at hupdate
    obtain ⟨e, herror⟩ : ∃ e, (Memory.update u s.memory).1 = .error e := by
      by_cases hnone : s.memory.stored k = none
      · exact ⟨_, hupdate.1 hnone⟩
      · obtain ⟨text, htext⟩ := hupdate.2 hnone
        exact ⟨_, htext⟩
    refine ⟨?_, ?_, ?_, ?_⟩
    · simp [afterWrite_error (o := o) herror, hchange, Memory.respond]
    · exact fun _ hnone => afterWrite_error (hupdate.1 hnone)
    · intro _ hsome
      obtain ⟨text, htext⟩ := hupdate.2 hsome
      exact ⟨text, afterWrite_error htext⟩
    · intro _
      refine step_failed hpass ?_
      simp [Memory.respond, herror, StoreCall.error?]
  · have hupdate := Memory.update_of_not_happens hk hstored hv hchange
    rw [← hs] at hupdate
    have hok : (afterWrite o (Memory.respond (.update u) s.memory).1).2 = .ok () := afterWrite_ok hupdate
    exact ⟨iff_of_true hok hchange, fun h => absurd h hchange, fun h => absurd h hchange,
      fun h => absurd hok h⟩

/-- The last turn of a pass that is about to create what it did not find. -/
theorem step_create (hpass : s.passes i = .ask (.create u) fun answer => .done (afterWrite o answer))
    (hk : storeKey u = .ok k) :
    ∃ r, (s.step (.pass i)).passes i = .done r ∧
      (r.2 = .ok () ↔ s.memory.stored k = none) ∧
      (s.memory.stored k ≠ none → r.2 = .error (.store (.alreadyExists k.kind.kind k.name))) ∧
      (r.2 ≠ .ok () → (s.step (.pass i)).memory.objects = s.memory.objects ∧
        (s.step (.pass i)).memory.version = s.memory.version) := by
  refine ⟨_, Shared.passes_step_self hpass, ?_⟩
  cases hs : s.memory.stored k with
  | none =>
    have hok : (afterWrite o (Memory.respond (.create u) s.memory).1).2 = .ok () :=
      afterWrite_ok (congrArg Prod.fst (Memory.create_absent hk hs))
    exact ⟨iff_of_true hok rfl, fun h => absurd rfl h, fun h => absurd hok h⟩
  | some stored =>
    have herror := congrArg Prod.fst (Memory.create_present hk hs)
    have hexists : (afterWrite o (Memory.respond (.create u) s.memory).1).2 =
        .error (.store (.alreadyExists k.kind.kind k.name)) := afterWrite_error herror
    refine ⟨?_, fun _ => hexists, fun _ => step_failed hpass ?_⟩
    · simp [hexists]
    · simp [Memory.respond, herror, StoreCall.error?]

/-- A pass makes its lookup after some turns of others, and its write after more of them. If it updates, it
succeeds exactly when nothing changed the object since the lookup; else it meets a conflict, or misses the
object if there is none any more. If it creates, it succeeds exactly when there is no object. A failure leaves
what is stored and the version as they are. -/
theorem converge_interleaved (s : Shared ι (ManagedObject × Except ReconcileError Unit))
    (hreachable : s.memory.Reachable) (i : ι) (clock : Instant) (p : Placement) (o : ManagedObject)
    {k : ObjectKey} {d : DynamicObject} (hpass : s.passes i = (converge p o).calls clock)
    (hid : identify (prepare p o) = .ok (k, d)) {before between : List (Turn ι)}
    (hbefore : .pass i ∉ before) (hbetween : .pass i ∉ between) :
    let looked := (s.run before).step (.pass i)
    let acting := looked.run between
    let acted := acting.step (.pass i)
    let changed := Memory.Happens (Memory.Changes k.path) looked.memory (looked.actions between)
    ∃ c next r, acting.passes i = .ask c next ∧ acted.passes i = .done r ∧
      ((∃ u, c = .update u ∧ storeKey u = .ok k) ∧ looked.memory.stored k ≠ none ∧
          (r.2 = .ok () ↔ ¬ changed) ∧
          (changed → acting.memory.stored k = none →
            r.2 = .error (.store (.notFound k.kind.kind k.name))) ∧
          (changed → acting.memory.stored k ≠ none →
            ∃ text, r.2 = .error (.store (.conflict k.kind.kind k.name text))) ∨
        (∃ u, c = .create u ∧ storeKey u = .ok k) ∧ looked.memory.stored k = none ∧
          (r.2 = .ok () ↔ acting.memory.stored k = none) ∧
          (acting.memory.stored k ≠ none →
            r.2 = .error (.store (.alreadyExists k.kind.kind k.name)))) ∧
      (r.2 ≠ .ok () → acted.memory.objects = acting.memory.objects ∧
        acted.memory.version = acting.memory.version) := by
  intro looked acting acted changed
  have hkey := storeKey_of_identify hid
  have hask : (s.run before).passes i = .ask (.get k) (afterLookup (prepare p o) d) := by
    rw [Shared.passes_run hbefore, hpass, calls_converge hid]
  have hleft : acting.passes i =
      afterLookup (prepare p o) d (Memory.respond (.get k) (s.run before).memory).1 := by
    rw [Shared.passes_run hbetween, Shared.passes_step_self hask]
  have hlooked : looked.memory = (Memory.respond (.get k) (s.run before).memory).2 := by
    rw [show looked = _ from Shared.step_pass hask]
  have hvalid : looked.memory.Valid :=
    (Shared.reachable_run (Shared.reachable_run hreachable before) [.pass i]).valid
  cases hs : (s.run before).memory.stored k with
  | some stored =>
    rw [Memory.respond, Memory.get_present hs] at hleft hlooked
    have hfound : looked.memory.stored k = some stored := by
      rw [hlooked, Memory.record_stored, hs]
    obtain ⟨r, hr, hok, hnone, hsome, hkeep⟩ := step_update hvalid (Shared.memory_run looked between) hleft
      ((storeKey_carrying d stored).trans hkey) hfound rfl
    exact ⟨_, _, r, hleft, hr, .inl ⟨⟨_, rfl, hkey⟩, by simp [hfound], hok, hnone, hsome⟩, hkeep⟩
  | none =>
    rw [Memory.respond, Memory.get_absent hs] at hleft hlooked
    have hmissing : looked.memory.stored k = none := by
      rw [hlooked, Memory.record_stored, hs]
    obtain ⟨r, hr, hok, hsome, hkeep⟩ := step_create hleft hkey
    exact ⟨_, _, r, hleft, hr, .inr ⟨⟨d, rfl, hkey⟩, hmissing, hok, hsome⟩, hkeep⟩

end Interleaved

/-- Two passes that converge `settings`, which are stored already. -/
def twoPasses : Shared Bool (ManagedObject × Except ReconcileError Unit) where
  memory := Memory.run {} [.call (.create storedSettings)]
  passes _ := (converge unplaced settings).calls default

/-- The other pass makes its lookup, and somebody removes the object and creates it again. -/
def recreation : List (Turn Bool) :=
  [.pass false, .other (.call (.delete storedSettings)), .other (.call (.create storedSettings))]

theorem converge_recreation :
    let acting := (twoPasses.step (.pass true)).run recreation
    ∃ r text, (acting.step (.pass true)).passes true = .done r ∧
      r.2 = .error (.store (.conflict "ConfigMap" "settings" text)) := by
  intro acting
  have hbefore : Turn.pass true ∉ ([] : List (Turn Bool)) := List.not_mem_nil
  have hbetween : Turn.pass true ∉ recreation := by simp [recreation]
  obtain ⟨c, next, r, -, hr, hcases, -⟩ :=
    converge_interleaved twoPasses ⟨_, rfl⟩ true default unplaced settings rfl identify_settings hbefore hbetween
  have hfound : ((twoPasses.step (.pass true)).memory.stored settingsKey).isSome := rfl
  have hrecreated : (acting.memory.stored settingsKey).isSome := rfl
  have hchanged : Memory.Happens (Memory.Changes settingsKey.path) (twoPasses.step (.pass true)).memory
      ((twoPasses.step (.pass true)).actions recreation) :=
    ⟨[.call (.get settingsKey)], .delete storedSettings, [.call (.create storedSettings)], rfl, rfl, rfl⟩
  rcases hcases with ⟨-, -, -, -, hconflict⟩ | ⟨-, hmissing, -⟩
  · obtain ⟨text, htext⟩ := hconflict hchanged (Option.isSome_iff_ne_none.1 hrecreated)
    exact ⟨r, text, hr, htext⟩
  · exact absurd hmissing (Option.isSome_iff_ne_none.1 hfound)

end Synchronize

end Reconciliation
