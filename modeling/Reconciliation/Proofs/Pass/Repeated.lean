import Reconciliation.Proofs.Pass.Presence
import Reconciliation.Proofs.Pass.Rendered
import Reconciliation.Proofs.Pass.Sends
/-!
# Batches of repeated objects

A batch may list objects that are filed under one path. The later ones find what the earlier ones stored: converging
updates it, so that the last object counts, and a creation leaves it alone, so that the first one does. In either case
there is one stored object for each path, however often it is listed (`Reconciler.repeated_last_first`).

What both have in common is that their operation leaves an object under the path of the one it is given, and of an
object that was there already something (`Establishes`). The rest of a batch cannot take that back.
-/

namespace Reconciliation

/-- A pass leads from a reachable store to a reachable one. -/
theorem Pass.reachable_run {α : Type} (pass : Pass α) {s : Surroundings Memory} (h : s.store.Reachable) :
    (Surroundings.run Memory.respond pass s).2.store.Reachable := by
  induction pass generalizing s with
  | done a => exact h
  | ask e next ih =>
    cases e with
    | store c => exact ih _ (h.run [.call c])
    | notify n => exact ih () h
    | now => exact ih s.clock h
    | measure n => exact ih () h

namespace DynamicObject

/-- The payloads of two objects have fields, and the same but for the status. -/
def SameFields (a b : DynamicObject) : Prop :=
  ∃ fs gs, a.data = .object fs ∧ b.data = .object gs ∧ Table.erase fs "status" = Table.erase gs "status"

/-- Two objects have the same identifier and the same status. -/
structure SameRecord (a b : DynamicObject) : Prop where
  uid : a.metadata.uid = b.metadata.uid
  status : a.status? = b.status?

end DynamicObject

namespace Memory

variable {old : Option DynamicObject} {d : DynamicObject}

theorem sameFields_converged (hd : d.HasFields) (version : String) : (converged old d version).SameFields d := by
  obtain ⟨fs, hfs⟩ := hd
  obtain ⟨gs, hgs, -, herase⟩ := DynamicObject.withStatus_data hfs (old.bind DynamicObject.status?)
  exact ⟨gs, fs, hgs, hfs, herase⟩

theorem sameRecord_converged {stored : DynamicObject} (hd : d.HasFields) (version : String) :
    (converged (some stored) d version).SameRecord stored where
  uid := rfl
  status := by
    obtain ⟨fs, hfs⟩ := hd
    exact DynamicObject.status?_withStatus hfs _

end Memory

namespace Synchronize

open Surroundings (run)

variable {p : Placement} {o : ManagedObject} {os : List ManagedObject} {k : ObjectKey} {d : DynamicObject}
  {operation : ManagedObject → Pass (ManagedObject × Except ReconcileError Unit)}
  {Kept : DynamicObject → DynamicObject → Prop}

/-! ### One object -/

/-- Alone with a store, an operation that succeeds on every object that is identified as it is prepared, and then leaves
an object under its path, in which something is kept of the one that was there before. -/
structure Establishes (p : Placement) (operation : ManagedObject → Pass (ManagedObject × Except ReconcileError Unit))
    (Kept : DynamicObject → DynamicObject → Prop) : Prop where
  confined : Confined p operation
  ok : ∀ {o k d} s, identify (prepare p o) = .ok (k, d) → (run Memory.respond (operation o) s).1.2 = .ok ()
  present : ∀ {o k d} s, identify (prepare p o) = .ok (k, d) →
    ((run Memory.respond (operation o) s).2.store.stored k).isSome
  kept : ∀ {o k d} s v, identify (prepare p o) = .ok (k, d) → s.store.stored k = some v →
    ∃ w, (run Memory.respond (operation o) s).2.store.stored k = some w ∧ Kept w v
  refl : ∀ v, Kept v v
  trans : ∀ {w v u}, Kept w v → Kept v u → Kept w u

theorem stored_converge (h : identify (prepare p o) = .ok (k, d)) (s : Surroundings Memory) :
    (run Memory.respond (converge p o) s).2.store.stored k =
      some (Memory.converged (s.store.stored k) d s.store.nextVersion) := by
  obtain ⟨-, hobjects, -⟩ := run_converge h s
  rw [Memory.stored, hobjects, Table.find?_insert_self]

theorem establishes_converge (p : Placement) : Establishes p (converge p) DynamicObject.SameRecord where
  confined := confined_converge p
  ok s h := congrArg Prod.snd (run_converge h s).1
  present s h := by rw [stored_converge h, Option.isSome_some]
  kept s v h hv := by
    rw [stored_converge h, hv]
    exact ⟨_, rfl, Memory.sameRecord_converged (hasFields_of_identify h) _⟩
  refl _ := ⟨rfl, rfl⟩
  trans h h' := ⟨h.uid.trans h'.uid, h.status.trans h'.status⟩

theorem stored_ensurePresent (h : identify (prepare p o) = .ok (k, d)) {s : Surroundings Memory}
    (hs : s.store.stored k = none) :
    (run Memory.respond (ensurePresent p o) s).2.store.stored k =
      some (Memory.converged none d s.store.nextVersion) := by
  rw [(run_ensurePresent_absent h hs).2, ← Memory.newObject_eq_converged]
  exact Table.find?_insert_self _ _ _

theorem still_ensurePresent (h : identify (prepare p o) = .ok (k, d)) {s : Surroundings Memory} {v : DynamicObject}
    (hs : s.store.stored k = some v) : (run Memory.respond (ensurePresent p o) s).2.store.stored k = some v := by
  rw [(run_ensurePresent_present h hs).2]
  exact hs

theorem establishes_ensurePresent (p : Placement) : Establishes p (ensurePresent p) Eq where
  confined := confined_ensurePresent p
  ok {o k d} s h := by
    cases hs : s.store.stored k with
    | none => exact congrArg Prod.snd (run_ensurePresent_absent h hs).1
    | some v => exact congrArg Prod.snd (run_ensurePresent_present h hs).1
  present {o k d} s h := by
    cases hs : s.store.stored k with
    | none => rw [stored_ensurePresent h hs, Option.isSome_some]
    | some v => rw [still_ensurePresent h hs, Option.isSome_some]
  kept s v h hv := ⟨v, still_ensurePresent h hv, rfl⟩
  refl _ := rfl
  trans := Eq.trans

/-! ### All objects -/

/-- The paths that the objects of a list are filed under as they are prepared, in order. -/
def paths (p : Placement) (os : List ManagedObject) : List String :=
  os.filterMap fun o => (ObjectKey.of (prepare p o)).toOption.map ObjectKey.path

theorem mem_paths {path : String} : path ∈ paths p os ↔ ∃ o ∈ os, (prepare p o).FiledUnder path := by
  simp only [paths, List.mem_filterMap, ManagedObject.FiledUnder]
  refine exists_congr fun o => and_congr_right fun _ => ?_
  cases ObjectKey.of (prepare p o) <;> simp [Except.toOption]

/-- Objects that are identified as they are prepared. -/
def Identified (p : Placement) (os : List ManagedObject) : Prop :=
  ∀ o ∈ os, ∃ k d, identify (prepare p o) = .ok (k, d)

theorem Identified.split {front rest : List ManagedObject} (hids : Identified p (front ++ o :: rest)) :
    Identified p front ∧ (∃ k d, identify (prepare p o) = .ok (k, d)) ∧ Identified p rest := by
  obtain ⟨hfront, hids⟩ := List.forall_mem_append.1 hids
  obtain ⟨hid, hrest⟩ := List.forall_mem_cons.1 hids
  exact ⟨hfront, hid, hrest⟩

theorem Establishes.ok_batch (h : Establishes p operation Kept) (hids : Identified p os) (s : Surroundings Memory) :
    (run Memory.respond (batch operation os) s).1.2 = .ok () := by
  induction os generalizing s with
  | nil => rfl
  | cons o os ih =>
    obtain ⟨⟨k, d, hid⟩, hids⟩ := List.forall_mem_cons.1 hids
    have hrun : run Memory.respond (batch operation (o :: os)) s = _ := (run_batch_of_ok os (h.ok s hid)).1
    rw [hrun]
    exact ih hids _

theorem Establishes.others_batch (h : Establishes p operation Kept) (hids : Identified p os) (s : Surroundings Memory)
    {path : String} (hpath : path ∉ paths p os) :
    (run Memory.respond (batch operation os) s).2.store.objects.find? path = s.store.objects.find? path := by
  refine (run_batch_confined h.confined os s (h.ok_batch hids s)).2 path fun o ho hfiled => ?_
  exact hpath (mem_paths.2 ⟨o, ho, hfiled⟩)

/-- What is kept of an object by each operation is kept by a batch. -/
theorem Establishes.kept_batch (h : Establishes p operation Kept) (hids : Identified p os) (s : Surroundings Memory)
    {path : String} {v : DynamicObject} (hv : s.store.objects.find? path = some v) :
    ∃ w, (run Memory.respond (batch operation os) s).2.store.objects.find? path = some w ∧ Kept w v := by
  induction os generalizing s v with
  | nil => exact ⟨v, hv, h.refl v⟩
  | cons o os ih =>
    obtain ⟨⟨k, d, hid⟩, hids⟩ := List.forall_mem_cons.1 hids
    have hok := h.ok s hid
    have hrun : run Memory.respond (batch operation (o :: os)) s = _ := (run_batch_of_ok os hok).1
    -- The first object has this path, and its operation keeps the part, or it has another, and nothing happens here.
    obtain ⟨v', hv', hkept⟩ :
        ∃ v', (run Memory.respond (operation o) s).2.store.objects.find? path = some v' ∧ Kept v' v := by
      by_cases hpath : path = k.path
      · subst hpath
        exact h.kept s v hid hv
      · obtain ⟨k', d', hid', hothers⟩ := h.confined o s hok
        cases hid.symm.trans hid'
        exact ⟨v, (hothers path hpath).trans hv, h.refl v⟩
    obtain ⟨w, hw, hkept'⟩ := ih hids _ hv'
    rw [hrun]
    exact ⟨w, hw, h.trans hkept' hkept⟩

theorem run_batch_append {xs ys : List ManagedObject} {s : Surroundings Memory}
    (hok : (run Memory.respond (batch operation xs) s).1.2 = .ok ()) :
    (run Memory.respond (batch operation (xs ++ ys)) s).2 =
      (run Memory.respond (batch operation ys) (run Memory.respond (batch operation xs) s).2).2 := by
  have hfirst : (run Memory.respond (batch operation xs) s).1 =
    ((run Memory.respond (batch operation xs) s).1.1, .ok ()) := Prod.ext rfl hok
  rw [batch_append, Dialogue.bind_eq, Surroundings.run_andThen, hfirst]
  simp only [Dialogue.bind_eq, Dialogue.pure_eq, Surroundings.run_andThen]
  rfl

/-- A batch seen from one of its objects: those before it, the object, and those after it. -/
theorem Establishes.run_batch_split (h : Establishes p operation Kept) {front rest : List ManagedObject}
    (hids : Identified p (front ++ o :: rest)) (s : Surroundings Memory) :
    let reached := (run Memory.respond (batch operation front) s).2
    (run Memory.respond (batch operation (front ++ o :: rest)) s).2 =
      (run Memory.respond (batch operation rest) (run Memory.respond (operation o) reached).2).2 := by
  intro reached
  obtain ⟨hfront, ⟨k, d, hid⟩, -⟩ := hids.split
  have hrun : run Memory.respond (batch operation (o :: rest)) reached = _ :=
    (run_batch_of_ok rest (h.ok reached hid)).1
  rw [run_batch_append (h.ok_batch hfront s), hrun]
  rfl

/-- There is an object under a path after a batch exactly if there was one before or one of the batch belongs there. -/
theorem Establishes.isSome_batch_iff (h : Establishes p operation Kept) (hids : Identified p os)
    (s : Surroundings Memory) (path : String) :
    ((run Memory.respond (batch operation os) s).2.store.objects.find? path).isSome ↔
      (s.store.objects.find? path).isSome ∨ path ∈ paths p os := by
  constructor
  · intro hafter
    by_cases hpath : path ∈ paths p os
    · exact .inr hpath
    · rw [h.others_batch hids s hpath] at hafter
      exact .inl hafter
  · rintro (hbefore | hpath)
    · obtain ⟨v, hv⟩ := Option.isSome_iff_exists.1 hbefore
      obtain ⟨w, hw, -⟩ := h.kept_batch hids s hv
      rw [hw, Option.isSome_some]
    · obtain ⟨o, ho, hfiled⟩ := mem_paths.1 hpath
      obtain ⟨front, rest, rfl⟩ := List.append_of_mem ho
      obtain ⟨-, ⟨k, d, hid⟩, hrest⟩ := hids.split
      rw [filedUnder_iff (identify_eq_ok.1 hid).1] at hfiled
      subst hfiled
      -- There is an object once it was the turn of this one, and the rest of the batch leaves one there.
      obtain ⟨v, hv⟩ := Option.isSome_iff_exists.1 (h.present (run Memory.respond (batch operation front) s).2 hid)
      obtain ⟨w, hw, -⟩ := h.kept_batch hrest _ hv
      rw [h.run_batch_split hids, hw, Option.isSome_some]

/-- What a batch over objects comes to in any case: nothing happens elsewhere, and there is one more object for each new
path. -/
structure Covers (paths : List String) (before after : Memory) : Prop where
  others : ∀ path ∉ paths, after.objects.find? path = before.objects.find? path
  length : after.objects.length =
    before.objects.length + (paths.dedup.filter fun path => (before.objects.find? path).isNone).length

theorem Establishes.covers_batch (h : Establishes p operation Kept) (hids : Identified p os) {s : Surroundings Memory}
    (hreachable : s.store.Reachable) :
    Covers (paths p os) s.store (run Memory.respond (batch operation os) s).2.store where
  others _ hpath := h.others_batch hids s hpath
  length := Table.length_of_find?_isSome_iff hreachable.valid.ordered
    (Pass.reachable_run (batch operation os) hreachable).valid.ordered (h.isSome_batch_iff hids s)

/-! ### The last object and the first -/

/-- Of the objects that are filed under one path the last one counts, under one identifier and one status from the first
on. -/
structure LastWins (p : Placement) (os : List ManagedObject) (reached : List ManagedObject → Memory) : Prop where
  last : ∀ front o rest k d, os = front ++ o :: rest → identify (prepare p o) = .ok (k, d) → k.path ∉ paths p rest →
    ∃ w, (reached os).stored k = some w ∧ w.SameFields d
  record : ∀ front rest path v, os = front ++ rest → (reached front).objects.find? path = some v →
    v.metadata.uid ≠ none ∧ ∃ w, (reached os).objects.find? path = some w ∧ w.SameRecord v

/-- Of the objects that are filed under one path the first one counts, unless there was one already. -/
structure FirstWins (p : Placement) (os : List ManagedObject) (before after : Memory) : Prop where
  first : ∀ front o rest k d, os = front ++ o :: rest → identify (prepare p o) = .ok (k, d) → k.path ∉ paths p front →
    before.stored k = none → ∃ w, after.stored k = some w ∧ w.SameFields d ∧ w.status? = none
  kept : ∀ path v, before.objects.find? path = some v → after.objects.find? path = some v

theorem lastWins_batch (hids : Identified p os) {s : Surroundings Memory} (hreachable : s.store.Reachable) :
    LastWins p os fun os => (run Memory.respond (batch (converge p) os) s).2.store := by
  have h := establishes_converge p
  constructor
  case last =>
    rintro front o rest k d rfl hid hlast
    obtain ⟨-, -, hrest⟩ := hids.split
    -- None of the objects after the last one can reach what it stored.
    have hstored := stored_converge hid (run Memory.respond (batch (converge p) front) s).2
    rw [Memory.stored, ← h.others_batch hrest _ hlast, ← h.run_batch_split hids] at hstored
    exact ⟨_, hstored, Memory.sameFields_converged (hasFields_of_identify hid) _⟩
  case record =>
    rintro front rest path v rfl hv
    obtain ⟨hfront, hrest⟩ := List.forall_mem_append.1 hids
    have hvalid := (Pass.reachable_run (batch (converge p) front) hreachable).valid
    refine ⟨Option.isSome_iff_ne_none.1 (hvalid.identified path v hv), ?_⟩
    rw [run_batch_append (h.ok_batch hfront s)]
    exact h.kept_batch hrest _ hv

theorem firstWins_batch (hids : Identified p os) (s : Surroundings Memory) :
    FirstWins p os s.store (run Memory.respond (batch (ensurePresent p) os) s).2.store := by
  have h := establishes_ensurePresent p
  have hkept {os : List ManagedObject} (hids : Identified p os) (s : Surroundings Memory) {path : String}
      {v : DynamicObject} (hv : s.store.objects.find? path = some v) :
      (run Memory.respond (batch (ensurePresent p) os) s).2.store.objects.find? path = some v := by
    obtain ⟨w, hw, rfl⟩ := h.kept_batch hids s hv
    exact hw
  constructor
  case first =>
    rintro front o rest k d rfl hid hfirst habsent
    obtain ⟨hfront, -, hrest⟩ := hids.split
    have hstill : (run Memory.respond (batch (ensurePresent p) front) s).2.store.stored k = none :=
      (h.others_batch hfront s hfirst).trans habsent
    have hstored := hkept hrest _ (stored_ensurePresent hid hstill)
    rw [← h.run_batch_split hids] at hstored
    refine ⟨_, hstored, Memory.sameFields_converged (hasFields_of_identify hid) _, ?_⟩
    rw [← Memory.newObject_eq_converged]
    exact Memory.status?_newObject d _
  case kept =>
    intro path v hv
    exact hkept hids s hv

end Synchronize

namespace Reconciler

open Surroundings (run)
open Synchronize

/-- Batches over identified objects succeed, alone with any reachable store. Of the objects that are filed under one path
converging leaves the last one, and a creation the first one or what was there already. -/
theorem repeated_last_first (r : Reconciler) (owner : Option ManagedObject) (nameSpace : Option String)
    (os : List ManagedObject) (s : Surroundings Memory) (hreachable : s.store.Reachable)
    (hids : Identified ⟨r.stamper, owner, nameSpace⟩ os) :
    let p : Placement := ⟨r.stamper, owner, nameSpace⟩
    let converged os := run Memory.respond (r.convergeAll owner nameSpace os) s
    let created := run Memory.respond (r.ensureAllPresent owner nameSpace os) s
    ((converged os).1.2 = .ok () ∧ LastWins p os (fun os => (converged os).2.store) ∧
      Covers (paths p os) s.store (converged os).2.store) ∧
    created.1.2 = .ok () ∧ FirstWins p os s.store created.2.store ∧
      Covers (paths p os) s.store created.2.store := by
  intro p converged created
  have hconverge := establishes_converge p
  have hcreate := establishes_ensurePresent p
  refine ⟨⟨hconverge.ok_batch hids s, lastWins_batch hids hreachable, ?_⟩, ?_⟩
  · exact hconverge.covers_batch hids hreachable
  · exact ⟨hcreate.ok_batch hids s, firstWins_batch hids s, hcreate.covers_batch hids hreachable⟩

/-- A configuration map with one entry, in the form in which it is handed over. -/
def handedOver (value : String) : DynamicObject :=
  { storedSettings with data := .object [("data", .object [("key", .string value)])] }

theorem repeated_last_first_settings :
    let os : List ManagedObject := [.dynamic (handedOver "one"), .dynamic (handedOver "two")]
    let converged := run Memory.respond ((ofConfiguration .default).convergeAll none none os) emptyStore
    let created := run Memory.respond ((ofConfiguration .default).ensureAllPresent none none os) emptyStore
    (∃ w, converged.2.store.stored settingsKey = some w ∧ w.SameFields (handedOver "two")) ∧
      (∃ w, created.2.store.stored settingsKey = some w ∧ w.SameFields (handedOver "one")) ∧
      converged.2.store.objects.length = 1 := by
  intro os converged created
  have hone : identify (prepare unplaced (.dynamic (handedOver "one"))) = .ok (settingsKey, handedOver "one") := rfl
  have htwo : identify (prepare unplaced (.dynamic (handedOver "two"))) = .ok (settingsKey, handedOver "two") := rfl
  have hids : Identified unplaced os := by
    intro o ho
    rcases List.mem_pair.1 ho with rfl | rfl
    · exact ⟨_, _, hone⟩
    · exact ⟨_, _, htwo⟩
  obtain ⟨⟨-, hlast, hcovers⟩, -, hfirst, -⟩ :=
    repeated_last_first (ofConfiguration .default) none none os emptyStore ⟨[], rfl⟩ hids
  obtain ⟨w, hw, hfields⟩ := hlast.last [.dynamic (handedOver "one")] _ [] settingsKey _ rfl htwo List.not_mem_nil
  obtain ⟨w', hw', hfields', -⟩ := hfirst.first [] _ _ settingsKey _ rfl hone List.not_mem_nil rfl
  exact ⟨⟨w, hw, hfields⟩, ⟨w', hw', hfields'⟩, hcovers.length⟩

/-- The status of an object that is created is not stored. -/
theorem ensureAllPresent_ready :
    let created := run Memory.respond ((ofConfiguration .default).ensureAllPresent none none [.dynamic Memory.ready])
      emptyStore
    identify (prepare unplaced (.dynamic Memory.ready)) = .ok (Memory.readyKey, Memory.ready) ∧
      Memory.ready.data = .object [("status", .string "ready")] ∧
      emptyStore.store.stored Memory.readyKey = none ∧
      ∃ w, created.2.store.stored Memory.readyKey = some w ∧ w.data = .object [] :=
  ⟨rfl, rfl, rfl, _, rfl, rfl⟩

end Reconciler

end Reconciliation
