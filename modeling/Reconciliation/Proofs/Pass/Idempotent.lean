import Reconciliation.Proofs.Pass.Rendered
import Reconciliation.Proofs.Pass.Twice
import Reconciliation.Proofs.Resource.Path
/-!
# Creating and deleting twice

An object that was created, or found to be there, is still there for a second call, and one that was deleted, or found
to be missing, is still missing, so nothing is left to do for the second call (`presence_idempotent`). The second
creation starts from the object that the first one gave back, which may have another namespace, another version and
another identifier by then, and the owner may be marked now. None of these leads it to another identity: a namespace
that was put in place of another one stays when it is put again (`ObjectKey.inNamespace_again`).
-/

namespace Reconciliation

namespace ObjectKey

/-- The identity in another namespace, if one is given. -/
def inNamespace (k : ObjectKey) (target : Option String) : ObjectKey :=
  match target.filter (· != "") with
  | none => k
  | some ns => { k with nameSpace := some ns }

theorem inNamespace_again (k : ObjectKey) (target : Option String) :
    (k.inNamespace target).inNamespace target = k.inNamespace target := by
  unfold inNamespace
  cases target.filter (· != "") <;> rfl

theorem ofParts_inNamespace {types : Option TypeMeta} {m : ObjectMeta} {k : ObjectKey} (h : ofParts types m = .ok k)
    (target : Option String) : ofParts types (m.inNamespace target) = .ok (k.inNamespace target) := by
  obtain ⟨t, htypes, hkind, hname, hnameSpace⟩ := ofParts_eq_ok.1 h
  refine ofParts_eq_ok.2 ⟨t, htypes, ?_⟩
  unfold inNamespace ObjectMeta.inNamespace
  cases hns : target.filter (· != "") with
  | none => exact ⟨hkind, hname, hnameSpace⟩
  | some ns =>
    have hne : (some ns).filter (· != "") = some ns :=
      Option.filter_eq_some_iff.2 ⟨rfl, (Option.filter_eq_some_iff.1 hns).2⟩
    exact ⟨hkind, hname, hne.symm⟩

end ObjectKey

namespace Synchronize

open Surroundings (run)

variable {p : Placement} {o : ManagedObject} {k : ObjectKey} {d : DynamicObject}

/-! ### The identity on either call -/

/-- Preparing an identified object puts its identity in the other namespace. -/
theorem identify_prepare (hs : p.stamper.Discreet) (h : identify o = .ok (k, d)) :
    identify (prepare p o) =
      .ok (k.inNamespace p.nameSpace, { d with metadata := (prepare p o).metadata }) := by
  obtain ⟨hk, hd⟩ := identify_eq_ok.1 h
  refine identify_eq_ok.2 ⟨?_, ?_⟩
  · rw [key_prepare hs, moved, ObjectKey.of, ManagedObject.types_withMetadata, ManagedObject.metadata_withMetadata]
    exact ObjectKey.ofParts_inNamespace hk p.nameSpace
  · rw [prepare_eq, ManagedObject.metadata_withMetadata]
    exact ManagedObject.toDynamic_withMetadata hd _

/-- What an object takes over from a stored one is no part of its identity. -/
theorem identify_adopt (h : identify o = .ok (k, d)) (w : DynamicObject) :
    identify (adopt o w) = .ok (k, { d with metadata := (adopt o w).metadata }) := by
  rw [adopt, ManagedObject.metadata_withMetadata]
  exact identify_again h o.metadata.ownerReferences w.metadata.resourceVersion (w.metadata.uid <|> o.metadata.uid)

/-- The object that a creation gives back has the identity under which it was created. -/
theorem identify_ensurePresent (h : identify (prepare p o) = .ok (k, d)) (s : Surroundings Memory) :
    ∃ d', identify (run Memory.respond (ensurePresent p o) s).1.1 = .ok (k, d') := by
  cases hs : s.store.stored k with
  | none =>
    rw [(run_ensurePresent_absent h hs).1]
    exact ⟨_, identify_adopt h _⟩
  | some v =>
    rw [(run_ensurePresent_present h hs).1]
    exact ⟨d, h⟩

/-! ### What the calls come to -/

/-- What a creation comes to that leaves alone what is there: an object under the identity `k` and nothing new
elsewhere, where the object `o'` is given back for `o`. -/
structure Ensured (k : ObjectKey) (before after : Memory) (o o' : ManagedObject) : Prop where
  stored : (after.stored k).isSome
  others : ∀ path, path ≠ k.path → after.objects.find? path = before.objects.find? path
  untouched : (before.stored k).isSome → after = before.record .create k.path ∧
    o'.metadata.resourceVersion = o.metadata.resourceVersion ∧ o'.metadata.uid = o.metadata.uid

/-- Marking an owner and overriding the namespace leaves alone what a store gives an object. -/
theorem unversioned_prepare (hs : p.stamper.MarksOwners) (o : ManagedObject) :
    (prepare p o).metadata.resourceVersion = o.metadata.resourceVersion ∧
      (prepare p o).metadata.uid = o.metadata.uid := by
  rw [prepare_eq, ManagedObject.metadata_withMetadata, ObjectMeta.inNamespace_eq, stamped]
  cases p.owner with
  | none => exact ⟨rfl, rfl⟩
  | some owner =>
    dsimp only
    rw [hs owner o.metadata]
    exact ⟨rfl, rfl⟩

theorem ensured_ensurePresent (hs : p.stamper.MarksOwners) (h : identify (prepare p o) = .ok (k, d))
    (s : Surroundings Memory) :
    let made := run Memory.respond (ensurePresent p o) s
    made.1.2 = .ok () ∧ Ensured k s.store made.2.store o made.1.1 := by
  intro made
  cases hstored : s.store.stored k with
  | none =>
    obtain ⟨hresult, hstore⟩ := run_ensurePresent_absent h hstored
    have hobjects := congrArg Memory.objects hstore
    refine ⟨congrArg Prod.snd hresult, ?_, ?_, ?_⟩
    · rw [Memory.stored, hobjects]
      exact Option.isSome_of_mem (Table.find?_insert_self _ _ _)
    · intro path hpath
      rw [hobjects]
      exact Table.find?_insert_of_ne _ _ hpath
    · intro hsome
      rw [hstored] at hsome
      cases hsome
  | some v =>
    obtain ⟨hresult, hstore⟩ := run_ensurePresent_present h hstored
    refine ⟨congrArg Prod.snd hresult, ?_, ?_, ?_⟩
    · rw [hstore, Memory.record_stored, hstored, Option.isSome_some]
    · intro path _
      rw [hstore, Memory.record_objects]
    · intro _
      rw [hresult]
      exact ⟨hstore, unversioned_prepare hs o⟩

/-- Creating an object that is there already does nothing but attempt it, whatever has become of the object since. -/
theorem ensurePresent_again {o' : ManagedObject} {d' : DynamicObject} (h : identify (prepare p o') = .ok (k, d'))
    {s : Surroundings Memory} (hs : (s.store.stored k).isSome) :
    let again := run Memory.respond (ensurePresent p o') s
    again.1.2 = .ok () ∧ again.2.store = s.store.record .create k.path := by
  intro again
  obtain ⟨v, hv⟩ := Option.isSome_iff_exists.1 hs
  obtain ⟨hresult, hstore⟩ := run_ensurePresent_present h hv
  exact ⟨congrArg Prod.snd hresult, hstore⟩

/-- Deleting an object that was created takes back the creation. -/
theorem ensureAbsent_created (h : identify (prepare p o) = .ok (k, d)) {s : Surroundings Memory}
    (hs : s.store.stored k = none) :
    let made := run Memory.respond (ensurePresent p o) s
    let removed := run Memory.respond (ensureAbsent made.1.1) made.2
    removed.1.2 = .ok () ∧ removed.2.store.objects = s.store.objects := by
  intro made removed
  obtain ⟨d', hid⟩ := identify_ensurePresent h s
  obtain ⟨hresult, hstore⟩ := run_ensureAbsent hid made.2
  have hmade : made.2.store.objects = s.store.objects.insert k.path (Memory.newObject d s.store.nextVersion) :=
    congrArg Memory.objects (run_ensurePresent_absent h hs).2
  refine ⟨congrArg Prod.snd hresult, ?_⟩
  calc removed.2.store.objects
    _ = made.2.store.objects.erase k.path := congrArg Memory.objects hstore
    _ = s.store.objects.erase k.path := by rw [hmade, Table.erase_insert_self]
    _ = s.store.objects := Table.erase_of_find?_eq_none hs

/-- Deleting an object again does nothing but attempt it. -/
theorem ensureAbsent_again (h : identify o = .ok (k, d)) (s : Surroundings Memory) :
    let gone := run Memory.respond (ensureAbsent o) s
    let again := run Memory.respond (ensureAbsent o) gone.2
    again.1 = (o, .ok ()) ∧ again.2.store = gone.2.store.record .delete k.path := by
  intro gone again
  obtain ⟨-, hgone⟩ := run_ensureAbsent h s
  obtain ⟨hresult, hstore⟩ := run_ensureAbsent h gone.2
  have herased : gone.2.store.objects.erase k.path = gone.2.store.objects := by
    rw [show gone.2.store = _ from hgone, Table.erase_erase_self]
  rw [herased] at hstore
  exact ⟨hresult, hstore⟩

/-- Alone with a store, creating and deleting an object with an identity and a written form succeed however often they
are repeated. A creation leaves one object under the identity and does nothing if there is one already. A deletion
leaves none there, and takes back a creation that came before it. Neither changes what is stored elsewhere. -/
theorem presence_idempotent (hs : p.stamper.MarksOwners) (hk : ObjectKey.of o = .ok k) (hd : o.toDynamic = .ok d)
    (s : Surroundings Memory) :
    (let k' := k.inNamespace p.nameSpace
      let made := run Memory.respond (ensurePresent p o) s
      let again := run Memory.respond (ensurePresent p made.1.1) made.2
      let removed := run Memory.respond (ensureAbsent made.1.1) made.2
      ObjectKey.of (prepare p o) = .ok k' ∧
      made.1.2 = .ok () ∧ Ensured k' s.store made.2.store o made.1.1 ∧
      again.1.2 = .ok () ∧ again.2.store = made.2.store.record .create k'.path ∧
      (s.store.stored k' = none → removed.1.2 = .ok () ∧ removed.2.store.objects = s.store.objects)) ∧
    (let gone := run Memory.respond (ensureAbsent o) s
      let again := run Memory.respond (ensureAbsent o) gone.2
      gone.1.2 = .ok () ∧ s.store.Cleared (· = k.path) gone.2.store ∧ gone.2.store.version = s.store.version ∧
      again.1.2 = .ok () ∧ again.2.store = gone.2.store.record .delete k.path) := by
  have hid := identify_eq_ok.2 ⟨hk, hd⟩
  have hprepared := identify_prepare hs.discreet hid
  constructor
  · intro k' made again removed
    obtain ⟨hok, hensured⟩ := ensured_ensurePresent hs hprepared s
    -- The object that is handed over for the second call has the identity of the first one already.
    obtain ⟨d', hmade⟩ := identify_ensurePresent hprepared s
    have hprepared' := identify_prepare hs.discreet hmade
    rw [ObjectKey.inNamespace_again] at hprepared'
    obtain ⟨hok', hstore'⟩ := ensurePresent_again hprepared' hensured.stored
    exact ⟨(identify_eq_ok.1 hprepared).1, hok, hensured, hok', hstore', ensureAbsent_created hprepared⟩
  · intro gone again
    obtain ⟨hgone, hgoneStore⟩ := run_ensureAbsent hid s
    obtain ⟨hagain, hagainStore⟩ := ensureAbsent_again hid s
    have hcleared : s.store.Cleared (· = k.path) gone.2.store :=
      Memory.cleared_of_erase (congrArg Memory.objects hgoneStore)
    have hversion : gone.2.store.version = s.store.version := by
      rw [show gone.2.store = _ from hgoneStore]
      rfl
    exact ⟨congrArg Prod.snd hgone, hcleared, hversion, congrArg Prod.snd hagain, hagainStore⟩

def unscopedKey : ObjectKey := ⟨⟨"", "v1", "ConfigMap"⟩, none, "settings"⟩

theorem presence_idempotent_unscoped :
    let made := run Memory.respond (ensurePresent (controlled (some registry) (some "quay")) unscoped) emptyStore
    let again := run Memory.respond (ensurePresent (controlled (some registry) (some "quay")) made.1.1) made.2
    let removed := run Memory.respond (ensureAbsent made.1.1) made.2
    (made.2.store.stored settingsKey).isSome ∧ again.2.store.objects = made.2.store.objects ∧
      removed.2.store.objects = [] := by
  have hid : identify unscoped = .ok (unscopedKey, { storedSettings with metadata := { name := some "settings" } }) :=
    rfl
  obtain ⟨hk, hd⟩ := identify_eq_ok.1 hid
  obtain ⟨⟨-, -, hensured, -, hagain, hremoved⟩, -⟩ :=
    presence_idempotent (p := controlled (some registry) (some "quay")) Stamper.marksOwners_controllerReference hk hd
      emptyStore
  have hmoved : unscopedKey.inNamespace (controlled (some registry) (some "quay")).nameSpace = settingsKey := rfl
  rw [hmoved] at hensured hagain hremoved
  refine ⟨hensured.stored, ?_, ?_⟩
  · rw [hagain, Memory.record_objects]
  · exact (hremoved rfl).2

end Synchronize

end Reconciliation
