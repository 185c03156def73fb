import Reconciliation.Proofs.Manifest
import Reconciliation.Proofs.Pass.Batch
import Reconciliation.Proofs.Pass.Conclusion
import Reconciliation.Proofs.Pass.Presence
import Reconciliation.Proofs.Pass.Stored
import Reconciliation.Proofs.Resource.Ownership
/-!
# Making and removing the resources of a template

When the resources of a template are removed after they were made, what remains is what was stored before, less the
resources themselves (`Reconciler.rendered_removed`). A creation that succeeds has identified every resource and has
changed nothing under other paths than theirs (`Confined`), and a removal of identified resources clears those paths
and no others (`Cleared`). The paths are the same, as the owner that is marked in between is no part of an identity.
-/

namespace Reconciliation

/-- Whether an object is filed under a path. -/
def ManagedObject.FiledUnder (o : ManagedObject) (path : String) : Prop :=
  ∃ k, ObjectKey.of o = .ok k ∧ k.path = path

namespace Memory

variable {m m' m'' : Memory} {P Q : String → Prop}

/-- Nothing is stored under some paths any more, and under all others what was stored before. -/
structure Cleared (P : String → Prop) (m m' : Memory) : Prop where
  gone : ∀ path, P path → m'.objects.find? path = none
  kept : ∀ path, ¬ P path → m'.objects.find? path = m.objects.find? path

theorem Cleared.trans (h : Cleared P m m') (h' : Cleared Q m' m'') : Cleared (fun path => P path ∨ Q path) m m'' where
  gone path hpath := by
    by_cases hQ : Q path
    · exact h'.gone path hQ
    · rw [h'.kept path hQ]
      exact h.gone path (hpath.resolve_right hQ)
  kept path hpath := by
    rw [h'.kept path fun hQ => hpath (.inr hQ), h.kept path fun hP => hpath (.inl hP)]

theorem cleared_of_erase {path : String} (h : m'.objects = m.objects.erase path) : m.Cleared (· = path) m' where
  gone path' hpath := by rw [h, hpath, Table.find?_erase_self]
  kept path' hpath := by rw [h, Table.find?_erase_of_ne _ hpath]

end Memory

namespace Synchronize

open Surroundings (run)

variable {p : Placement} {o : ManagedObject} {os : List ManagedObject} {k : ObjectKey} {d : DynamicObject}
  {operation : ManagedObject → Pass (ManagedObject × Except ReconcileError Unit)} {s : Surroundings Memory}

/-! ### One object -/

/-- An operation that succeeds only on objects that are identified as they are prepared, and then changes nothing
under other paths than theirs. -/
def Confined (p : Placement) (operation : ManagedObject → Pass (ManagedObject × Except ReconcileError Unit)) : Prop :=
  ∀ o s, (run Memory.respond (operation o) s).1.2 = .ok () → ∃ k d, identify (prepare p o) = .ok (k, d) ∧
    ∀ path, path ≠ k.path →
      (run Memory.respond (operation o) s).2.store.objects.find? path = s.store.objects.find? path

theorem confined_converge (p : Placement) : Confined p (converge p) := by
  intro o s hok
  cases hid : identify (prepare p o) with
  | error e =>
    rw [(run_converge_error hid).2] at hok
    cases hok
  | ok found =>
    obtain ⟨k, d⟩ := found
    obtain ⟨-, hobjects, -⟩ := run_converge hid s
    refine ⟨k, d, rfl, fun path hpath => ?_⟩
    rw [hobjects, Table.find?_insert_of_ne _ _ hpath]

theorem confined_ensurePresent (p : Placement) : Confined p (ensurePresent p) := by
  intro o s hok
  cases hid : identify (prepare p o) with
  | error e =>
    rw [(run_ensurePresent_error hid).2] at hok
    cases hok
  | ok found =>
    obtain ⟨k, d⟩ := found
    refine ⟨k, d, rfl, fun path hpath => ?_⟩
    rw [(run_ensurePresent Memory.respond s hid).2.2]
    refine (Memory.response (.create d) s.store).find?_eq ?_
    rintro ⟨htarget, -⟩
    have hkey : (StoreCall.create d).path? = some k.path :=
      Memory.path?_of_storeKey (.inl rfl) (storeKey_of_identify hid)
    exact hpath (Option.some.inj (htarget.symm.trans hkey))

/-- A deletion of an identified object succeeds, be there one or not. -/
theorem cleared_ensureAbsent (h : identify o = .ok (k, d)) (s : Surroundings Memory) :
    (run Memory.respond (ensureAbsent o) s).1 = (o, .ok ()) ∧
      s.store.Cleared (· = k.path) (run Memory.respond (ensureAbsent o) s).2.store := by
  obtain ⟨hresult, hstore⟩ := run_ensureAbsent h s
  exact ⟨hresult, Memory.cleared_of_erase (congrArg Memory.objects hstore)⟩

/-! ### All objects -/

theorem filedUnder_iff (hk : ObjectKey.of o = .ok k) (path : String) : o.FiledUnder path ↔ path = k.path := by
  constructor
  · rintro ⟨k', hk', rfl⟩
    rw [Except.ok.inj (hk'.symm.trans hk)]
  · rintro rfl
    exact ⟨k, hk, rfl⟩

theorem run_batch_confined (h : Confined p operation) (os : List ManagedObject) (s : Surroundings Memory)
    (hok : (run Memory.respond (batch operation os) s).1.2 = .ok ()) :
    (∀ o ∈ os, ∃ k d, identify (prepare p o) = .ok (k, d)) ∧
      ∀ path, (∀ o ∈ os, ¬ (prepare p o).FiledUnder path) →
        (run Memory.respond (batch operation os) s).2.store.objects.find? path = s.store.objects.find? path := by
  induction os generalizing s with
  | nil => exact ⟨by simp, fun _ _ => rfl⟩
  | cons o os ih =>
    cases hfirst : (run Memory.respond (operation o) s).1.2 with
    | error e =>
      have hrun : run Memory.respond (batch operation (o :: os)) s = _ := (run_batch_of_error os hfirst).1
      rw [hrun] at hok
      cases hok
    | ok =>
      have hrun : run Memory.respond (batch operation (o :: os)) s = _ := (run_batch_of_ok os hfirst).1
      rw [hrun] at hok ⊢
      obtain ⟨k, d, hid, hkept⟩ := h o s hfirst
      obtain ⟨hids, hkepts⟩ := ih _ hok
      refine ⟨List.forall_mem_cons.2 ⟨⟨k, d, hid⟩, hids⟩, fun path hpath => ?_⟩
      obtain ⟨hne, hpath⟩ := List.forall_mem_cons.1 hpath
      rw [filedUnder_iff (identify_eq_ok.1 hid).1] at hne
      exact (hkepts path hpath).trans (hkept path hne)

theorem run_ensureAllAbsent (os : List ManagedObject) (hids : ∀ o ∈ os, ∃ k d, identify o = .ok (k, d))
    (s : Surroundings Memory) :
    (run Memory.respond (ensureAllAbsent os) s).1.2 = .ok () ∧
      s.store.Cleared (fun path => ∃ o ∈ os, o.FiledUnder path)
        (run Memory.respond (ensureAllAbsent os) s).2.store := by
  induction os generalizing s with
  | nil => exact ⟨rfl, by simp, fun _ _ => rfl⟩
  | cons o os ih =>
    obtain ⟨⟨k, d, hid⟩, hids⟩ := List.forall_mem_cons.1 hids
    obtain ⟨hfirst, hcleared⟩ := cleared_ensureAbsent hid s
    -- An object that is listed again is gone by then, and its deletion succeeds as well.
    have hrun : run Memory.respond (ensureAllAbsent (o :: os)) s = _ :=
      (run_batch_of_ok os (congrArg Prod.snd hfirst)).1
    obtain ⟨hok, hrest⟩ := ih hids (run Memory.respond (ensureAbsent o) s).2
    have hpaths : (fun path => ∃ o' ∈ o :: os, o'.FiledUnder path) =
        fun path => path = k.path ∨ ∃ o' ∈ os, o'.FiledUnder path := by
      funext path
      rw [List.exists_mem_cons_iff, filedUnder_iff (identify_eq_ok.1 hid).1]
    rw [hrun, hpaths]
    exact ⟨hok, hcleared.trans hrest⟩

/-! ### The same identity on either way -/

/-- The object in another namespace, if one is given. -/
def moved (nameSpace : Option String) (o : ManagedObject) : ManagedObject :=
  o.withMetadata (o.metadata.inNamespace nameSpace)

theorem inNamespace_congr {m m' : ObjectMeta} (name : m.name = m'.name) (nameSpace : m.nameSpace = m'.nameSpace)
    (target : Option String) :
    (m.inNamespace target).name = (m'.inNamespace target).name ∧
      (m.inNamespace target).nameSpace = (m'.inNamespace target).nameSpace := by
  unfold ObjectMeta.inNamespace
  cases target.filter (· != "") with
  | none => exact ⟨name, nameSpace⟩
  | some ns => exact ⟨name, rfl⟩

/-- Marking the owner is no part of the identity of an object. -/
theorem key_prepare (hs : p.stamper.Discreet) (o : ManagedObject) :
    ObjectKey.of (prepare p o) = ObjectKey.of (moved p.nameSpace o) := by
  have hsame : (stamped p o).name = o.metadata.name ∧ (stamped p o).nameSpace = o.metadata.nameSpace := by
    rw [stamped]
    cases p.owner with
    | none => exact ⟨rfl, rfl⟩
    | some owner => exact ⟨hs.name owner o.metadata, hs.nameSpace owner o.metadata⟩
  obtain ⟨hname, hnameSpace⟩ := inNamespace_congr hsame.1 hsame.2 p.nameSpace
  rw [prepare_eq, moved]
  simp only [ObjectKey.of, ObjectKey.ofParts, ManagedObject.types_withMetadata, ManagedObject.metadata_withMetadata,
    hname, hnameSpace]

theorem identify_moved (hs : p.stamper.Discreet) (h : identify (prepare p o) = .ok (k, d)) :
    ∃ d', identify (moved p.nameSpace o) = .ok (k, d') := by
  obtain ⟨hk, hd⟩ := identify_eq_ok.1 h
  rw [key_prepare hs] at hk
  have hmoved := ManagedObject.toDynamic_withMetadata hd (o.metadata.inNamespace p.nameSpace)
  rw [prepare_eq, ManagedObject.withMetadata_withMetadata] at hmoved
  exact ⟨_, identify_eq_ok.2 ⟨hk, hmoved⟩⟩

/-! ### Resources of a template -/

variable {σ : Type} {t : Template} {data : Json}
  {all : List ManagedObject → Pass (List ManagedObject × Except ReconcileError Unit)}

theorem onRendered_error {e : TemplateError} (h : t.resources data = .error e) :
    onRendered t data all = .done (.error (.template e)) := by
  rw [onRendered, h]
  rfl

theorem run_onRendered {ds : List DynamicObject} (h : t.resources data = .ok ds) (s : Surroundings Memory) :
    run Memory.respond (onRendered t data all) s =
      ((run Memory.respond (all (ds.map .dynamic)) s).1.2, (run Memory.respond (all (ds.map .dynamic)) s).2) := by
  rw [onRendered, h]
  exact Surroundings.run_andThen _ _ _ s

/-- What a creation of the resources of a template has made, a removal removes. -/
theorem run_ensureRenderedAbsent (hs : p.stamper.Discreet) (h : Confined p operation) (s : Surroundings Memory) :
    let made := run Memory.respond (onRendered t data (batch operation)) s
    let after := run Memory.respond (ensureRenderedAbsent p.nameSpace t data) made.2
    made.1 = .ok () → ∃ ds, t.resources data = .ok ds ∧ after.1 = .ok () ∧
      (∀ d ∈ ds, ∃ k, ObjectKey.of (moved p.nameSpace (.dynamic d)) = .ok k ∧ after.2.store.stored k = none) ∧
      ∀ path, (∀ d ∈ ds, ¬ (moved p.nameSpace (.dynamic d)).FiledUnder path) →
        after.2.store.objects.find? path = s.store.objects.find? path := by
  intro made after hmade
  cases hds : t.resources data with
  | error e =>
    rw [show made = _ from congrArg (run Memory.respond · s) (onRendered_error hds)] at hmade
    cases hmade
  | ok ds =>
    rw [show made = _ from run_onRendered hds s] at hmade
    obtain ⟨hids, hkept⟩ := run_batch_confined h (ds.map .dynamic) s hmade
    have hmoved : ∀ o ∈ (ds.map .dynamic).map (moved p.nameSpace), ∃ k d, identify o = .ok (k, d) := by
      intro o ho
      obtain ⟨o', ho', rfl⟩ := List.mem_map.1 ho
      obtain ⟨k, d, hid⟩ := hids o' ho'
      exact ⟨k, identify_moved hs hid⟩
    obtain ⟨hok, hcleared⟩ := run_ensureAllAbsent _ hmoved made.2
    rw [show after = _ from run_onRendered hds made.2]
    refine ⟨ds, rfl, hok, fun d hd => ?_, fun path hpath => ?_⟩
    · have ho : moved p.nameSpace (.dynamic d) ∈ (ds.map .dynamic).map (moved p.nameSpace) :=
        List.mem_map_of_mem (List.mem_map_of_mem hd)
      obtain ⟨k, d', hid⟩ := hmoved _ ho
      have hk := (identify_eq_ok.1 hid).1
      exact ⟨k, hk, hcleared.gone k.path ⟨_, ho, k, hk, rfl⟩⟩
    · have hnone : ∀ o ∈ ds.map .dynamic, ¬ (moved p.nameSpace o).FiledUnder path := by
        intro o ho
        obtain ⟨d, hd, rfl⟩ := List.mem_map.1 ho
        exact hpath d hd
      have hremoved := hcleared.kept path fun ⟨o, ho, hfiled⟩ => by
        obtain ⟨o', ho', rfl⟩ := List.mem_map.1 ho
        exact hnone o' ho' hfiled
      have hcreated : made.2.store.objects.find? path = s.store.objects.find? path := by
        rw [show made = _ from run_onRendered hds s]
        refine hkept path fun o ho hfiled => hnone o ho ?_
        rwa [ManagedObject.FiledUnder, key_prepare hs] at hfiled
      exact hremoved.trans hcreated

end Synchronize

namespace Reconciler

open Synchronize

/-- A template that fails in any part makes no operation on its resources do anything. Otherwise a removal of the
resources takes back a creation of them: none of the identities is stored any more, and under any other path there is
what was there before. -/
theorem rendered_removed (r : Reconciler) (hs : r.stamper.Discreet) (owner : Option ManagedObject)
    (nameSpace : Option String) (t : Template) (data : Json) :
    (t.Fails data → ∃ e, ∀ operation ∈ [r.convergeRendered owner nameSpace t data,
        r.ensureRenderedPresent owner nameSpace t data, ensureRenderedAbsent nameSpace t data],
      ∀ {σ : Type} (respond : Dialogue.Responder Effect.Answer σ) (s : σ),
        Dialogue.run respond operation s = (.error (.template e), s) ∧ Dialogue.log respond operation s = []) ∧
    ∀ creation ∈ [r.convergeRendered owner nameSpace t data, r.ensureRenderedPresent owner nameSpace t data],
      ∀ s : Surroundings Memory,
        let made := Surroundings.run Memory.respond creation s
        let after := Surroundings.run Memory.respond (ensureRenderedAbsent nameSpace t data) made.2
        made.1 = .ok () → ∃ ds, t.resources data = .ok ds ∧ after.1 = .ok () ∧
          (∀ d ∈ ds, ∃ k, ObjectKey.of (moved nameSpace (.dynamic d)) = .ok k ∧ after.2.store.stored k = none) ∧
          ∀ path, (∀ d ∈ ds, ¬ (moved nameSpace (.dynamic d)).FiledUnder path) →
            after.2.store.objects.find? path = s.store.objects.find? path := by
  refine ⟨fun hfails => ?_, fun creation hcreation s => ?_⟩
  · obtain ⟨e, he⟩ := Template.resources_eq_error.2 hfails
    refine ⟨e, fun operation hoperation σ respond s => ?_⟩
    have hdone : operation = .done (.error (.template e)) := by
      simp only [List.mem_cons, List.not_mem_nil, or_false] at hoperation
      rcases hoperation with rfl | rfl | rfl <;> exact onRendered_error he
    rw [hdone]
    exact ⟨rfl, rfl⟩
  · simp only [List.mem_cons, List.not_mem_nil, or_false] at hcreation
    rcases hcreation with rfl | rfl
    · exact run_ensureRenderedAbsent hs (confined_converge ⟨r.stamper, owner, nameSpace⟩) s
    · exact run_ensureRenderedAbsent hs (confined_ensurePresent ⟨r.stamper, owner, nameSpace⟩) s

/-- A template for a configuration map with a given name. -/
def namedMap : Template where
  name := "map"
  elements := [
    .text "apiVersion: v1\nkind: ConfigMap\nmetadata:\n  name: ",
    .output (.path "name" (.value (.block 0) ["name"]))]

def defaultsName : Json := .object [("name", .string "defaults")]

def defaultsKey : ObjectKey := ⟨⟨"", "v1", "ConfigMap"⟩, some "quay", "defaults"⟩

theorem rendered_removed_defaults :
    let creation := (ofConfiguration .default).convergeRendered none (some "quay") namedMap defaultsName
    let made := Surroundings.run Memory.respond creation withSettings
    let after := Surroundings.run Memory.respond (ensureRenderedAbsent (some "quay") namedMap defaultsName) made.2
    made.1 = .ok () ∧ after.1 = .ok () ∧ after.2.store.stored defaultsKey = none ∧
      after.2.store.stored settingsKey = withSettings.store.stored settingsKey := by
  intro creation made after
  have hevaluated : made.1.toOption = some () ∧
      (namedMap.resources defaultsName).toOption.map (·.map fun d =>
        (ObjectKey.of (moved (some "quay") (.dynamic d))).toOption) = some [some defaultsKey] := by
    decide +kernel
  obtain ⟨hmade, hkeys⟩ := hevaluated
  have hok : made.1 = .ok () := by
    cases hresult : made.1 with
    | ok => rfl
    | error e =>
      rw [hresult] at hmade
      cases hmade
  obtain ⟨ds, hds, hafter, hgone, hkept⟩ :=
    (rendered_removed (ofConfiguration .default) Stamper.discreet_controllerReference none (some "quay") namedMap
      defaultsName).2 creation List.mem_cons_self withSettings hok
  rw [hds] at hkeys
  obtain ⟨d, rfl, hkey⟩ := List.map_eq_singleton_iff.1 (Option.some.inj hkeys)
  obtain ⟨k, hk, hnone⟩ := hgone d (List.mem_singleton.2 rfl)
  rw [hk] at hkey
  cases hkey
  refine ⟨hok, hafter, hnone, hkept settingsKey.path fun d' hd' hfiled => ?_⟩
  rw [List.mem_singleton.1 hd', filedUnder_iff hk] at hfiled
  revert hfiled
  decide +kernel

end Reconciler

end Reconciliation
