import Mathlib.Logic.Function.Iterate
import Reconciliation.Proofs.Resource.Ownership
/-!
# The controller of an object

An owner is marked or it is refused, and a refusal changes nothing (`marked_or_refused`). A mark goes in place of
the first reference to the owner, or after all references if there is none (`OwnerReference.Placed`). No other
reference is looked at again, so a reference to the same owner that comes later stays what it was. If that one is
a controller, the object has two of them afterwards, and this is the only way to it (`controllers_marked`).
-/

namespace Reconciliation

namespace OwnerReference

variable {r s : OwnerReference} {references result : List OwnerReference}

theorem sameOwner_iff : s.sameOwner r = true ↔
    groupOf s.apiVersion = groupOf r.apiVersion ∧ s.kind = r.kind ∧ s.name = r.name := by
  simp [sameOwner, and_assoc]

theorem isController_iff : s.isController = true ↔ s.controller = some true := by
  simp [isController]

/-! ### Where a mark goes -/

/-- How a reference is put among others: in place of the first to the same owner, or after all of them if there is
none. -/
inductive Placed (r : OwnerReference) : List OwnerReference → List OwnerReference → Prop
  | replaced (before after : List OwnerReference) (old : OwnerReference)
      (others : ∀ s ∈ before, s.sameOwner r = false) (same : old.sameOwner r = true) :
      Placed r (before ++ old :: after) (before ++ r :: after)
  | appended (references : List OwnerReference) (others : ∀ s ∈ references, s.sameOwner r = false) :
      Placed r references (references ++ [r])

theorem placed_put (references : List OwnerReference) (r : OwnerReference) :
    Placed r references (put references r) := by
  induction references with
  | nil => exact .appended [] (by simp)
  | cons s rest ih =>
    rw [put]
    by_cases hsame : s.sameOwner r = true
    · rw [if_pos hsame]
      exact .replaced [] rest s (by simp) hsame
    · rw [if_neg hsame]
      have hother : s.sameOwner r = false := Bool.eq_false_iff.2 hsame
      generalize put rest r = result at ih
      cases ih with
      | replaced before after old others same =>
        refine .replaced (s :: before) after old ?_ same
        exact List.forall_mem_cons.2 ⟨hother, others⟩
      | appended _ others => exact .appended (s :: rest) (List.forall_mem_cons.2 ⟨hother, others⟩)

/-! ### Controllers -/

/-- The references that name a controller. -/
def controllers (references : List OwnerReference) : List OwnerReference :=
  references.filter isController

/-- The references to the owner that a reference names, but for the first. -/
def laterTo (r : OwnerReference) (references : List OwnerReference) : List OwnerReference :=
  (references.filter (sameOwner · r)).tail

theorem controllers_of_others (hfree : ∀ s ∈ references, s.isController = true → s.sameOwner r = true)
    (others : ∀ s ∈ references, s.sameOwner r = false) : controllers references = [] := by
  refine List.filter_eq_nil_iff.2 ?_
  intro s hs hcontroller
  have hsame := hfree s hs hcontroller
  rw [others s hs] at hsame
  cases hsame

theorem filter_sameOwner_of_others (others : ∀ s ∈ references, s.sameOwner r = false) :
    references.filter (sameOwner · r) = [] := by
  refine List.filter_eq_nil_iff.2 ?_
  intro s hs
  rw [others s hs]
  decide

/-- Where only the owner is a controller, the controllers after its mark are the mark and the later references to
the owner that are controllers. -/
theorem Placed.controllers (h : Placed r references result) (hr : r.isController = true)
    (hfree : ∀ s ∈ references, s.isController = true → s.sameOwner r = true) :
    controllers result = r :: controllers (laterTo r references) := by
  cases h with
  | replaced before after old others same =>
    have hbefore : OwnerReference.controllers before = [] :=
      controllers_of_others (fun s hs => hfree s (List.mem_append_left _ hs)) others
    have hlater : laterTo r (before ++ old :: after) = after.filter (sameOwner · r) := by
      simp [laterTo, filter_sameOwner_of_others others, same]
    have hafter : OwnerReference.controllers (after.filter (sameOwner · r)) =
        OwnerReference.controllers after := by
      rw [OwnerReference.controllers, OwnerReference.controllers, List.filter_filter]
      apply List.filter_congr
      intro s hs
      cases hcontroller : s.isController with
      | false => rfl
      | true =>
        have hmem : s ∈ before ++ old :: after := List.mem_append_right _ (List.mem_cons_of_mem _ hs)
        rw [hfree s hmem hcontroller]
        rfl
    rw [hlater, hafter, OwnerReference.controllers, List.filter_append, List.filter_cons_of_pos hr]
    show OwnerReference.controllers before ++ r :: OwnerReference.controllers after = _
    rw [hbefore, List.nil_append]
  | appended _ others =>
    have hbefore : OwnerReference.controllers references = [] := controllers_of_others hfree others
    have hlater : laterTo r references = [] := by
      rw [laterTo, filter_sameOwner_of_others others, List.tail_nil]
    rw [hlater, OwnerReference.controllers, List.filter_append, List.filter_cons_of_pos hr]
    show OwnerReference.controllers references ++ [r] = [r]
    rw [hbefore, List.nil_append]

end OwnerReference

namespace Ownership

open OwnerReference

variable {owner : ManagedObject} {m : ObjectMeta} {r : OwnerReference}

/-! ### Whom a mark names -/

/-- A reference names an owner as controller, by its types, its name and its identifier. -/
structure Names (owner : ManagedObject) (r : OwnerReference) : Prop where
  types : owner.types = some ⟨r.apiVersion, r.kind⟩
  apiVersion_ne : r.apiVersion ≠ ""
  kind_ne : r.kind ≠ ""
  name : owner.metadata.name = some r.name
  uid : owner.metadata.uid = some r.uid
  controller : r.controller = some true
  blockOwnerDeletion : r.blockOwnerDeletion = some true

theorem controllerReference?_eq_ok : controllerReference? owner = .ok r ↔ Names owner r := by
  rw [controllerReference?]
  constructor
  · intro h
    cases htypes : owner.types.filter fun t => t.apiVersion != "" && t.kind != "" with
    | none =>
      rw [htypes] at h
      cases h
    | some t =>
      rw [htypes] at h
      cases hname : owner.metadata.name with
      | none =>
        rw [hname] at h
        cases h
      | some name =>
        cases huid : owner.metadata.uid with
        | none =>
          rw [hname, huid] at h
          cases h
        | some uid =>
          rw [hname, huid] at h
          cases h
          obtain ⟨hsome, hset⟩ := Option.filter_eq_some_iff.1 htypes
          simp only [Bool.and_eq_true, bne_iff_ne] at hset
          exact ⟨hsome, hset.1, hset.2, hname, huid, rfl, rfl⟩
  · intro h
    have hset : (owner.types.filter fun t => t.apiVersion != "" && t.kind != "") =
        some ⟨r.apiVersion, r.kind⟩ := by
      rw [h.types]
      simp [Option.filter, h.apiVersion_ne, h.kind_ne]
    obtain ⟨apiVersion, kind, name, uid, controller, blockOwnerDeletion⟩ := r
    obtain ⟨-, -, -, hname, huid, hcontroller, hblock⟩ := h
    cases hcontroller
    cases hblock
    rw [hset, hname, huid]

theorem uncontrolled_eq_ok {references : List OwnerReference} :
    uncontrolled references r = .ok () ↔ ∀ s ∈ references, s.isController = true → s.sameOwner r = true := by
  rw [uncontrolled]
  cases hfound : references.find? fun s => s.isController && !s.sameOwner r with
  | none =>
    refine iff_of_true rfl ?_
    intro s hs hcontroller
    have hnot := List.find?_eq_none.1 hfound s hs
    simpa [hcontroller] using hnot
  | some s =>
    refine iff_of_false (fun h => nomatch h) ?_
    intro hfree
    have hs : s ∈ references := List.mem_of_find?_eq_some hfound
    obtain ⟨hcontroller, hother⟩ : s.isController = true ∧ s.sameOwner r = false := by
      simpa using List.find?_some hfound
    rw [hfree s hs hcontroller] at hother
    cases hother

/-- An owner can be marked if a reference can name it, it is in no other namespace than the object, and nobody else
is the controller. -/
theorem markable_iff : Markable owner m r ↔ Names owner r ∧
    (∀ ns, owner.metadata.nameSpace = some ns → ns ≠ "" → m.nameSpace.getD "" = ns) ∧
    ∀ s ∈ m.ownerReferences.getD [], s.controller = some true →
      groupOf s.apiVersion = groupOf r.apiVersion ∧ s.kind = r.kind ∧ s.name = r.name := by
  constructor
  · rintro ⟨hreference, hnamespace, hfree⟩
    refine ⟨controllerReference?_eq_ok.1 hreference, sameNamespace_eq_ok.1 hnamespace, ?_⟩
    intro s hs hcontroller
    exact sameOwner_iff.1 (uncontrolled_eq_ok.1 hfree s hs (isController_iff.2 hcontroller))
  · rintro ⟨hnames, hnamespace, hfree⟩
    refine ⟨controllerReference?_eq_ok.2 hnames, sameNamespace_eq_ok.2 hnamespace, uncontrolled_eq_ok.2 ?_⟩
    intro s hs hcontroller
    exact sameOwner_iff.2 (hfree s hs (isController_iff.1 hcontroller))

theorem controllerReference_eq_none_iff : (Stamper.controllerReference owner m).2 = none ↔ ∃ r, Markable owner m r := by
  by_cases h : ∃ r, Markable owner m r
  · obtain ⟨r, hr⟩ := h
    rw [controllerReference_of_markable hr]
    exact iff_of_true rfl ⟨r, hr⟩
  · obtain ⟨e, he⟩ := exists_refusal (not_exists.1 h)
    rw [he]
    exact iff_of_false (fun hnone => nomatch hnone) h

/-! ### Marking again -/

/-- What was marked can be marked again, since the mark names the owner. -/
theorem Markable.again (h : Markable owner m r) :
    Markable owner { m with ownerReferences := some (put (m.ownerReferences.getD []) r) } r where
  reference := h.reference
  nameSpace := h.nameSpace
  free := by
    have hfree := uncontrolled_eq_ok.1 h.free
    rw [Option.getD_some, uncontrolled_eq_ok]
    have hplaced := placed_put (m.ownerReferences.getD []) r
    generalize put (m.ownerReferences.getD []) r = result at hplaced ⊢
    generalize m.ownerReferences.getD [] = references at hfree hplaced
    intro s hs hcontroller
    by_cases hmark : s = r
    · rw [hmark]
      exact sameOwner_refl r
    · refine hfree s ?_ hcontroller
      cases hplaced with
      | replaced before after old others same =>
        rcases List.mem_append.1 hs with hbefore | hafter
        · exact List.mem_append_left _ hbefore
        · exact List.mem_append_right _ (List.mem_cons_of_mem _ ((List.mem_cons.1 hafter).resolve_left hmark))
      | appended _ others =>
        rcases List.mem_append.1 hs with hbefore | hlast
        · exact hbefore
        · exact absurd (List.mem_singleton.1 hlast) hmark

theorem controllerReference_again (owner : ManagedObject) (m : ObjectMeta) :
    Stamper.controllerReference owner (Stamper.controllerReference owner m).1 =
      Stamper.controllerReference owner m := by
  by_cases h : ∃ r, Markable owner m r
  · obtain ⟨r, hr⟩ := h
    rw [controllerReference_of_markable hr, controllerReference_of_markable hr.again, Option.getD_some, put_put]
  · rw [controllerReference_of_not_markable (not_exists.1 h)]

/-- An owner is marked exactly if a reference can name it, it is in no other namespace than the object, and nobody
else is the controller. A refusal leaves the metadata as they are, and a mark changes the owner references alone: it
goes in place of the first reference to the owner, or after all of them. All further tries end as the first one. -/
theorem marked_or_refused (owner : ManagedObject) (m : ObjectMeta) :
    let outcome := Stamper.controllerReference owner m
    (outcome.2 = none ↔ ∃ r, Names owner r ∧
      (∀ ns, owner.metadata.nameSpace = some ns → ns ≠ "" → m.nameSpace.getD "" = ns) ∧
      ∀ s ∈ m.ownerReferences.getD [], s.controller = some true →
        groupOf s.apiVersion = groupOf r.apiVersion ∧ s.kind = r.kind ∧ s.name = r.name) ∧
    ((∃ e, outcome = (m, some e)) ∨
      ∃ r references, Names owner r ∧ Placed r (m.ownerReferences.getD []) references ∧
        outcome = ({ m with ownerReferences := some references }, none)) ∧
    ∀ n, Stamper.controllerReference owner ((fun m => (Stamper.controllerReference owner m).1)^[n] m) = outcome := by
  intro outcome
  refine ⟨?_, ?_, ?_⟩
  · rw [controllerReference_eq_none_iff]
    exact exists_congr fun r => markable_iff
  · by_cases h : ∃ r, Markable owner m r
    · obtain ⟨r, hr⟩ := h
      right
      exact ⟨r, _, controllerReference?_eq_ok.1 hr.reference, placed_put _ r, controllerReference_of_markable hr⟩
    · left
      exact exists_refusal (not_exists.1 h)
  · intro n
    cases n with
    | zero => rfl
    | succ n =>
      have hfixed : (fun m => (Stamper.controllerReference owner m).1)^[n] outcome.1 = outcome.1 :=
        Function.iterate_fixed (congrArg Prod.fst (controllerReference_again owner m)) n
      rw [Function.iterate_succ_apply]
      show Stamper.controllerReference owner ((fun m => (Stamper.controllerReference owner m).1)^[n] outcome.1) = _
      rw [hfixed]
      exact controllerReference_again owner m

/-! ### One controller or two -/

/-- After an owner was marked, the controllers are the mark and the later references to the same owner that are
controllers already. So there is one controller, and it is the owner as it is now, exactly if no reference to the
owner but the first one is a controller. -/
theorem controllers_marked {owner : ManagedObject} {m : ObjectMeta}
    (h : (Stamper.controllerReference owner m).2 = none) :
    ∃ r, Names owner r ∧
      let before := m.ownerReferences.getD []
      let after := (Stamper.controllerReference owner m).1.ownerReferences.getD []
      controllers after = r :: controllers (laterTo r before) ∧
      (controllers after = [r] ↔ ∀ s ∈ laterTo r before, s.controller ≠ some true) := by
  obtain ⟨r, hr⟩ := controllerReference_eq_none_iff.1 h
  have hnames := controllerReference?_eq_ok.1 hr.reference
  have hcontrollers := (placed_put (m.ownerReferences.getD []) r).controllers
    (isController_iff.2 hnames.controller) (uncontrolled_eq_ok.1 hr.free)
  refine ⟨r, hnames, ?_⟩
  intro before after
  have hafter : controllers after = r :: controllers (laterTo r before) := by
    rw [← hcontrollers]
    show controllers ((Stamper.controllerReference owner m).1.ownerReferences.getD []) = _
    rw [controllerReference_of_markable hr, Option.getD_some]
  refine ⟨hafter, ?_⟩
  rw [hafter, List.cons_eq_cons, eq_self_iff_true, true_and, controllers, List.filter_eq_nil_iff]
  simp only [isController_iff, ne_eq]

def deployment : ManagedObject :=
  .builtin (BuiltinObject.plain "apps/v1" "Deployment" { name := some "quay-app", uid := some "new" })

/-- A reference to the owner, to an older version of it and with an older identifier. -/
def outdated (controller : Option Bool) : OwnerReference :=
  { apiVersion := "apps/v1beta1", kind := "Deployment", name := "quay-app", uid := "old", controller := controller }

/-- Metadata with references to the owner and to nobody else. -/
def referring (references : List OwnerReference) : ObjectMeta :=
  { name := some "quay-config", ownerReferences := some references }

theorem one_controller :
    (Stamper.controllerReference deployment (referring [outdated (some true), outdated none])).2 = none ∧
    ∃ r, Names deployment r ∧
      controllers ((Stamper.controllerReference deployment
        (referring [outdated (some true), outdated none])).1.ownerReferences.getD []) = [r] := by
  have hmarked : (Stamper.controllerReference deployment
      (referring [outdated (some true), outdated none])).2 = none := by decide
  obtain ⟨r, hnames, -, hone⟩ := controllers_marked hmarked
  refine ⟨hmarked, r, hnames, hone.2 ?_⟩
  intro s hs
  have hlater : s ∈ [outdated none] := List.filter_sublist.tail.subset hs
  rw [List.mem_singleton.1 hlater]
  decide

/-- A reference that is no controller comes before the one that is: there are two controllers afterwards. -/
theorem two_controllers :
    let m := referring [outdated none, outdated (some true)]
    controllers (m.ownerReferences.getD []) = [outdated (some true)] ∧
      (Stamper.controllerReference deployment m).2 = none ∧
      ¬ ∃ r, controllers ((Stamper.controllerReference deployment m).1.ownerReferences.getD []) = [r] := by
  intro m
  have htwo : (controllers ((Stamper.controllerReference deployment m).1.ownerReferences.getD [])).length = 2 := by
    decide
  refine ⟨by decide, by decide, ?_⟩
  rintro ⟨r, hr⟩
  rw [hr] at htwo
  cases htwo

end Ownership

end Reconciliation
