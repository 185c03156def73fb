import Reconciliation.Proofs.Resource.Metadata
import Reconciliation.Resource.Ownership
/-!
# Marking an owner twice

Marking an owner changes the owner references of an object and nothing else, and marking it again puts the same
reference in the same place. It may still be that the owner can be marked only the second time: when the object
was moved into the namespace of the owner in between (`MarkedLate`). That is the only way in which marking twice
differs from marking once (`marked_again`).
-/

namespace Reconciliation

namespace OwnerReference

theorem sameOwner_refl (r : OwnerReference) : r.sameOwner r := by
  simp [sameOwner]

theorem put_put (references : List OwnerReference) (r : OwnerReference) :
    put (put references r) r = put references r := by
  induction references with
  | nil => simp [put, sameOwner_refl]
  | cons s rest ih =>
    by_cases h : s.sameOwner r
    · simp [put, h, sameOwner_refl]
    · simp [put, h, ih]

end OwnerReference

namespace Ownership

variable {owner : ManagedObject} {m : ObjectMeta} {r : OwnerReference}

theorem sameNamespace_eq_ok {name : String} :
    sameNamespace owner name m = .ok () ↔
      ∀ ns, owner.metadata.nameSpace = some ns → ns ≠ "" → m.nameSpace.getD "" = ns := by
  rw [sameNamespace]
  cases owner.metadata.nameSpace with
  | none => simp
  | some ns =>
    by_cases hns : ns = ""
    · subst hns
      simp only [Option.some.injEq, ne_eq, forall_eq', not_true_eq_false, false_imp_iff, iff_true]
      rfl
    · rw [ObjectMeta.filter_of_ne hns]
      by_cases h : m.nameSpace.getD "" = ns <;> simp [hns, h]

/-- Whether an owner can be marked, with the reference that names it. -/
structure Markable (owner : ManagedObject) (m : ObjectMeta) (r : OwnerReference) : Prop where
  reference : controllerReference? owner = .ok r
  nameSpace : sameNamespace owner r.name m = .ok ()
  free : uncontrolled (m.ownerReferences.getD []) r = .ok ()

/-- The owner references after an owner was marked, or as they were if it cannot be. -/
def marked (owner : ManagedObject) (m : ObjectMeta) : Option (List OwnerReference) :=
  (Stamper.controllerReference owner m).1.ownerReferences

theorem controllerReference_of_markable (h : Markable owner m r) :
    Stamper.controllerReference owner m =
      ({ m with ownerReferences := some (OwnerReference.put (m.ownerReferences.getD []) r) }, none) := by
  simp only [Stamper.controllerReference, own, h.reference, h.nameSpace, h.free]

/-- An owner that cannot be marked is refused, and the metadata stay as they are. -/
theorem exists_refusal (h : ∀ r, ¬ Markable owner m r) : ∃ e, Stamper.controllerReference owner m = (m, some e) := by
  rw [Stamper.controllerReference, own]
  cases hr : controllerReference? owner with
  | error e => exact ⟨e, rfl⟩
  | ok r =>
    cases hnamespace : sameNamespace owner r.name m with
    | error e => exact ⟨e, by simp only [hnamespace]⟩
    | ok _ =>
      cases hfree : uncontrolled (m.ownerReferences.getD []) r with
      | ok _ => exact absurd ⟨hr, hnamespace, hfree⟩ (h r)
      | error e =>
        -- Some reference is in the way, so the list that it is in was there before.
        have hlisted : some (m.ownerReferences.getD []) = m.ownerReferences := by
          cases hreferences : m.ownerReferences with
          | some references => rfl
          | none =>
            rw [hreferences] at hfree
            cases hfree
        exact ⟨e, by simp only [hnamespace, hfree, hlisted]⟩

theorem controllerReference_of_not_markable (h : ∀ r, ¬ Markable owner m r) :
    (Stamper.controllerReference owner m).1 = m := by
  obtain ⟨e, heq⟩ := exists_refusal h
  rw [heq]

/-- Marking an owner changes nothing but the owner references. -/
theorem controllerReference_eq (owner : ManagedObject) (m : ObjectMeta) :
    (Stamper.controllerReference owner m).1 = { m with ownerReferences := marked owner m } := by
  by_cases h : ∃ r, Markable owner m r
  · obtain ⟨r, h⟩ := h
    rw [marked, controllerReference_of_markable h]
  · rw [marked, controllerReference_of_not_markable (not_exists.1 h)]

theorem marked_of_markable (h : Markable owner m r) :
    marked owner m = some (OwnerReference.put (m.ownerReferences.getD []) r) := by
  rw [marked, controllerReference_of_markable h]

theorem marked_of_not_markable (h : ∀ r, ¬ Markable owner m r) : marked owner m = m.ownerReferences := by
  rw [marked, controllerReference_of_not_markable h]

/-- Whether an owner can be marked only after the object was moved to another namespace, that of the owner,
and was not marked before. -/
structure MarkedLate (owner : ManagedObject) (target : Option String) (m : ObjectMeta) (r : OwnerReference) :
    Prop where
  reference : controllerReference? owner = .ok r
  nameSpace : ∃ ns, ns ≠ "" ∧ owner.metadata.nameSpace = some ns ∧ target = some ns ∧
    m.nameSpace.getD "" ≠ ns
  free : uncontrolled (m.ownerReferences.getD []) r = .ok ()
  unmarked : m.ownerReferences ≠ some (OwnerReference.put (m.ownerReferences.getD []) r)

/-- An object can be marked only in another namespace exactly if that is the namespace of the owner. -/
theorem sameNamespace_moved {target : Option String} (name : String) :
    (sameNamespace owner name m ≠ .ok () ∧ sameNamespace owner name (m.inNamespace target) = .ok ()) ↔
      ∃ ns, ns ≠ "" ∧ owner.metadata.nameSpace = some ns ∧ target = some ns ∧
        m.nameSpace.getD "" ≠ ns := by
  constructor
  · rintro ⟨hapart, hjoined⟩
    rw [ne_eq, sameNamespace_eq_ok] at hapart
    push Not at hapart
    obtain ⟨ns, howner, hns, hne⟩ := hapart
    have hnow := sameNamespace_eq_ok.1 hjoined ns howner hns
    refine ⟨ns, hns, howner, ?_, hne⟩
    cases target with
    | none => exact absurd hnow hne
    | some ns' =>
      by_cases hns' : ns' = ""
      · rw [hns', ObjectMeta.inNamespace_empty] at hnow
        exact absurd hnow hne
      · rw [ObjectMeta.inNamespace_of_ne m hns'] at hnow
        exact congrArg some hnow
  · rintro ⟨ns, hns, howner, rfl, hne⟩
    refine ⟨fun h => hne (sameNamespace_eq_ok.1 h ns howner hns), ?_⟩
    rw [sameNamespace_eq_ok, ObjectMeta.inNamespace_of_ne m hns]
    intro ns' howner' _
    exact Option.some.inj (howner.symm.trans howner')

theorem Markable.reference_eq {r' : OwnerReference} (h : Markable owner m r)
    (h' : controllerReference? owner = .ok r') : r' = r :=
  Except.ok.inj (h'.symm.trans h.reference)

/-- Marking an owner again, after the object was moved, changes the owner references exactly if the owner could
not be marked before. -/
theorem marked_again {m' : ObjectMeta} {target : Option String}
    (nameSpace : m'.nameSpace = (m.inNamespace target).nameSpace)
    (references : m'.ownerReferences = marked owner m) :
    marked owner m' = marked owner m ↔ ¬ ∃ r, MarkedLate owner target m r := by
  have hmoved : ∀ name, sameNamespace owner name m' = sameNamespace owner name (m.inNamespace target) :=
    fun name => by rw [sameNamespace, sameNamespace, nameSpace]
  by_cases h : ∃ r, Markable owner m r
  · obtain ⟨r, h⟩ := h
    rw [marked_of_markable h] at references ⊢
    refine iff_of_true ?_ ?_
    · by_cases h' : ∃ r', Markable owner m' r'
      · obtain ⟨r', h'⟩ := h'
        rw [marked_of_markable h', h.reference_eq h'.reference, references, Option.getD_some,
          OwnerReference.put_put]
      · rw [marked_of_not_markable (not_exists.1 h'), references]
    · rintro ⟨r', hlate⟩
      have hapart := ((sameNamespace_moved r.name).2 hlate.nameSpace).1
      exact hapart h.nameSpace
  · rw [marked_of_not_markable (not_exists.1 h)] at references ⊢
    by_cases h' : ∃ r, Markable owner m' r
    · obtain ⟨r, h'⟩ := h'
      have hfree := h'.free
      rw [references] at hfree
      -- Nothing but the namespace can have kept the owner from being marked.
      have hapart : sameNamespace owner r.name m ≠ .ok () := fun hnamespace =>
        h ⟨r, h'.reference, hnamespace, hfree⟩
      have hns := (sameNamespace_moved r.name).1 ⟨hapart, (hmoved r.name).symm.trans h'.nameSpace⟩
      rw [marked_of_markable h', references]
      constructor
      · rintro heq ⟨r', hlate⟩
        rw [h'.reference_eq hlate.reference] at hlate
        exact hlate.unmarked heq.symm
      · intro hnot
        by_contra hne
        exact hnot ⟨r, h'.reference, hns, hfree, Ne.symm hne⟩
    · rw [marked_of_not_markable (not_exists.1 h'), references]
      refine iff_of_true rfl ?_
      rintro ⟨r, hlate⟩
      have hjoined := ((sameNamespace_moved r.name).2 hlate.nameSpace).2
      exact h' ⟨r, hlate.reference, (hmoved r.name).trans hjoined, by rw [references]; exact hlate.free⟩

end Ownership

/-- A stamper that leaves the name, the namespace and the version of an object alone. -/
structure Stamper.Discreet (stamper : Stamper) : Prop where
  name : ∀ owner m, (stamper owner m).1.name = m.name
  nameSpace : ∀ owner m, (stamper owner m).1.nameSpace = m.nameSpace
  resourceVersion : ∀ owner m, (stamper owner m).1.resourceVersion = m.resourceVersion

/-- A stamper that leaves all but the owner references alone. -/
def Stamper.MarksOwners (stamper : Stamper) : Prop :=
  ∀ owner m, (stamper owner m).1 = { m with ownerReferences := (stamper owner m).1.ownerReferences }

theorem Stamper.MarksOwners.discreet {stamper : Stamper} (h : stamper.MarksOwners) : stamper.Discreet where
  name owner m := by rw [h]
  nameSpace owner m := by rw [h]
  resourceVersion owner m := by rw [h]

theorem Stamper.marksOwners_controllerReference : Stamper.controllerReference.MarksOwners :=
  Ownership.controllerReference_eq

theorem Stamper.discreet_controllerReference : Stamper.controllerReference.Discreet :=
  Stamper.marksOwners_controllerReference.discreet

end Reconciliation
