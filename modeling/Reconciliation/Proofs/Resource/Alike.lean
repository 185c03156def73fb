import Mathlib.Order.Basic
import Reconciliation.Proofs.Memory.Operation
import Reconciliation.Proofs.Resource.Ownership
import Reconciliation.Proofs.Resource.Tracked
/-!
# Objects alike in two runs

Stores that count differently give one object different versions, and different identifiers if it brings none. A
`Matching` says which version of one run stands for which version of the other. Objects are alike up to a matching if
they differ in matching versions and in generated identifiers alone. Whatever is made of alike objects without a look
at these is alike again, and the forms in which a store keeps them are.
-/

namespace Reconciliation

/-- Which version of one run stands for which version of another. -/
abbrev Matching : Type := String → String → Prop

/-- Both succeed or both fail, with related values. -/
inductive ExceptAlike {ε ε' α α' : Type} (E : ε → ε' → Prop) (A : α → α' → Prop) : Except ε α → Except ε' α' → Prop
  | ok {a : α} {a' : α'} (h : A a a') : ExceptAlike E A (.ok a) (.ok a')
  | error {e : ε} {e' : ε'} (h : E e e') : ExceptAlike E A (.error e) (.error e')

theorem optionRel_mono {α β : Type} {r r' : α → β → Prop} {a : Option α} {b : Option β} (h : Option.Rel r a b)
    (hr : ∀ a b, r a b → r' a b) : Option.Rel r' a b := by
  cases h with
  | none => exact .none
  | some h => exact .some (hr _ _ h)

variable {V V' : Matching}

namespace ObjectMeta

variable {m m' w w' : ObjectMeta}

/-- An identifier that a store made. -/
def Generated (uid : Option String) : Prop :=
  ∃ version, uid = some ("memory-" ++ version)

def UidAlike (uid uid' : Option String) : Prop :=
  uid = uid' ∨ Generated uid ∧ Generated uid'

/-- Metadata that differ in matching versions and in generated identifiers alone. -/
structure Alike (V : Matching) (m m' : ObjectMeta) : Prop where
  rest : m' = { m with resourceVersion := m'.resourceVersion, uid := m'.uid }
  version : Option.Rel V m.resourceVersion m'.resourceVersion
  uid : UidAlike m.uid m'.uid

theorem UidAlike.orElse {u u' v v' : Option String} (h : UidAlike u u') (hv : UidAlike v v') :
    UidAlike (u <|> v) (u' <|> v') := by
  rcases h with rfl | ⟨⟨version, rfl⟩, ⟨version', rfl⟩⟩
  · cases u with
    | none => exact hv
    | some u => exact .inl rfl
  · exact .inr ⟨⟨version, rfl⟩, ⟨version', rfl⟩⟩

theorem Alike.mono (h : Alike V m m') (hV : V ≤ V') : Alike V' m m' :=
  ⟨h.rest, optionRel_mono h.version hV, h.uid⟩

theorem Alike.name (h : Alike V m m') : m'.name = m.name := by
  rw [h.rest]

theorem Alike.nameSpace (h : Alike V m m') : m'.nameSpace = m.nameSpace := by
  rw [h.rest]

theorem Alike.withVersion (h : Alike V m m') {v v' : Option String} (hv : Option.Rel V v v') :
    Alike V { m with resourceVersion := v } { m' with resourceVersion := v' } where
  rest := by rw [h.rest]
  version := hv
  uid := h.uid

theorem Alike.withUid (h : Alike V m m') {u u' : Option String} (hu : UidAlike u u') :
    Alike V { m with uid := u } { m' with uid := u' } where
  rest := by rw [h.rest]
  version := h.version
  uid := hu

theorem Alike.inNamespace (h : Alike V m m') (target : Option String) :
    Alike V (m.inNamespace target) (m'.inNamespace target) := by
  unfold ObjectMeta.inNamespace
  cases target.filter (· != "") with
  | none => exact h
  | some ns => exact ⟨by rw [h.rest], h.version, h.uid⟩

theorem Alike.adopt (h : Alike V m m') (hw : Alike V w w') : Alike V (m.adopt w) (m'.adopt w') :=
  (h.withVersion hw.version).withUid (hw.uid.orElse h.uid)

end ObjectMeta

/-- Whether a stamper marks an owner without a look at the version and the identifier of what it marks. -/
def Stamper.Blind (stamper : Stamper) : Prop :=
  ∀ owner m version uid, (stamper owner { m with resourceVersion := version, uid := uid }).1 =
    { (stamper owner m).1 with resourceVersion := version, uid := uid }

theorem Stamper.blind_controllerReference : Stamper.controllerReference.Blind := by
  intro owner m version uid
  unfold Stamper.controllerReference Ownership.own
  cases Ownership.controllerReference? owner with
  | error e => rfl
  | ok r =>
    have hnamespace : Ownership.sameNamespace owner r.name { m with resourceVersion := version, uid := uid } =
        Ownership.sameNamespace owner r.name m := rfl
    simp only [hnamespace]
    cases Ownership.sameNamespace owner r.name m with
    | error e => rfl
    | ok _ => cases Ownership.uncontrolled (m.ownerReferences.getD []) r <;> rfl

theorem Stamper.Blind.alike {stamper : Stamper} (hs : stamper.Blind) (owner : ManagedObject) {m m' : ObjectMeta}
    (h : m.Alike V m') : (stamper owner m).1.Alike V (stamper owner m').1 := by
  have hm := hs owner m m.resourceVersion m.uid
  have hm' := hs owner m m'.resourceVersion m'.uid
  rw [← h.rest] at hm'
  rw [hm, hm']
  exact ⟨rfl, h.version, h.uid⟩

namespace DynamicObject

variable {d d' : DynamicObject}

structure Alike (V : Matching) (d d' : DynamicObject) : Prop where
  types : d'.types = d.types
  data : d'.data = d.data
  metadata : d.metadata.Alike V d'.metadata

theorem Alike.mono (h : Alike V d d') (hV : V ≤ V') : Alike V' d d' :=
  ⟨h.types, h.data, h.metadata.mono hV⟩

theorem Alike.storeKey (h : Alike V d d') : storeKey d' = storeKey d :=
  storeKey_congr h.types h.metadata.name h.metadata.nameSpace

theorem Alike.status? (h : Alike V d d') : d'.status? = d.status? := by
  rw [DynamicObject.status?, DynamicObject.status?, h.data]

theorem Alike.withStatus (h : Alike V d d') (status : Option Json) :
    Alike V (d.withStatus status) (d'.withStatus status) where
  types := by simp [h.types]
  data := by
    simp only [DynamicObject.withStatus, h.data]
    split
    · rfl
    · exact h.data
  metadata := by simpa using h.metadata

theorem Alike.withMetadata (h : Alike V d d') {m m' : ObjectMeta} (hm : m.Alike V' m') :
    Alike V' { d with metadata := m } { d' with metadata := m' } :=
  ⟨h.types, h.data, hm⟩

end DynamicObject

namespace ManagedObject

variable {o o' : ManagedObject}

structure Alike (V : Matching) (o o' : ManagedObject) : Prop where
  rest : o' = o.withMetadata o'.metadata
  metadata : o.metadata.Alike V o'.metadata

theorem Alike.mono (h : Alike V o o') (hV : V ≤ V') : Alike V' o o' :=
  ⟨h.rest, h.metadata.mono hV⟩

theorem Alike.withMetadata (h : Alike V o o') {m m' : ObjectMeta} (hm : m.Alike V' m') :
    Alike V' (o.withMetadata m) (o'.withMetadata m') where
  rest := by
    rw [h.rest]
    simp
  metadata := by simpa using hm

theorem Alike.key (h : Alike V o o') : ObjectKey.of o' = ObjectKey.of o := by
  have htypes : o'.types = o.types := by rw [h.rest, types_withMetadata]
  simp only [ObjectKey.of, ObjectKey.ofParts, htypes, h.metadata.name, h.metadata.nameSpace]

theorem Alike.tracksStatus (h : Alike V o o') : o'.tracksStatus = o.tracksStatus := by
  rw [h.rest]
  cases o <;> rfl

theorem Alike.status? (h : Alike V o o') : o'.status? = o.status? := by
  rw [h.rest]
  cases o <;> rfl

theorem Alike.withStatus (h : Alike V o o') (s : Status) : Alike V (o.withStatus s) (o'.withStatus s) where
  rest := by
    rw [metadata_withStatus, ← withStatus_withMetadata, ← h.rest]
  metadata := by simpa using h.metadata

theorem Alike.toDynamic (h : Alike V o o') :
    ExceptAlike Eq (DynamicObject.Alike V) o.toDynamic o'.toDynamic := by
  rw [h.rest]
  cases hd : o.toDynamic with
  | error e =>
    rw [toDynamic_withMetadata_error hd]
    exact .error rfl
  | ok d =>
    obtain ⟨-, hmetadata, -⟩ := toDynamic_ok hd
    rw [toDynamic_withMetadata hd]
    exact .ok ⟨rfl, rfl, hmetadata ▸ h.metadata⟩

end ManagedObject

namespace Memory

variable {d d' w w' : DynamicObject} {version version' : String}

/-! ### Stored forms -/

theorem alike_withVersion (h : d.Alike V d') (hv : V version version') :
    (withVersion d version).Alike V (withVersion d' version') :=
  h.withMetadata (h.metadata.withVersion (.some hv))

theorem alike_newObject (h : d.Alike V d') (hv : V version version') :
    (newObject d version).Alike V (newObject d' version') := by
  have hstatus := (alike_withVersion h hv).withStatus none
  have huid : ObjectMeta.UidAlike (some ("memory-" ++ version)) (some ("memory-" ++ version')) :=
    .inr ⟨⟨version, rfl⟩, ⟨version', rfl⟩⟩
  exact hstatus.withMetadata (hstatus.metadata.withUid (hstatus.metadata.uid.orElse huid))

theorem alike_updatedObject (h : d.Alike V d') (hw : w.Alike V w') (hv : V version version') :
    (updatedObject w d version).Alike V (updatedObject w' d' version') := by
  have hstatus := (alike_withVersion h hv).withStatus w.status?
  rw [updatedObject, updatedObject, hw.status?]
  exact hstatus.withMetadata (hstatus.metadata.withUid hw.metadata.uid)

theorem alike_restatedObject (h : d.Alike V d') (hw : w.Alike V w') (hv : V version version') :
    (restatedObject w d version).Alike V (restatedObject w' d' version') := by
  rw [restatedObject, restatedObject, h.status?]
  exact (alike_withVersion hw hv).withStatus d.status?

end Memory

end Reconciliation
