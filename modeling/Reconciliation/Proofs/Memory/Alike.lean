import Reconciliation.Proofs.Memory.Invariant
import Reconciliation.Proofs.Resource.Alike
/-!
# Stores that answer alike

Two stores in memory that count differently answer alike calls alike as long as they hold alike objects under the
paths that are asked for (`respond_alike`). The versions that they issue for the two are then matched as well, and
since neither was issued before, the matching stays one to one.
-/

namespace Reconciliation

/-- The same failure, but for the text of a conflict, which names the version that is stale. -/
inductive StoreError.Alike : StoreError → StoreError → Prop
  | refl (e : StoreError) : Alike e e
  | conflict (kind name text text' : String) : Alike (.conflict kind name text) (.conflict kind name text')

namespace StoreError.Alike

variable {e e' : StoreError}

theorem isNotFound (h : e.Alike e') : e'.isNotFound = e.isNotFound := by
  cases h <;> rfl

theorem isAlreadyExists (h : e.Alike e') : e'.isAlreadyExists = e.isAlreadyExists := by
  cases h <;> rfl

end StoreError.Alike

namespace StoreCall

inductive Alike (V : Matching) : StoreCall → StoreCall → Prop
  | get (k : ObjectKey) : Alike V (.get k) (.get k)
  | create {d d' : DynamicObject} (h : d.Alike V d') : Alike V (.create d) (.create d')
  | update {d d' : DynamicObject} (h : d.Alike V d') : Alike V (.update d) (.update d')
  | updateStatus {d d' : DynamicObject} (h : d.Alike V d') : Alike V (.updateStatus d) (.updateStatus d')
  | delete {d d' : DynamicObject} (h : d.Alike V d') : Alike V (.delete d) (.delete d')

/-- Alike answers to two calls of one kind. -/
def AnswersAlike (V : Matching) : (c c' : StoreCall) → c.Answer → c'.Answer → Prop
  | .get _, .get _, a, a' => ExceptAlike StoreError.Alike (DynamicObject.Alike V) a a'
  | .create _, .create _, a, a' => ExceptAlike StoreError.Alike (DynamicObject.Alike V) a a'
  | .update _, .update _, a, a' => ExceptAlike StoreError.Alike (DynamicObject.Alike V) a a'
  | .updateStatus _, .updateStatus _, a, a' => ExceptAlike StoreError.Alike (DynamicObject.Alike V) a a'
  | .delete _, .delete _, a, a' => ExceptAlike StoreError.Alike Eq a a'
  | _, _, _, _ => False

variable {V : Matching} {c c' : StoreCall}

theorem Alike.touched? (h : Alike V c c') : c'.touched? = c.touched? := by
  cases h with
  | get k => rfl
  | create h | update h | updateStatus h | delete h =>
    simp only [StoreCall.touched?, path?, h.storeKey]

end StoreCall

/-- The matching with one more pair of versions. -/
def Matching.extend (V : Matching) (version version' : String) : Matching :=
  fun a a' => V a a' ∨ a = version ∧ a' = version'

theorem Matching.le_extend (V : Matching) (version version' : String) : V ≤ V.extend version version' :=
  fun _ _ h => .inl h

theorem Matching.extend_self (V : Matching) (version version' : String) :
    V.extend version version' version version' :=
  .inr ⟨rfl, rfl⟩

namespace Memory

variable {V : Matching} {paths : String → Prop} {m m' : Memory} {k : ObjectKey} {o o' w w' : DynamicObject}
  {c c' : StoreCall} {path : String}

/-- Two stores that hold alike objects under some paths. The matching of their versions is one to one, and it speaks
of no versions that are yet to be issued. -/
structure Coupled (V : Matching) (paths : String → Prop) (m m' : Memory) : Prop where
  oneToOne : ∀ a a' b b', V a a' → V b b' → (a = b ↔ a' = b')
  left : ∀ n a', V (toString n) a' → n ≤ m.version
  right : ∀ a n, V a (toString n) → n ≤ m'.version
  objects : ∀ path, paths path →
    Option.Rel (DynamicObject.Alike V) (m.objects.find? path) (m'.objects.find? path)
  rejectsStatus : m'.rejectsStatus = m.rejectsStatus

/-- Stores that answered alike are coupled again, by a matching that may have grown. -/
def AnswersCoupled (V : Matching) (paths : String → Prop) (c c' : StoreCall) (answer : c.Answer × Memory)
    (answer' : c'.Answer × Memory) : Prop :=
  ∃ V', V ≤ V' ∧ Coupled V' paths answer.2 answer'.2 ∧ StoreCall.AnswersAlike V' c c' answer.1 answer'.1

/-- No call makes the store reject status writes or accept them again. -/
theorem rejectsStatus_respond (c : StoreCall) (m : Memory) : (respond c m).2.rejectsStatus = m.rejectsStatus := by
  have hwrite : ∀ k o write m, (overwrite k o write m).2.rejectsStatus = m.rejectsStatus := by
    intro k o write m
    rcases overwrite_cases k o write m with ⟨e, h⟩ | ⟨w, -, h⟩
    · rw [h]
    · rw [h]
      rfl
  cases c with
  | get k =>
    rw [respond, get]
    split <;> rfl
  | create o =>
    rw [respond, create]
    split
    · rfl
    · dsimp only
      split_ifs <;> rfl
  | update o =>
    rw [respond, update]
    split
    · rfl
    · exact hwrite _ _ _ _
  | updateStatus o =>
    rw [respond, updateStatus]
    split
    · rfl
    · dsimp only
      split_ifs
      · rfl
      · exact hwrite _ _ _ _
  | delete o =>
    rw [respond, delete]
    split
    · rfl
    · dsimp only
      split_ifs <;> rfl

/-! ### Changes of both stores -/

theorem Coupled.record (h : Coupled V paths m m') (kind : CallKind) (path : String) :
    Coupled V paths (m.record kind path) (m'.record kind path) :=
  ⟨h.oneToOne, h.left, h.right, h.objects, h.rejectsStatus⟩

/-- The next versions of both stores can be matched. -/
theorem Coupled.oneToOne_extend (h : Coupled V paths m m') (a a' b b' : String)
    (ha : V.extend m.nextVersion m'.nextVersion a a') (hb : V.extend m.nextVersion m'.nextVersion b b') :
    a = b ↔ a' = b' := by
  have hleft : ∀ c', ¬ V m.nextVersion c' := fun c' hc => Nat.not_succ_le_self _ (h.left _ _ hc)
  have hright : ∀ c, ¬ V c m'.nextVersion := fun c hc => Nat.not_succ_le_self _ (h.right _ _ hc)
  rcases ha with ha | ⟨rfl, rfl⟩ <;> rcases hb with hb | ⟨rfl, rfl⟩
  · exact h.oneToOne a a' b b' ha hb
  · exact iff_of_false (fun heq => hleft a' (heq ▸ ha)) (fun heq => hright a (heq ▸ ha))
  · exact iff_of_false (fun heq => hleft b' (heq ▸ hb)) (fun heq => hright b (heq ▸ hb))
  · exact iff_of_true rfl rfl

theorem Coupled.put (h : Coupled V paths m m') (path : String)
    (ho : o.Alike (V.extend m.nextVersion m'.nextVersion) o') :
    Coupled (V.extend m.nextVersion m'.nextVersion) paths (m.put path o) (m'.put path o') where
  oneToOne := h.oneToOne_extend
  left n a' hn := by
    rcases hn with hn | ⟨hn, -⟩
    · exact Nat.le_succ_of_le (h.left n a' hn)
    · exact (toString_version_inj hn).le
  right a n hn := by
    rcases hn with hn | ⟨-, hn⟩
    · exact Nat.le_succ_of_le (h.right a n hn)
    · exact (toString_version_inj hn).le
  objects p hp := by
    rw [Memory.put, Memory.put, Table.find?_insert, Table.find?_insert]
    split_ifs
    · exact .some ho
    · exact optionRel_mono (h.objects p hp) fun _ _ halike => halike.mono (V.le_extend _ _)
  rejectsStatus := h.rejectsStatus

theorem Coupled.erase (h : Coupled V paths m m') (path : String) :
    Coupled V paths { m with objects := m.objects.erase path } { m' with objects := m'.objects.erase path } where
  oneToOne := h.oneToOne
  left := h.left
  right := h.right
  objects p hp := by
    rw [Table.find?_erase, Table.find?_erase]
    split_ifs
    · exact .none
    · exact h.objects p hp
  rejectsStatus := h.rejectsStatus

/-- What others do elsewhere to one of the stores leaves them coupled. -/
theorem Coupled.respond_elsewhere (h : Coupled V paths m m')
    (hpaths : ∀ path, c.touched? = some path → ¬ paths path) : Coupled V paths m (respond c m').2 where
  oneToOne := h.oneToOne
  left := h.left
  right a n hn := (h.right a n hn).trans (response c m').version_le
  objects p hp := by
    rw [(response c m').find?_eq fun hc => hpaths p (StoreCall.touched?_of_path? hc.1) hp]
    exact h.objects p hp
  rejectsStatus := by
    rw [rejectsStatus_respond]
    exact h.rejectsStatus

/-! ### Alike answers -/

theorem Coupled.stored (h : Coupled V paths m m') (hk : paths k.path) :
    (m.stored k = none ∧ m'.stored k = none) ∨
      ∃ w w', m.stored k = some w ∧ m'.stored k = some w' ∧ w.Alike V w' := by
  have hobjects := h.objects k.path hk
  rw [Memory.stored, Memory.stored]
  generalize m.objects.find? k.path = found at hobjects ⊢
  generalize m'.objects.find? k.path = found' at hobjects ⊢
  cases hobjects with
  | none => exact .inl ⟨rfl, rfl⟩
  | some halike => exact .inr ⟨_, _, rfl, rfl, halike⟩

/-- Whether a version is stale is the same in both stores, as the matching is one to one. -/
theorem checkVersion_alike (h : Coupled V paths m m') (hw : w.Alike V w') (ho : o.Alike V o') (k : ObjectKey) :
    (∃ e e', checkVersion k w o = .error e ∧ checkVersion k w' o' = .error e' ∧ e.Alike e') ∨
      checkVersion k w o = .ok () ∧ checkVersion k w' o' = .ok () := by
  have hstored := hw.metadata.version
  have hincoming := ho.metadata.version
  unfold checkVersion
  generalize w.metadata.resourceVersion = stored at hstored ⊢
  generalize w'.metadata.resourceVersion = stored' at hstored ⊢
  generalize o.metadata.resourceVersion = incoming at hincoming ⊢
  generalize o'.metadata.resourceVersion = incoming' at hincoming ⊢
  cases hincoming with
  | none => exact .inr ⟨rfl, rfl⟩
  | @some a a' ha =>
    have hiff : stored = some a ↔ stored' = some a' := by
      cases hstored with
      | none => simp
      | some hb => simpa using h.oneToOne _ _ _ _ hb ha
    dsimp only
    by_cases hsame : stored = some a
    · rw [if_pos hsame, if_pos (hiff.1 hsame)]
      exact .inr ⟨rfl, rfl⟩
    · rw [if_neg hsame, if_neg (mt hiff.2 hsame)]
      exact .inl ⟨_, _, rfl, rfl, .conflict _ _ _ _⟩

theorem overwrite_alike (h : Coupled V paths m m') (hk : paths k.path) (ho : o.Alike V o')
    {write : DynamicObject → DynamicObject → String → DynamicObject}
    (hwrite : ∀ {V' : Matching} {w w' : DynamicObject} {version version' : String}, o.Alike V' o' → w.Alike V' w' →
      V' version version' → (write w o version).Alike V' (write w' o' version')) :
    ∃ V', V ≤ V' ∧ Coupled V' paths (overwrite k o write m).2 (overwrite k o' write m').2 ∧
      ExceptAlike StoreError.Alike (DynamicObject.Alike V') (overwrite k o write m).1 (overwrite k o' write m').1 := by
  rcases h.stored hk with ⟨hnone, hnone'⟩ | ⟨w, w', hsome, hsome', hw⟩
  · rw [overwrite_absent write hnone, overwrite_absent write hnone']
    exact ⟨V, le_rfl, h, .error (.refl _)⟩
  · rcases checkVersion_alike h hw ho k with ⟨e, e', hstale, hstale', he⟩ | ⟨hcurrent, hcurrent'⟩
    · rw [overwrite_stale write hsome hstale, overwrite_stale write hsome' hstale']
      exact ⟨V, le_rfl, h, .error he⟩
    · have hle := V.le_extend m.nextVersion m'.nextVersion
      have hnew := hwrite (ho.mono hle) (hw.mono hle) (V.extend_self _ _)
      rw [overwrite_present write hsome hcurrent, overwrite_present write hsome' hcurrent']
      exact ⟨_, hle, h.put k.path hnew, .ok hnew⟩

theorem respond_get_alike (h : Coupled V paths m m') (hk : paths k.path) :
    AnswersCoupled V paths (.get k) (.get k) (respond (.get k) m) (respond (.get k) m') := by
  have hrecord := h.record .get k.path
  rcases h.stored hk with ⟨hnone, hnone'⟩ | ⟨w, w', hsome, hsome', hw⟩
  · rw [respond, get_absent hnone, get_absent hnone']
    exact ⟨V, le_rfl, hrecord, .error (.refl _)⟩
  · rw [respond, get_present hsome, get_present hsome']
    exact ⟨V, le_rfl, hrecord, .ok hw⟩

theorem respond_create_alike (h : Coupled V paths m m') (ho : o.Alike V o')
    (hpaths : ∀ k, storeKey o = .ok k → paths k.path) :
    AnswersCoupled V paths (.create o) (.create o') (respond (.create o) m) (respond (.create o') m') := by
  rw [respond, respond]
  cases hk : storeKey o with
  | error e =>
    rw [create_invalid hk, create_invalid (ho.storeKey.trans hk)]
    exact ⟨V, le_rfl, h, .error (.refl _)⟩
  | ok k =>
    have hrecord := h.record .create k.path
    have hk' := ho.storeKey.trans hk
    rcases h.stored (hpaths k hk) with ⟨hnone, hnone'⟩ | ⟨w, w', hsome, hsome', hw⟩
    · have hle := V.le_extend m.nextVersion m'.nextVersion
      have hnew := alike_newObject (ho.mono hle) (V.extend_self m.nextVersion m'.nextVersion)
      rw [create_absent hk hnone, create_absent hk' hnone']
      exact ⟨_, hle, hrecord.put k.path hnew, .ok hnew⟩
    · rw [create_present hk hsome, create_present hk' hsome']
      exact ⟨V, le_rfl, hrecord, .error (.refl _)⟩

theorem respond_update_alike (h : Coupled V paths m m') (ho : o.Alike V o')
    (hpaths : ∀ k, storeKey o = .ok k → paths k.path) :
    AnswersCoupled V paths (.update o) (.update o') (respond (.update o) m) (respond (.update o') m') := by
  rw [respond, respond]
  cases hk : storeKey o with
  | error e =>
    rw [update_invalid hk, update_invalid (ho.storeKey.trans hk)]
    exact ⟨V, le_rfl, h, .error (.refl _)⟩
  | ok k =>
    rw [update_eq hk, update_eq (ho.storeKey.trans hk)]
    exact overwrite_alike (h.record .update k.path) (hpaths k hk) ho alike_updatedObject

theorem respond_updateStatus_alike (h : Coupled V paths m m') (ho : o.Alike V o')
    (hpaths : ∀ k, storeKey o = .ok k → paths k.path) :
    AnswersCoupled V paths (.updateStatus o) (.updateStatus o') (respond (.updateStatus o) m)
      (respond (.updateStatus o') m') := by
  rw [respond, respond]
  cases hk : storeKey o with
  | error e =>
    rw [updateStatus_invalid hk, updateStatus_invalid (ho.storeKey.trans hk)]
    exact ⟨V, le_rfl, h, .error (.refl _)⟩
  | ok k =>
    have hk' := ho.storeKey.trans hk
    have hrecord := h.record .updateStatus k.path
    cases hr : m.rejectsStatus with
    | true =>
      rw [updateStatus_rejected hk hr, updateStatus_rejected hk' (h.rejectsStatus.trans hr)]
      exact ⟨V, le_rfl, hrecord, .error (.refl _)⟩
    | false =>
      rw [updateStatus_eq hk hr, updateStatus_eq hk' (h.rejectsStatus.trans hr)]
      exact overwrite_alike hrecord (hpaths k hk) ho alike_restatedObject

theorem respond_delete_alike (h : Coupled V paths m m') (ho : o.Alike V o')
    (hpaths : ∀ k, storeKey o = .ok k → paths k.path) :
    AnswersCoupled V paths (.delete o) (.delete o') (respond (.delete o) m) (respond (.delete o') m') := by
  rw [respond, respond]
  cases hk : storeKey o with
  | error e =>
    rw [delete_invalid hk, delete_invalid (ho.storeKey.trans hk)]
    exact ⟨V, le_rfl, h, .error (.refl _)⟩
  | ok k =>
    have hk' := ho.storeKey.trans hk
    have hrecord := h.record .delete k.path
    rcases h.stored (hpaths k hk) with ⟨hnone, hnone'⟩ | ⟨w, w', hsome, hsome', hw⟩
    · rw [delete_absent hk hnone, delete_absent hk' hnone']
      exact ⟨V, le_rfl, hrecord, .error (.refl _)⟩
    · rw [delete_present hk hsome, delete_present hk' hsome']
      exact ⟨V, le_rfl, hrecord.erase k.path, .ok rfl⟩

/-- Coupled stores answer alike calls alike and stay coupled. -/
theorem respond_alike (h : Coupled V paths m m') (hc : c.Alike V c')
    (hpaths : ∀ path, c.touched? = some path → paths path) :
    AnswersCoupled V paths c c' (respond c m) (respond c' m') := by
  have hkey : ∀ o, (c = .create o ∨ c = .update o ∨ c = .updateStatus o ∨ c = .delete o) →
      ∀ k, storeKey o = .ok k → paths k.path := fun o ho k hk =>
    hpaths k.path (StoreCall.touched?_of_path? (path?_of_storeKey ho hk))
  cases hc with
  | get k => exact respond_get_alike h (hpaths k.path rfl)
  | create ho => exact respond_create_alike h ho (hkey _ (by simp))
  | update ho => exact respond_update_alike h ho (hkey _ (by simp))
  | updateStatus ho => exact respond_updateStatus_alike h ho (hkey _ (by simp))
  | delete ho => exact respond_delete_alike h ho (hkey _ (by simp))

end Memory

end Reconciliation
