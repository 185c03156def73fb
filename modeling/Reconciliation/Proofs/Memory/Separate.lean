import Reconciliation.Proofs.Memory.Status
import Reconciliation.Proofs.Resource.Path
/-!
# Identities that do not meet

A store in memory files objects under paths, so it keeps two identities apart only if their paths are different. For
identities that are made of segments they are, and then no call about the one changes what is stored or read under the
other, be it a call that succeeds or one that fails (`identities_separate`).
-/

namespace Reconciliation

namespace StoreCall

variable {c : StoreCall}

/-- The identity that a call is about. -/
def identity : StoreCall → Identity
  | get k => k.identity
  | create o | update o | updateStatus o | delete o => (ManagedObject.dynamic o).identity

/-- A call changes nothing but what is stored under the path of its identity. -/
theorem path_of_path? (hc : c.identity.Segmented) {path : String} (h : c.path? = some path) :
    path = c.identity.path := by
  have hobject : ∀ o : DynamicObject, (ManagedObject.dynamic o).identity.Segmented →
      (create o).path? = some path → path = (ManagedObject.dynamic o).identity.path := by
    intro o ho h
    simp only [path?] at h
    split at h
    · rename_i k hk
      cases h
      rw [ObjectKey.path_eq, ManagedObject.identity_of_key ho.apiVersion (storeKey_eq_ok_iff.1 hk)]
    · cases h
  cases c with
  | get k => cases h
  | create o | update o | updateStatus o | delete o => exact hobject o hc h

end StoreCall

namespace Memory

variable {m m' : Memory} {c : StoreCall} {k : ObjectKey}

theorem get_congr (h : m'.stored k = m.stored k) : (get k m').1 = (get k m).1 := by
  cases hs : m.stored k with
  | none => rw [get_absent hs, get_absent (h.trans hs)]
  | some o => rw [get_present hs, get_present (h.trans hs)]

theorem stored_run {actions : List Action} (hk : k.identity.Segmented)
    (hactions : ∀ c, .call c ∈ actions → c.identity.Segmented ∧ c.identity ≠ k.identity) (m : Memory) :
    (m.run actions).stored k = m.stored k := by
  refine find?_run ?_
  rintro ⟨before, c, after, rfl, hpath, -⟩
  obtain ⟨hc, hne⟩ := hactions c (by simp)
  have hsame : k.identity.path = c.identity.path := StoreCall.path_of_path? hc hpath
  exact hne ((Identity.path_inj hc hk).1 hsame.symm)

theorem stored_respond (hc : c.identity.Segmented) (hk : k.identity.Segmented) (hne : c.identity ≠ k.identity)
    (m : Memory) : (respond c m).2.stored k = m.stored k := by
  have hactions : ∀ c', Action.call c' ∈ [.call c] → c'.identity.Segmented ∧ c'.identity ≠ k.identity := by
    intro c' hc'
    cases List.mem_singleton.1 hc'
    exact ⟨hc, hne⟩
  exact stored_run hk hactions m

/-- Objects whose identities are made of segments are filed under one path exactly if their identities are the same.
A call about one such identity, whatever comes of it, and any run of such calls leave what is stored and read under
every other as it was. -/
theorem identities_separate :
    (∀ (a b : ManagedObject) (j k : ObjectKey), a.identity.Segmented → b.identity.Segmented →
      ObjectKey.of a = .ok j → ObjectKey.of b = .ok k →
      j.identity = a.identity ∧ k.identity = b.identity ∧ (j.path = k.path ↔ a.identity = b.identity)) ∧
    ∀ (k : ObjectKey) (m : Memory), k.identity.Segmented →
      (∀ c : StoreCall, c.identity.Segmented → c.identity ≠ k.identity →
        (respond c m).2.stored k = m.stored k ∧ (get k (respond c m).2).1 = (get k m).1) ∧
      ∀ actions, (∀ c, .call c ∈ actions → c.identity.Segmented ∧ c.identity ≠ k.identity) →
        (m.run actions).stored k = m.stored k ∧ (get k (m.run actions)).1 = (get k m).1 := by
  refine ⟨fun a b j k ha hb hj hk => ?_, fun k m hk => ⟨fun c hc hne => ?_, fun actions hactions => ?_⟩⟩
  · have hja := ManagedObject.identity_of_key ha.apiVersion hj
    have hkb := ManagedObject.identity_of_key hb.apiVersion hk
    refine ⟨hja, hkb, ?_⟩
    rw [ObjectKey.path_eq, ObjectKey.path_eq, hja, hkb]
    exact Identity.path_inj ha hb
  · have hstored := stored_respond hc hk hne m
    exact ⟨hstored, get_congr hstored⟩
  · have hstored := stored_run hk hactions m
    exact ⟨hstored, get_congr hstored⟩

/-- `ready` in a namespace. -/
def readyInQuay : DynamicObject :=
  { ready with metadata := { name := some "settings", nameSpace := some "quay" } }

theorem identities_separate_namespaces :
    readyKey.path ≠ (⟨⟨"", "v1", "ConfigMap"⟩, some "quay", "settings"⟩ : ObjectKey).path ∧
      (get readyKey (respond (.create readyInQuay) withReady).2).1 = (get readyKey withReady).1 := by
  have hready : (ManagedObject.dynamic ready).identity.Segmented :=
    ⟨by decide +kernel, by decide +kernel, by decide +kernel, by decide +kernel⟩
  have hquay : (ManagedObject.dynamic readyInQuay).identity.Segmented :=
    ⟨by decide +kernel, by decide +kernel, by decide +kernel, by decide +kernel⟩
  have hne : (ManagedObject.dynamic readyInQuay).identity ≠ (ManagedObject.dynamic ready).identity := by
    decide +kernel
  obtain ⟨-, -, hpaths⟩ :=
    identities_separate.1 (.dynamic ready) (.dynamic readyInQuay) readyKey _ hready hquay rfl rfl
  refine ⟨fun h => hne (hpaths.1 h).symm, ?_⟩
  exact ((identities_separate.2 readyKey withReady hready).1 (.create readyInQuay) hquay hne).2

end Memory

end Reconciliation
