import Reconciliation.Cluster.Store
import Reconciliation.Proofs.Resource.Metadata
import Reconciliation.Proofs.Resource.Path
import Reconciliation.Reconciler
/-!
# Where an object is addressed

The store of a cluster and the client of a reconciler both find the collection of an object through discovery, the one
through all that the cluster serves and the other through the version of the kind alone. Of the same answers they make
the same resource. They differ in the namespace: the key that the store goes by leaves out an empty one, and the client
takes it as it is, so that for an object that names the empty namespace the store falls back to the default and the
client does not (`collectionFor_agrees_iff`).
-/

namespace Reconciliation

/-- The path of a resource shows the namespace, and whether there is one. -/
theorem ApiResource.path_inj (r : ApiResource) {n n' : Option String} : r.path n = r.path n' ↔ n = n' := by
  constructor
  · intro h
    have hlists := congrArg String.toList h
    simp only [ApiResource.path, String.toList_append, List.append_assoc, List.append_cancel_left_eq] at hlists
    rw [List.append_left_inj] at hlists
    cases n with
    | none =>
      cases n' with
      | none => rfl
      | some ns => simp at hlists
    | some ns =>
      cases n' with
      | none => simp at hlists
      | some ns' =>
        simp only [String.toList_append, List.append_cancel_left_eq, String.toList_inj] at hlists
        rw [hlists]
  · rintro rfl
    rfl

/-- An object of a namespaced kind that names the empty namespace, while objects that name none have another one. -/
structure NamesEmpty (client : Client) (served : ServedResource) (o : DynamicObject) : Prop where
  namespaced : served.namespaced = true
  nameSpace : o.metadata.nameSpace = some ""
  default : client.defaultNamespace ≠ ""

namespace Client

variable {σ : Type} (server : Dialogue.Responder (fun _ : Request => Reply) σ)

theorem run_pin (client : Client) (k : GroupVersionKind) (nameSpace : Option String) (w : σ) :
    ((client.pin k nameSpace).run.run server w).1 =
      ((Discovery.pin k).run.run server w).1.map (client.collection · nameSpace) := by
  simp only [Client.pin, ExceptT.run_bind, Dialogue.bind_eq, Dialogue.run_andThen]
  cases ((Discovery.pin k).run.run server w).1 <;> rfl

theorem nameSpace_agrees_iff (client : Client) (served : ServedResource) (o : DynamicObject) :
    (client.collection served o.metadata.nameSpace).nameSpace =
        (client.collection served (o.metadata.nameSpace.filter (· != ""))).nameSpace ↔
      ¬ NamesEmpty client served o := by
  cases hscope : served.namespaced with
  | false =>
    refine iff_of_true (by simp [collection, hscope]) fun h => ?_
    rw [h.namespaced] at hscope
    cases hscope
  | true =>
    by_cases hempty : o.metadata.nameSpace = some ""
    · have hdefault : ((some "").filter (· != "")).getD client.defaultNamespace = client.defaultNamespace := rfl
      simp only [collection, hscope, hempty, hdefault, if_true, Option.getD_some, Option.some.injEq]
      constructor
      · rintro heq ⟨-, -, hne⟩
        exact hne heq.symm
      · intro h
        by_contra hne
        exact h ⟨hscope, hempty, Ne.symm hne⟩
    · have hsame : o.metadata.nameSpace.filter (· != "") = o.metadata.nameSpace := by
        cases hns : o.metadata.nameSpace with
        | none => rfl
        | some ns =>
          rw [hns, Option.some.injEq] at hempty
          exact ObjectMeta.filter_of_ne hempty
      rw [hsame]
      exact iff_of_true rfl fun h => hempty h.nameSpace

end Client

namespace ClusterStore

variable {σ : Type} {s : ClusterStore} {k : ObjectKey} {served : ServedResource}

/-- A store that knows what a cluster serves finds the collection of an object in it. -/
theorem collection_of_known (hknown : s.discovery.bind (·.resolve? k.kind) = some served) :
    s.collection k = s.client.collection served k.nameSpace := by
  rw [collection, Discovery.resolve, hknown]

theorem client_of_discovering {server : Dialogue.Responder (fun _ : Request => Reply) σ} {client : Client} {w : σ}
    (h : ((discovering client).run server w).1 = .ok s) :
    s.client = client := by
  simp only [discovering, Dialogue.bind_eq, Dialogue.run_andThen, Dialogue.pure_eq, Dialogue.run_done] at h
  split at h
  · cases h
    rfl
  · cases h

end ClusterStore

namespace Reconciler

variable {σ : Type} (server : Dialogue.Responder (fun _ : Request => Reply) σ) (r : Reconciler) {client : Client}
  {o : DynamicObject} {k : ObjectKey} {s : ClusterStore} {served : ServedResource}

theorem run_collectionFor (hclient : r.client = some client) (hk : ObjectKey.ofDynamic o = .ok k) {w : σ}
    (hpinned : ((Discovery.pin k.kind).run.run server w).1 = .ok served) :
    ((r.collectionFor o).run server w).1 = .ok (client.collection served o.metadata.nameSpace) := by
  obtain ⟨t, htypes, hkind, -, -⟩ := ObjectKey.ofParts_ok hk
  simp only [collectionFor, withClient, hclient, htypes, hkind, Dialogue.bind_eq, Dialogue.run_andThen,
    Dialogue.pure_eq, Dialogue.run_done, Client.run_pin, hpinned]
  rfl

/-- If a cluster serves a kind alike when it is asked for everything and when it is asked for that kind, then the
client of a reconciler finds the same resource for an object as the store does, and the same collection and path
exactly if the object does not name the empty namespace where there is another default. -/
theorem collectionFor_agrees_iff (hclient : r.client = some client) (hk : ObjectKey.ofDynamic o = .ok k) (w w' : σ)
    (hstore : ((ClusterStore.discovering client).run server w').1 = .ok s)
    (hknown : s.discovery.bind (·.resolve? k.kind) = some served)
    (hpinned : ((Discovery.pin k.kind).run.run server w).1 = .ok served) :
    ∃ c, ((r.collectionFor o).run server w).1 = .ok c ∧ c.resource = (s.collection k).resource ∧
      (c.nameSpace = (s.collection k).nameSpace ↔ ¬ NamesEmpty client served o) ∧
      (c.path = (s.collection k).path ↔ ¬ NamesEmpty client served o) := by
  obtain ⟨-, -, -, -, hnameSpace⟩ := ObjectKey.ofParts_ok hk
  refine ⟨_, run_collectionFor server r hclient hk hpinned, ?_⟩
  rw [ClusterStore.collection_of_known hknown, ClusterStore.client_of_discovering hstore, hnameSpace]
  have hagrees := Client.nameSpace_agrees_iff client served o
  exact ⟨rfl, hagrees, (ApiResource.path_inj served.resource).trans hagrees⟩

/-! ### A cluster of configuration maps -/

def mapsKind : GroupVersionKind := ⟨"", "v1", "ConfigMap"⟩

/-- A configuration map, which may name a namespace. -/
def settingsIn (nameSpace : Option String) : DynamicObject :=
  ⟨some ⟨"v1", "ConfigMap"⟩, { name := some "settings", nameSpace := nameSpace }, .object []⟩

/-- A cluster that serves configuration maps and nothing else. -/
def mapsServer : Dialogue.Responder (fun _ : Request => Reply) Unit := fun request _ =>
  let body :=
    if request.path = "/apis" then "\x7b\"groups\": []\x7d"
    else if request.path = "/api" then "\x7b\"versions\": [\"v1\"]\x7d"
    else "\x7b\"groupVersion\": \"v1\", \"resources\": [\x7b\"name\": \"configmaps\", \"kind\": \"ConfigMap\", "
      ++ "\"namespaced\": true\x7d]\x7d"
  (.response 200 body, ())

def servedMaps : ServedResource := ⟨⟨"", "v1", "v1", "ConfigMap", "configmaps"⟩, true⟩

def quayClient : Client := ⟨"quay"⟩

def quayReconciler : Reconciler := .ofCluster quayClient .default

def mapsGroups : Table (List (String × List ServedResource)) := [("", [("v1", [servedMaps])])]

/-- The store that knows what the cluster serves. -/
def mapsStore : ClusterStore := ⟨quayClient, some ⟨mapsGroups⟩⟩

def settingsMapKey : ObjectKey := ⟨mapsKind, none, "settings"⟩

theorem run_pin_maps : ((Discovery.pin mapsKind).run.run mapsServer ()).1 = .ok servedMaps := by
  decide +kernel

theorem run_discovering_maps : ((ClusterStore.discovering quayClient).run mapsServer ()).1 = .ok mapsStore := by
  have hevaluated : (((ClusterStore.discovering quayClient).run mapsServer ()).1.toOption.bind
      ClusterStore.discovery).map Discovery.groups = some mapsGroups := by
    decide +kernel
  cases hresult : ((ClusterStore.discovering quayClient).run mapsServer ()).1 with
  | error e =>
    rw [hresult] at hevaluated
    cases hevaluated
  | ok s =>
    obtain ⟨client, discovery⟩ := s
    have hclient : client = quayClient := ClusterStore.client_of_discovering hresult
    obtain ⟨⟨groups⟩, hdiscovery, hgroups⟩ : ∃ d, discovery = some d ∧ d.groups = mapsGroups := by
      rw [hresult] at hevaluated
      exact Option.map_eq_some_iff.1 hevaluated
    subst hclient hdiscovery hgroups
    rfl

theorem collectionFor_agrees_default :
    ∃ c, ((quayReconciler.collectionFor (settingsIn none)).run mapsServer ()).1 = .ok c ∧
      c.path = (mapsStore.collection settingsMapKey).path := by
  obtain ⟨c, hc, -, -, hpath⟩ := collectionFor_agrees_iff mapsServer quayReconciler (o := settingsIn none)
    (k := settingsMapKey) rfl rfl () () run_discovering_maps rfl run_pin_maps
  refine ⟨c, hc, hpath.2 ?_⟩
  rintro ⟨-, hempty, -⟩
  cases hempty

/-- An object that names the empty namespace is in the default one for the store, and for the client in one without a
name. -/
theorem collectionFor_emptyNamespace :
    ObjectKey.ofDynamic (settingsIn (some "")) = .ok settingsMapKey ∧
      ((ClusterStore.discovering quayClient).run mapsServer ()).1 = .ok mapsStore ∧
      mapsStore.discovery.bind (·.resolve? mapsKind) = some servedMaps ∧
      ((Discovery.pin mapsKind).run.run mapsServer ()).1 = .ok servedMaps ∧
      (mapsStore.collection settingsMapKey).path = "/api/v1/namespaces/quay/configmaps" ∧
      ∃ c, ((quayReconciler.collectionFor (settingsIn (some ""))).run mapsServer ()).1 = .ok c ∧
        c.path = "/api/v1/namespaces//configmaps" := by
  have hcollection := run_collectionFor mapsServer quayReconciler (o := settingsIn (some "")) (k := settingsMapKey)
    rfl rfl run_pin_maps
  refine ⟨rfl, run_discovering_maps, rfl, run_pin_maps, ?_, _, hcollection, ?_⟩
  · decide +kernel
  · decide +kernel

end Reconciler

end Reconciliation
