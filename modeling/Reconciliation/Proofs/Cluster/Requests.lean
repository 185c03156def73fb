import Reconciliation.Proofs.Cluster.Address
import Reconciliation.Proofs.Pass.Protocol
/-!
# The requests of a cluster store

A call of the store sends one request or none, and which one it is hangs on the call alone: the identity that the call
is about gives the collection, and the collection, the name and the kind of call give the target
(`questions_answer_eq`). So an operation sends the requests of its calls one after another, whatever the server answers
(`questions_relay`), and all that is done for one identity reaches one resource (`calls_share_resource`).

A request carries the path of its target, which is the whole target unless that has a query or a fragment. No request
is sent for a target that is no valid one or for an object that cannot be written.
-/

namespace Reconciliation

namespace Dialogue

variable {ρ τ σ α β : Type} {A : ρ → Type} {B : τ → Type}

theorem questions_andThen (respond : Responder A σ) (x : Dialogue A α) (f : α → Dialogue A β) (s : σ) :
    questions respond (andThen x f) s =
      questions respond x s ++ questions respond (f (run respond x s).1) (run respond x s).2 := by
  induction x generalizing s with
  | done a => rfl
  | ask r next ih => exact congrArg (r :: ·) (ih _ _)

/-- To make something else of a result asks nothing. -/
theorem questions_andThen_done (respond : Responder A σ) (x : Dialogue A α) (f : α → β) (s : σ) :
    questions respond (andThen x fun a => done (f a)) s = questions respond x s := by
  rw [questions_andThen]
  exact List.append_nil _

/-- If every question is relayed to questions that hang on it alone, then so are the questions of a run. -/
theorem questions_relay (respond : Responder B σ) (f : (r : ρ) → Dialogue B (A r)) (ask : ρ → List τ)
    (h : ∀ r s, questions respond (f r) s = ask r) (x : Dialogue A α) (s : σ) :
    questions respond (relay f x) s = (questions (fun r s => run respond (f r) s) x s).flatMap ask := by
  induction x generalizing s with
  | done a => rfl
  | ask r next ih =>
    rw [relay, questions_andThen, h, ih]
    rfl

end Dialogue

namespace Target

theorem path?_eq_self {target path : String} (h : path? target = some path)
    (hplain : ∀ c ∈ target.toList, endsPath c = false) : path = target := by
  have htaken : target.toList.takeWhile (!endsPath ·) = target.toList := by
    apply List.takeWhile_eq_self_iff.2
    intro c hc
    rw [hplain c hc]
    rfl
  simp only [path?, htaken, String.ofList_toList] at h
  exact (Option.some.inj (Option.ite_none_right_eq_some.1 h).2).symm

end Target

/-- A request goes to a target. -/
structure Request.Addresses (r : Request) (target : String) : Prop where
  path : Target.path? target = some r.path
  whole : (∀ c ∈ target.toList, Target.endsPath c = false) → r.path = target

/-! ### What a call sends -/

def CallKind.method : CallKind → Method
  | get => .get
  | create => .post
  | update | updateStatus => .put
  | delete => .delete

namespace StoreCall

/-- The identity that a call is about. -/
def subject : StoreCall → Except StoreError ObjectKey
  | get k => .ok k
  | create o | update o | updateStatus o | delete o => storeKey o

/-- What is sent along with a call, unless the object cannot be written. -/
def body : StoreCall → Except String (Option Json)
  | get _ => .ok none
  | create o | update o | updateStatus o => o.toJson.map some
  | delete _ => .ok (some (.object []))

/-- The request of a call to a target. -/
def requestTo? (c : StoreCall) (target : String) : Option Request :=
  match c.body with
  | .ok body => (Target.path? target).map (⟨c.kind.method, ·, body⟩)
  | .error _ => none

theorem requestTo?_eq_some {c : StoreCall} {target : String} {r : Request} (h : c.requestTo? target = some r) :
    r.method = c.kind.method ∧ r.Addresses target := by
  rw [requestTo?] at h
  split at h
  · obtain ⟨path, hpath, rfl⟩ := Option.map_eq_some_iff.1 h
    exact ⟨rfl, hpath, Target.path?_eq_self hpath⟩
  · cases h

end StoreCall

/-- The target of a call about an object of a collection. -/
def Collection.target (c : Collection) (name : String) : CallKind → String
  | .create => c.path
  | .get | .update | .delete => c.path ++ "/" ++ name
  | .updateStatus => c.path ++ "/" ++ name ++ "/status"

namespace ClusterStore

/-- The request of a call in a cluster. -/
def request? (cluster : ClusterStore) (c : StoreCall) : Option Request :=
  match c.subject with
  | .error _ => none
  | .ok k =>
    if k.name = "" then none
    else c.requestTo? ((cluster.collection k).target k.name c.kind)

end ClusterStore

namespace Collection

variable {name : String} (c : Collection)

theorem request_toOption (method : Method) (target : String) (body : Option Json) :
    (request method target body).toOption = (Target.path? target).map (⟨method, ·, body⟩) := by
  rw [request]
  cases Target.path? target <;> rfl

theorem namedRequest_toOption (method : Method) (target : String → String) (hname : name ≠ "") (body : Option Json) :
    (namedRequest method target name body).toOption = (Target.path? (target name)).map (⟨method, ·, body⟩) := by
  rw [namedRequest, if_neg hname]
  exact request_toOption method (target name) body

theorem createRequest_toOption (o : DynamicObject) :
    (c.createRequest o).toOption = (StoreCall.create o).requestTo? (c.target name .create) := by
  rw [createRequest, bodyOf, StoreCall.requestTo?, StoreCall.body]
  cases o.toJson with
  | error detail => rfl
  | ok j => exact request_toOption .post c.path (some j)

theorem replaceRequest_toOption (hname : name ≠ "") (o : DynamicObject) :
    (c.replaceRequest name o).toOption = (StoreCall.update o).requestTo? (c.target name .update) := by
  rw [replaceRequest, bodyOf, StoreCall.requestTo?, StoreCall.body]
  cases o.toJson with
  | error detail => rfl
  | ok j => exact namedRequest_toOption .put c.itemPath hname (some j)

end Collection

theorem Client.isSome_collection (c : Client) (r : ServedResource) (nameSpace : Option String) :
    (c.collection r nameSpace).nameSpace.isSome = r.namespaced := by
  rw [Client.collection]
  cases r.namespaced <;> rfl

theorem Client.eq_of_mem_collection (c : Client) {r : ServedResource} {nameSpace : Option String} {n : String}
    (h : n ∈ (c.collection r nameSpace).nameSpace) : n = nameSpace.getD c.defaultNamespace :=
  (Option.some.inj (Option.ite_none_right_eq_some.1 h).2).symm

namespace ClusterStore

variable {σ α : Type} {server : Dialogue.Responder (fun _ : Request => Reply) σ} {cluster : ClusterStore}
  {k : ObjectKey} {d : DynamicObject} {c : StoreCall} {e : StoreError}

theorem name_ne_empty (h : storeKey d = .ok k) : k.name ≠ "" := by
  obtain ⟨t, -, -, hname, -⟩ := ObjectKey.ofParts_eq_ok.1 (storeKey_eq_ok_iff.1 h)
  simpa using (Option.filter_eq_some_iff.1 hname).2

theorem request?_of_subject (cluster : ClusterStore) (h : c.subject = .ok k) (hname : k.name ≠ "") :
    cluster.request? c = c.requestTo? ((cluster.collection k).target k.name c.kind) := by
  rw [request?, h]
  exact if_neg hname

theorem questions_submit (decode : Decoder α) (r : Except ClusterError Request) (w : σ) :
    Dialogue.questions server (Exchange.submit decode r).run w = r.toOption.toList := by
  cases r <;> rfl

theorem questions_concerning (k : ObjectKey) (a : Attempt α) (w : σ) :
    Dialogue.questions server (concerning k a) w = Dialogue.questions server a.run w :=
  Dialogue.questions_andThen_done server a.run _ w

/-- What an exchange about an identified object sends, from what it sends to the collection of the object. -/
theorem questions_identified {w : σ} {f : Collection → ObjectKey → Attempt α} (hsubject : c.subject = storeKey d)
    (h : ∀ k, k.name ≠ "" → Dialogue.questions server (f (cluster.collection k) k).run w =
      (c.requestTo? ((cluster.collection k).target k.name c.kind)).toList) :
    Dialogue.questions server (cluster.identified d f) w = (cluster.request? c).toList := by
  cases hk : storeKey d with
  | error e =>
    rw [identified, request?, hsubject, hk]
    rfl
  | ok k =>
    have hname : k.name ≠ "" := name_ne_empty hk
    rw [identified, hk, request?_of_subject cluster (hsubject.trans hk) hname]
    exact (questions_concerning k _ w).trans (h k hname)

/-- What a call sends is told by the call, and the server has no part in it. -/
theorem questions_answer_eq (cluster : ClusterStore) (c : StoreCall) (w : σ) :
    Dialogue.questions server (cluster.answer c) w = (cluster.request? c).toList := by
  cases c with
  | get k =>
    refine (questions_concerning k _ w).trans ?_
    rw [Collection.get, Collection.askObject, questions_submit, Collection.getRequest]
    by_cases hname : k.name = ""
    · rw [request?, StoreCall.subject, Collection.namedRequest, if_pos hname]
      exact congrArg Option.toList (if_pos hname).symm
    · rw [request?_of_subject cluster rfl hname, Collection.namedRequest_toOption _ _ hname]
      rfl
  | create d =>
    refine questions_identified (c := .create d) (f := fun l _ => l.create d) rfl fun k _ => ?_
    refine (questions_submit _ _ w).trans (congrArg Option.toList ?_)
    exact Collection.createRequest_toOption _ d
  | update d =>
    refine questions_identified (c := .update d) (f := fun l k => l.replace k.name d) rfl fun k hname => ?_
    refine (questions_submit _ _ w).trans (congrArg Option.toList ?_)
    exact Collection.replaceRequest_toOption _ hname d
  | delete d =>
    refine questions_identified (c := .delete d) (f := fun l k => l.delete k.name) rfl fun k hname => ?_
    rw [Collection.delete, questions_submit, Collection.deleteRequest,
      Collection.namedRequest_toOption _ _ hname]
    rfl
  | updateStatus d =>
    rw [answer, updateStatus]
    cases hk : storeKey d with
    | error e =>
      rw [request?, StoreCall.subject, hk]
      rfl
    | ok k =>
      have hname : k.name ≠ "" := name_ne_empty hk
      rw [request?_of_subject cluster (c := .updateStatus d) hk hname, StoreCall.requestTo?, StoreCall.body]
      cases d.toJson with
      | error detail => rfl
      | ok body =>
        refine (questions_concerning k _ w).trans ?_
        rw [Collection.replaceStatus, Collection.askObject, questions_submit, Collection.replaceStatusRequest,
          Collection.namedRequest_toOption _ _ hname]
        rfl

theorem questions_answer (cluster : ClusterStore) (c : StoreCall) (w : σ) :
    (Dialogue.questions server (cluster.answer c) w).length ≤ 1 := by
  rw [questions_answer_eq]
  exact Option.length_toList_le

theorem subject_error (h : c.subject = .error e) : ∃ detail, e = .invalid detail := by
  have hd : ∃ d, storeKey d = .error e := by
    cases c with
    | get k => cases h
    | create d | update d | updateStatus d | delete d => exact ⟨d, h⟩
  obtain ⟨d, hd⟩ := hd
  rw [storeKey] at hd
  split at hd
  · cases hd
  · rename_i cause _
    cases hd
    exact ⟨cause.message, rfl⟩

/-- A call about no identity fails at once. -/
theorem respond_of_subject_error (cluster : ClusterStore) (h : c.subject = .error e) (w : σ) :
    cluster.respond server c w = (c.failed e, w) := by
  cases c with
  | get k => cases h
  | create d | update d | delete d =>
    simp only [StoreCall.subject] at h
    simp only [respond, answer, create, update, delete, identified, h, Dialogue.pure_eq]
    rfl
  | updateStatus d =>
    simp only [StoreCall.subject] at h
    simp only [respond, answer, updateStatus, h, Dialogue.pure_eq]
    rfl

/-- The collection of an object, in view of what a cluster is known to serve. -/
structure Locates (cluster : ClusterStore) (kind : GroupVersionKind) (m : ObjectMeta) (l : Collection) : Prop where
  served : ∀ r, cluster.discovery.bind (·.resolve? kind) = some r →
    l.resource = r.resource ∧ (l.nameSpace.isSome ↔ r.namespaced)
  derived : cluster.discovery.bind (·.resolve? kind) = none →
    l.resource = .ofKind kind ∧ (l.nameSpace.isSome ↔ ∃ ns, m.nameSpace = some ns ∧ ns ≠ "")
  named : ∀ ns, m.nameSpace = some ns → ns ≠ "" → ∀ n ∈ l.nameSpace, n = ns
  unnamed : m.nameSpace = none ∨ m.nameSpace = some "" → ∀ n ∈ l.nameSpace, n = cluster.client.defaultNamespace

theorem locates_collection (cluster : ClusterStore) (h : storeKey d = .ok k) :
    cluster.Locates k.kind d.metadata (cluster.collection k) := by
  obtain ⟨t, -, -, -, hnameSpace⟩ := ObjectKey.ofParts_ok (storeKey_eq_ok_iff.1 h)
  have hmember : ∀ n ∈ (cluster.collection k).nameSpace, n = k.nameSpace.getD cluster.client.defaultNamespace :=
    fun n hn => cluster.client.eq_of_mem_collection hn
  constructor
  case served =>
    intro r hr
    rw [collection_of_known hr]
    exact ⟨rfl, by rw [Client.isSome_collection]⟩
  case derived =>
    intro hnone
    rw [collection, Discovery.resolve, hnone]
    refine ⟨rfl, ?_⟩
    rw [Client.isSome_collection, hnameSpace, Option.isSome_filter, Option.any_eq_true]
    simp
  case named =>
    intro ns hns hne n hn
    rw [hmember n hn, hnameSpace, hns, ObjectMeta.filter_of_ne hne]
    rfl
  case unnamed =>
    intro hns n hn
    rw [hmember n hn, hnameSpace]
    cases hns with
    | inl hnone => rw [hnone]; rfl
    | inr hempty => rw [hempty]; rfl

end ClusterStore

namespace Synchronize

variable {σ : Type} {p : Placement} {o : ManagedObject} {k : ObjectKey} {d : DynamicObject}

/-- What converging sends about an object of a collection: a lookup of the item, and then no more, or the item
anew, or a new item for the collection. -/
inductive Reaches (l : Collection) (k : ObjectKey) : List Request → Prop where
  | lookup : Reaches l k ((StoreCall.get k).requestTo? (l.path ++ "/" ++ k.name)).toList
  | update (u : DynamicObject) (h : storeKey u = .ok k) :
    Reaches l k (((StoreCall.get k).requestTo? (l.path ++ "/" ++ k.name)).toList ++
      ((StoreCall.update u).requestTo? (l.path ++ "/" ++ k.name)).toList)
  | create (u : DynamicObject) (h : storeKey u = .ok k) :
    Reaches l k (((StoreCall.get k).requestTo? (l.path ++ "/" ++ k.name)).toList ++
      ((StoreCall.create u).requestTo? l.path).toList)

/-- The requests of an operation on a cluster that a server stands for. -/
def requests {σ α : Type} (cluster : ClusterStore) (server : Dialogue.Responder (fun _ : Request => Reply) σ)
    (p : Pass α) (s : Surroundings σ) : List Request :=
  Dialogue.questions server (Dialogue.relay cluster.answer (p.calls s.clock)) s.store

theorem requests_eq {α : Type} (cluster : ClusterStore) (server : Dialogue.Responder (fun _ : Request => Reply) σ)
    (p : Pass α) (s : Surroundings σ) :
    requests cluster server p s =
      (p.storeCalls (cluster.respond server) s).flatMap fun c => (cluster.request? c).toList := by
  rw [requests, Pass.storeCalls_eq]
  exact Dialogue.questions_relay server cluster.answer _ (fun c w => cluster.questions_answer_eq c w) _ _

theorem Course.calls_cases {store : Store σ} {found : Except StoreError DynamicObject} {t : σ}
    {calls : List StoreCall} {r : Except ReconcileError Unit} (h : Course store k found t calls r) :
    calls = [.get k] ∨ ∃ u, storeKey u = .ok k ∧ (calls = [.get k, .update u] ∨ calls = [.get k, .create u]) := by
  cases found with
  | ok stored =>
    obtain ⟨u, hu⟩ := h.updated.2 ⟨stored, rfl⟩
    exact .inr ⟨u, (h.update u hu).1, .inl hu⟩
  | error e =>
    cases hmissing : e.isNotFound with
    | false => exact .inl (h.refused.2 ⟨e, rfl, hmissing⟩)
    | true =>
      obtain ⟨u, hu⟩ := h.created.2 ⟨e, rfl, hmissing⟩
      exact .inr ⟨u, (h.create u hu).1, .inr hu⟩

theorem reaches_converge (cluster : ClusterStore) (server : Dialogue.Responder (fun _ : Request => Reply) σ)
    (s : Surroundings σ) (h : identify (prepare p o) = .ok (k, d)) :
    Reaches (cluster.collection k) k (requests cluster server (converge p o) s) := by
  have hname : k.name ≠ "" := ClusterStore.name_ne_empty (storeKey_of_identify h)
  have hlookup := ClusterStore.request?_of_subject cluster (c := .get k) rfl hname
  rw [requests_eq]
  obtain hcalls | ⟨u, hu, hcalls | hcalls⟩ := (course_converge (cluster.respond server) s h).1.calls_cases
  · rw [hcalls, List.flatMap_singleton, hlookup]
    exact .lookup
  · have hwrite := ClusterStore.request?_of_subject cluster (c := .update u) hu hname
    rw [hcalls, List.flatMap_cons, List.flatMap_singleton, hlookup, hwrite]
    exact .update u hu
  · have hwrite := ClusterStore.request?_of_subject cluster (c := .create u) hu hname
    rw [hcalls, List.flatMap_cons, List.flatMap_singleton, hlookup, hwrite]
    exact .create u hu

/-- All calls on one identity reach one resource, whatever the server answers. The identity gives the collection as the
cluster is known to serve it, and the target of a call is the collection, an item of it or the status of an item. A
call about no identity sends nothing, and no call sends more than one request. Converging writes what it looked up. -/
theorem calls_share_resource (cluster : ClusterStore) (server : Dialogue.Responder (fun _ : Request => Reply) σ) :
    (∀ d k, storeKey d = .ok k →
      let l := cluster.collection k
      cluster.Locates k.kind d.metadata l ∧
        ∀ c w, c.subject = .ok k →
          Dialogue.questions server (cluster.answer c) w = (c.requestTo? (l.target k.name c.kind)).toList) ∧
    (∀ c target r, StoreCall.requestTo? c target = some r → r.method = c.kind.method ∧ r.Addresses target) ∧
    (∀ c e w, c.subject = .error e →
      (∃ detail, e = .invalid detail) ∧ cluster.respond server c w = (c.failed e, w) ∧
        Dialogue.questions server (cluster.answer c) w = []) ∧
    (∀ c w, (Dialogue.questions server (cluster.answer c) w).length ≤ 1) ∧
    ∀ p o s,
      (∀ k d, identify (prepare p o) = .ok (k, d) →
        cluster.Locates k.kind (prepare p o).metadata (cluster.collection k) ∧
          Reaches (cluster.collection k) k (requests cluster server (converge p o) s)) ∧
      ∀ e, identify (prepare p o) = .error e → requests cluster server (converge p o) s = [] := by
  refine ⟨fun d k hk => ⟨cluster.locates_collection hk, fun c w hc => ?_⟩, fun _ _ _ => StoreCall.requestTo?_eq_some,
    fun c e w hc => ?_, cluster.questions_answer, fun p o s => ⟨fun k d h => ⟨?_, reaches_converge cluster server s h⟩, fun e h => ?_⟩⟩
  · rw [ClusterStore.questions_answer_eq, ClusterStore.request?_of_subject cluster hc (ClusterStore.name_ne_empty hk)]
  · refine ⟨ClusterStore.subject_error hc, cluster.respond_of_subject_error hc w, ?_⟩
    rw [ClusterStore.questions_answer_eq, ClusterStore.request?, hc]
    rfl
  · obtain ⟨-, hmetadata, -⟩ := ManagedObject.toDynamic_ok (identify_eq_ok.1 h).2
    rw [← hmetadata]
    exact cluster.locates_collection (storeKey_of_identify h)
  · rw [requests_eq, (run_converge_error h).1]
    rfl

open Reconciler (mapsServer mapsStore settingsIn settingsMapKey) in
theorem calls_share_resource_settings :
    let sent (c : StoreCall) :=
      (Dialogue.questions mapsServer (mapsStore.answer c) ()).map fun r => (r.method, r.path)
    sent (.get settingsMapKey) = [(.get, "/api/v1/namespaces/quay/configmaps/settings")] ∧
      sent (.create (settingsIn none)) = [(.post, "/api/v1/namespaces/quay/configmaps")] ∧
      sent (.updateStatus (settingsIn none)) = [(.put, "/api/v1/namespaces/quay/configmaps/settings/status")] := by
  intro sent
  obtain ⟨hcalls, -⟩ := calls_share_resource mapsStore mapsServer
  obtain ⟨-, hsent⟩ := hcalls (settingsIn none) settingsMapKey rfl
  simp only [sent]
  refine ⟨?_, ?_, ?_⟩
  · rw [hsent (.get settingsMapKey) () rfl]
    decide +kernel
  · rw [hsent (.create (settingsIn none)) () rfl]
    decide +kernel
  · rw [hsent (.updateStatus (settingsIn none)) () rfl]
    decide +kernel

end Synchronize

end Reconciliation
