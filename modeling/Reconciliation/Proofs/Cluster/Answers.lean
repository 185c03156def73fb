import Reconciliation.Proofs.Cluster.Requests
import Reconciliation.Proofs.Pass.Presence
/-!
# Benign and fatal answers of a cluster

A call of the store of a cluster is one request at most, and what comes of the request is an object or a cluster error.
The operations of the synchronizer take some of these errors for success: a deletion one of code 404, a creation one of
code 409 whose reason is that the object exists, and converging takes a lookup of code 404 as a reason to create. All
other errors are handed to the caller, an error of another code, or one that is no answer of the cluster, as it is
(`answers_told_apart`). The server may answer each request in view of all earlier ones.
-/

namespace Reconciliation

namespace ClusterError

/-- The cluster answered that there is no such object. -/
def Missing (e : ClusterError) : Prop :=
  ∃ r, e = .response r ∧ r.code = 404

/-- The cluster answered that there is such an object already. -/
def Existing (e : ClusterError) : Prop :=
  ∃ r, e = .response r ∧ r.code = 409 ∧ r.reason = "AlreadyExists"

end ClusterError

/-- The store error that a caller sees for a cluster error about an object. -/
inductive Surfaces (k : ObjectKey) : ClusterError → StoreError → Prop where
  | missing {r : ErrorResponse} (h : r.code = 404) : Surfaces k (.response r) (.notFound k.kind.kind k.name)
  | existing {r : ErrorResponse} (h : r.code = 409) (hreason : r.reason = "AlreadyExists") :
    Surfaces k (.response r) (.alreadyExists k.kind.kind k.name)
  | stale {r : ErrorResponse} (h : r.code = 409) (hreason : r.reason ≠ "AlreadyExists") :
    Surfaces k (.response r) (.conflict k.kind.kind k.name r.message)
  | other {e : ClusterError} (h : ∀ r, e = .response r → r.code ≠ 404 ∧ r.code ≠ 409) : Surfaces k e (.api e)

namespace StoreError

variable {e : ClusterError} {kind name : String}

theorem surfaces_ofCluster (k : ObjectKey) (e : ClusterError) :
    Surfaces k e (ofCluster e k.kind.kind k.name) := by
  cases e with
  | response r =>
    rw [ofCluster]
    split
    · exact .missing ‹_›
    · split
      · split
        · exact .existing ‹_› ‹_›
        · exact .stale ‹_› ‹_›
      · refine .other fun r' hr => ?_
        cases hr
        exact ⟨‹_›, ‹_›⟩
  | _ => exact .other nofun

theorem isNotFound_ofCluster : (ofCluster e kind name).isNotFound = true ↔ e.Missing := by
  cases e with
  | response r =>
    rw [ofCluster]
    split
    · exact iff_of_true rfl ⟨r, rfl, ‹_›⟩
    · refine iff_of_false ?_ ?_
      · split
        · split <;> exact nofun
        · exact nofun
      · rintro ⟨r', hr, hcode⟩
        cases hr
        contradiction
  | _ => exact iff_of_false nofun nofun

theorem isNotFound_ofCluster_eq_false : (ofCluster e kind name).isNotFound = false ↔ ¬ e.Missing := by
  rw [← isNotFound_ofCluster, Bool.not_eq_true]

theorem isAlreadyExists_ofCluster : (ofCluster e kind name).isAlreadyExists = true ↔ e.Existing := by
  cases e with
  | response r =>
    rw [ofCluster]
    split
    · refine iff_of_false nofun ?_
      rintro ⟨r', hr, hcode, -⟩
      cases hr
      omega
    · split
      · split
        · exact iff_of_true rfl ⟨r, rfl, ‹_›, ‹_›⟩
        · refine iff_of_false nofun ?_
          rintro ⟨r', hr, -, hreason⟩
          cases hr
          contradiction
      · refine iff_of_false nofun ?_
        rintro ⟨r', hr, hcode, -⟩
        cases hr
        contradiction
  | _ => exact iff_of_false nofun nofun

end StoreError

namespace ClusterStore

variable {σ α : Type} {server : Dialogue.Responder (fun _ : Request => Reply) σ} {k : ObjectKey} {d : DynamicObject}

/-! ### Answers to a call -/

/-- What comes of an exchange about an object, as an answer of the store. -/
def answered (k : ObjectKey) (x : Except ClusterError α × σ) : Except StoreError α × σ :=
  (x.1.mapError fun e => .ofCluster e k.kind.kind k.name, x.2)

theorem run_concerning (k : ObjectKey) (a : Attempt α) (w : σ) :
    (concerning k a).run server w = answered k (a.run.run server w) := by
  simp only [concerning, Dialogue.bind_eq, Dialogue.run_andThen, Dialogue.pure_eq, Dialogue.run_done, answered]

theorem respond_get (cluster : ClusterStore) (k : ObjectKey) (w : σ) :
    cluster.respond server (.get k) w = answered k (((cluster.collection k).get k.name).run.run server w) :=
  run_concerning k _ w

theorem run_identified (cluster : ClusterStore) (hk : storeKey d = .ok k) (f : Collection → ObjectKey → Attempt α)
    (w : σ) :
    (cluster.identified d f).run server w = answered k ((f (cluster.collection k) k).run.run server w) := by
  rw [identified, hk]
  exact run_concerning k _ w

theorem respond_create (cluster : ClusterStore) (hk : storeKey d = .ok k) (w : σ) :
    cluster.respond server (.create d) w = answered k (((cluster.collection k).create d).run.run server w) :=
  run_identified cluster hk (fun c _ => c.create d) w

theorem respond_update (cluster : ClusterStore) (hk : storeKey d = .ok k) (w : σ) :
    cluster.respond server (.update d) w = answered k (((cluster.collection k).replace k.name d).run.run server w) :=
  run_identified cluster hk (fun c k => c.replace k.name d) w

theorem respond_delete (cluster : ClusterStore) (hk : storeKey d = .ok k) (w : σ) :
    cluster.respond server (.delete d) w = answered k (((cluster.collection k).delete k.name).run.run server w) :=
  run_identified cluster hk (fun c k => c.delete k.name) w

end ClusterStore

namespace Synchronize

variable {σ α : Type} {p : Placement} {o : ManagedObject} {k : ObjectKey} {d : DynamicObject}

/-- An operation ends with what comes of its last request, of which some errors count as success. -/
structure Ends (k : ObjectKey) (Benign : ClusterError → Prop) (a : Except ClusterError α)
    (r : Except ReconcileError Unit) : Prop where
  ok_iff : r = .ok () ↔ (∃ x, a = .ok x) ∨ ∃ e, a = .error e ∧ Benign e
  surfaced : ∀ e, a = .error e → ¬ Benign e → ∃ e', Surfaces k e e' ∧ r = .error (.store e')

theorem ends_ok {Benign : ClusterError → Prop} (x : α) : Ends k Benign (.ok x) (.ok ()) where
  ok_iff := iff_of_true rfl (.inl ⟨x, rfl⟩)
  surfaced := nofun

/-- An error ends an operation as success if it is benign, and as the error of the store otherwise. -/
theorem ends_error {Benign : ClusterError → Prop} {e : ClusterError} {benign : Bool}
    (h : benign = true ↔ Benign e) :
    Ends k Benign (.error e : Except ClusterError α)
      (if benign then .ok () else .error (.store (.ofCluster e k.kind.kind k.name))) := by
  cases benign with
  | true =>
    refine ⟨iff_of_true rfl (.inr ⟨e, rfl, h.1 rfl⟩), fun e' he hfatal => ?_⟩
    cases he
    exact absurd (h.1 rfl) hfatal
  | false =>
    refine ⟨iff_of_false nofun ?_, fun e' he _ => ?_⟩
    · rintro (⟨x, hx⟩ | ⟨e', he, hbenign⟩)
      · cases hx
      · cases he
        cases h.2 hbenign
    · cases he
      exact ⟨_, StoreError.surfaces_ofCluster k e, rfl⟩

theorem ends_afterDeletion (k : ObjectKey) (x : Except ClusterError Unit × σ) :
    Ends k ClusterError.Missing x.1 (afterDeletion (ClusterStore.answered k x).1) := by
  obtain ⟨a, w⟩ := x
  cases a with
  | ok => exact ends_ok ()
  | error e => exact ends_error StoreError.isNotFound_ofCluster

theorem ends_afterCreation (o : ManagedObject) (k : ObjectKey) (x : Except ClusterError DynamicObject × σ) :
    Ends k ClusterError.Existing x.1 (afterCreation o (ClusterStore.answered k x).1).2 := by
  obtain ⟨a, w⟩ := x
  cases a with
  | ok created => exact ends_ok created
  | error e => exact ends_error StoreError.isAlreadyExists_ofCluster

theorem ends_ending (k : ObjectKey) (x : Except ClusterError DynamicObject × σ) :
    Ends k (fun _ => False) x.1 (ending (ClusterStore.answered k x).1) := by
  obtain ⟨a, w⟩ := x
  cases a with
  | ok written => exact ends_ok written
  | error e => exact ends_error (iff_of_false Bool.false_ne_true not_false)

/-- How converging goes on in view of what comes of the lookup, and how it ends with what comes of the write. -/
structure Proceeds (server : Dialogue.Responder (fun _ : Request => Reply) σ) (c : Collection) (k : ObjectKey)
    (found : Except ClusterError DynamicObject × σ) (calls : List StoreCall) (r : Except ReconcileError Unit) :
    Prop where
  creates : (∃ u, calls = [.get k, .create u]) ↔ ∃ e, found.1 = .error e ∧ e.Missing
  updates : (∃ u, calls = [.get k, .update u]) ↔ ∃ stored, found.1 = .ok stored
  stops : calls = [.get k] ↔ ∃ e, found.1 = .error e ∧ ¬ e.Missing
  surfaced : ∀ e, found.1 = .error e → ¬ e.Missing → ∃ e', Surfaces k e e' ∧ r = .error (.store e')
  created : ∀ u, calls = [.get k, .create u] →
    Ends k (fun _ => False) ((c.create u).run.run server found.2).1 r
  updated : ∀ u, calls = [.get k, .update u] →
    Ends k (fun _ => False) ((c.replace k.name u).run.run server found.2).1 r

theorem proceeds_converge (cluster : ClusterStore) (server : Dialogue.Responder (fun _ : Request => Reply) σ)
    (s : Surroundings σ) (h : identify (prepare p o) = .ok (k, d)) :
    let c := cluster.collection k
    Proceeds server c k ((c.get k.name).run.run server s.store) ((converge p o).storeCalls (cluster.respond server) s)
      (Surroundings.run (cluster.respond server) (converge p o) s).1.2 := by
  intro c
  have hcourse := (course_converge (cluster.respond server) s h).1
  rw [ClusterStore.respond_get] at hcourse
  -- The course is told by what the store answered, which is an error exactly if the cluster answered with one.
  generalize (c.get k.name).run.run server s.store = x at hcourse ⊢
  obtain ⟨found, w⟩ := x
  constructor
  case creates =>
    refine hcourse.created.trans ?_
    cases found <;> simp [ClusterStore.answered, Except.mapError, StoreError.isNotFound_ofCluster]
  case updates =>
    refine hcourse.updated.trans ?_
    cases found <;> simp [ClusterStore.answered, Except.mapError]
  case stops =>
    refine hcourse.refused.trans ?_
    cases found <;> simp [ClusterStore.answered, Except.mapError, StoreError.isNotFound_ofCluster_eq_false]
  case surfaced =>
    rintro e rfl hfatal
    have hrefused := hcourse.error _ rfl (StoreError.isNotFound_ofCluster_eq_false.2 hfatal)
    exact ⟨_, StoreError.surfaces_ofCluster k e, hrefused⟩
  case created =>
    intro u hu
    obtain ⟨hkey, hr⟩ := hcourse.create u hu
    rw [hr, ClusterStore.respond_create cluster hkey]
    exact ends_ending k _
  case updated =>
    intro u hu
    obtain ⟨hkey, -, hr⟩ := hcourse.update u hu
    rw [hr, ClusterStore.respond_update cluster hkey]
    exact ends_ending k _

/-- What the synchronizer makes of the answers of a cluster. A deletion succeeds exactly if it was made or the object is
missing, a creation exactly if it was made or the object exists, and converging creates exactly if the lookup finds the
object missing, updates exactly if it finds it, and succeeds exactly if that write did. Every other error is surfaced.
No call is repeated, and none sends more than one request. -/
theorem answers_told_apart (cluster : ClusterStore) (server : Dialogue.Responder (fun _ : Request => Reply) σ)
    (p : Placement) (o : ManagedObject) (s : Surroundings σ) :
    let store := cluster.respond server
    (∀ k d, identify o = .ok (k, d) →
      (ensureAbsent o).storeCalls store s = [.delete d] ∧
        Ends k ClusterError.Missing (((cluster.collection k).delete k.name).run.run server s.store).1
          (Surroundings.run store (ensureAbsent o) s).1.2) ∧
    (∀ k d, identify (prepare p o) = .ok (k, d) →
      (ensurePresent p o).storeCalls store s = [.create d] ∧
        Ends k ClusterError.Existing (((cluster.collection k).create d).run.run server s.store).1
          (Surroundings.run store (ensurePresent p o) s).1.2 ∧
        Proceeds server (cluster.collection k) k (((cluster.collection k).get k.name).run.run server s.store)
          ((converge p o).storeCalls store s) (Surroundings.run store (converge p o) s).1.2) ∧
    ∀ c w, (Dialogue.questions server (cluster.answer c) w).length ≤ 1 := by
  refine ⟨fun k d h => ?_, fun k d h => ?_, ClusterStore.questions_answer cluster⟩
  · obtain ⟨hcalls, hresult, -⟩ := run_ensureAbsent_ok (cluster.respond server) s h
    rw [ClusterStore.respond_delete cluster (storeKey_of_identify h)] at hresult
    rw [hresult]
    exact ⟨hcalls, ends_afterDeletion k _⟩
  · obtain ⟨hcalls, hresult, -⟩ := run_ensurePresent (cluster.respond server) s h
    rw [ClusterStore.respond_create cluster (storeKey_of_identify h)] at hresult
    rw [hresult]
    exact ⟨hcalls, ends_afterCreation _ k _, proceeds_converge cluster server s h⟩

/-! ### Two servers -/

/-- A server that answers each method with a status, a failure without a body and a success with an object. -/
def replying (status : Method → Nat) : Dialogue.Responder (fun _ : Request => Reply) Unit := fun request _ =>
  let status := status request.method
  (.response status (if Reply.isFailure status then "" else "\x7b\"metadata\": \x7b\x7d\x7d"), ())

def quayCluster : ClusterStore := ⟨⟨"quay"⟩, none⟩

def unasked : Surroundings Unit := ⟨(), default, [], []⟩

/-- What becomes of a reply of code 404 without a body. -/
def missingError : ClusterError :=
  .response ⟨"404 Not Found", Text.quoted "", "Failed to parse error data", 404⟩

theorem answers_told_apart_missing :
    let store := quayCluster.respond (replying fun _ => 404)
    (Surroundings.run store (ensureAbsent settings) unasked).1.2 = .ok () ∧
      ∃ u, (converge unplaced settings).storeCalls store unasked = [.get settingsKey, .create u] := by
  intro store
  have hdeleted : (((quayCluster.collection settingsKey).delete "settings").run.run (replying fun _ => 404) ()).1 =
      .error missingError := by
    decide +kernel
  have hlooked : ∃ e, (((quayCluster.collection settingsKey).get "settings").run.run (replying fun _ => 404) ()).1 =
      .error e ∧ e.Missing := by
    -- Objects are not compared: that there is none is enough.
    have hanswer : (((quayCluster.collection settingsKey).get "settings").run.run (replying fun _ => 404) ()).1.map
        (fun _ => ()) = .error missingError := by
      decide +kernel
    cases hresult : (((quayCluster.collection settingsKey).get "settings").run.run (replying fun _ => 404) ()).1 with
    | ok stored =>
      rw [hresult] at hanswer
      cases hanswer
    | error e =>
      rw [hresult] at hanswer
      cases hanswer
      exact ⟨_, rfl, _, rfl, rfl⟩
  obtain ⟨hdeletion, hcreation, -⟩ :=
    answers_told_apart quayCluster (replying fun _ => 404) unplaced settings unasked
  obtain ⟨-, hends⟩ := hdeletion settingsKey storedSettings rfl
  obtain ⟨-, -, hproceeds⟩ := hcreation settingsKey storedSettings identify_settings
  exact ⟨hends.ok_iff.2 (.inr ⟨_, hdeleted, _, rfl, rfl⟩), hproceeds.creates.2 hlooked⟩

/-- An update may find the object missing and a lookup may run into a conflict. Neither is surfaced as the error of the
cluster that it is. -/
theorem converge_classifies :
    let ended (status : Method → Nat) :=
      let store := quayCluster.respond (replying status)
      (((converge unplaced settings).storeCalls store unasked).map StoreCall.kind,
        (Surroundings.run store (converge unplaced settings) unasked).1.2)
    ended (fun | .put => 404 | _ => 200) =
        ([.get, .update], .error (.store (.notFound "ConfigMap" "settings"))) ∧
      ended (fun _ => 409) =
        ([.get], .error (.store (.conflict "ConfigMap" "settings" (Text.quoted "")))) := by
  decide +kernel

end Synchronize

end Reconciliation
