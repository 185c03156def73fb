import Reconciliation.Proofs.Pass.Courses
import Reconciliation.Proofs.Pass.Effects
import Reconciliation.Proofs.Resource.Ownership
/-!
# Objects that are used again

An object takes over the version of whatever a store answers with, and keeps it until the next answer. An update does
not depend on that version, as it carries the one that was just looked up. A creation sends the object as it is: with
the version that was taken over, if there is one, though what it names is gone (`Deed.carries_after`). The store in
memory replaces that version; a server that takes none for a new object refuses it.
-/

namespace Reconciliation

open Dialogue (Yields run log)
open Pass

/-- The object that a store answers with, if there is one. -/
def StoreCall.given? : (c : StoreCall) → c.Answer → Option DynamicObject
  | get _, answer => answer.toOption
  | create _, answer => answer.toOption
  | update _, answer => answer.toOption
  | updateStatus _, answer => answer.toOption
  | delete _, _ => none

/-- The version of an object that had a given one and then took over those of the answers in a log. -/
def versionAfter (version : Option String) : List ((e : Effect) × e.Answer) → Option String
  | [] => version
  | ⟨.store c, answer⟩ :: rest =>
    versionAfter ((c.given? answer).elim version fun stored => stored.metadata.resourceVersion) rest
  | _ :: rest => versionAfter version rest

/-- What a write of the synchronizer carries, with the log of its pass up to there: an update the version that the
pass has looked up under the identity of the object, and a creation a given version. -/
def Carries (version : Option String) (before : List ((e : Effect) × e.Answer)) : Effect → Prop
  | .store (.update d) => ∃ k stored, before = [⟨.store (.get k), .ok stored⟩] ∧ storeKey d = .ok k ∧
      d.metadata.resourceVersion = stored.metadata.resourceVersion
  | .store (.create d) => d.metadata.resourceVersion = version
  | _ => True

/-- How a pass handles an object with a given version: its writes carry what they should, and the object that it gives
back has the version of the last answer. -/
structure Handled (version : Option String) (log : List ((e : Effect) × e.Answer)) (o : ManagedObject) : Prop where
  carries : ∀ before x after, log = before ++ x :: after → Carries version before x.1
  taken : o.metadata.resourceVersion = versionAfter version log

section Logs

variable {version : Option String} {before after : List ((e : Effect) × e.Answer)}

theorem versionAfter_append (version : Option String) (before after : List ((e : Effect) × e.Answer)) :
    versionAfter version (before ++ after) = versionAfter (versionAfter version before) after := by
  induction before generalizing version with
  | nil => rfl
  | cons x before ih =>
    obtain ⟨e, answer⟩ := x
    cases e with
    | store c => exact ih _
    | notify | now | measure => exact ih _

theorem versionAfter_measurements (h : Conclusion.Measurements after) : versionAfter version after = version := by
  induction after with
  | nil => rfl
  | cons x after ih =>
    obtain ⟨e, answer⟩ := x
    obtain ⟨m, rfl⟩ := h ⟨e, answer⟩ List.mem_cons_self
    exact ih fun y hy => h y (List.mem_cons_of_mem _ hy)

/-- What is said of every entry of a list with those before it is said of the first one, and of the others. -/
theorem forall_splits_cons {α : Type} {P : List α → α → Prop} {first : α} {rest : List α} :
    (∀ before x after, first :: rest = before ++ x :: after → P before x) ↔
      P [] first ∧ ∀ before x after, rest = before ++ x :: after → P (first :: before) x := by
  constructor
  · intro h
    exact ⟨h [] first rest rfl, fun before x after hrest => h (first :: before) x after (by rw [hrest]; rfl)⟩
  · rintro ⟨hfirst, hrest⟩ before x after hsplit
    cases before with
    | nil =>
      cases hsplit
      exact hfirst
    | cons y before =>
      cases hsplit
      exact hrest before x after rfl

theorem forall_splits_nil {α : Type} {P : List α → α → Prop} :
    ∀ before x after, [] = before ++ x :: after → P before x :=
  fun _ _ _ h => absurd h.symm (by simp)

theorem Handled.of_unread {log : List ((e : Effect) × e.Answer)} {o : ManagedObject}
    (hcarries : ∀ x ∈ log, ∀ before, Carries version before x.1)
    (htaken : o.metadata.resourceVersion = versionAfter version log) : Handled version log o where
  carries before x after hsplit := hcarries x (by simp [hsplit]) before
  taken := htaken

/-- Only a creation depends on the version that it is given. -/
theorem Carries.none_iff {e : Effect} (h : Carries version before e) :
    Carries none before e ↔ ∀ d, e = .store (.create d) → version = none := by
  have hother (hne : ∀ d, e ≠ .store (.create d)) (hnone : Carries none before e) :
      Carries none before e ↔ ∀ d, e = .store (.create d) → version = none :=
    iff_of_true hnone fun d hd => absurd hd (hne d)
  cases e with
  | store c =>
    cases c with
    | create d =>
      have hd : d.metadata.resourceVersion = version := h
      constructor
      · exact fun hnone d' _ => hd.symm.trans hnone
      · exact fun hversion => hd.trans (hversion d rfl)
    | get | update | updateStatus | delete => exact hother (fun d hd => by cases hd) h
  | notify | now | measure => exact hother (fun d hd => by cases hd) h

end Logs

namespace Synchronize

variable {p : Placement} {version : Option String} {o : ManagedObject}

theorem version_adopt (o : ManagedObject) (stored : DynamicObject) :
    (adopt o stored).metadata.resourceVersion = stored.metadata.resourceVersion := by
  rw [adopt, ManagedObject.metadata_withMetadata, ObjectMeta.adopt]

theorem version_prepare (hs : p.stamper.Discreet) (o : ManagedObject) :
    (prepare p o).metadata.resourceVersion = o.metadata.resourceVersion := by
  rw [prepare_eq, ManagedObject.metadata_withMetadata, ObjectMeta.inNamespace_eq, stamped]
  cases p.owner with
  | none => rfl
  | some owner => exact hs.resourceVersion owner o.metadata

/-- An object that is identified with a given version is handed over with that version. -/
theorem version_of_identify {k : ObjectKey} {d : DynamicObject} (h : identify o = .ok (k, d)) :
    d.metadata.resourceVersion = o.metadata.resourceVersion := by
  obtain ⟨-, hmetadata, -⟩ := ManagedObject.toDynamic_ok (identify_eq_ok.1 h).2
  rw [hmetadata]

theorem version_afterWrite (o : ManagedObject) (answer : Except StoreError DynamicObject) :
    (afterWrite o answer).1.metadata.resourceVersion = answer.toOption.elim o.metadata.resourceVersion
      fun written => written.metadata.resourceVersion := by
  cases answer with
  | ok written => exact version_adopt o written
  | error e => rfl

theorem handled_converge (hs : p.stamper.Discreet) (o : ManagedObject) :
    Yields (fun log given => Handled o.metadata.resourceVersion log given.1) (converge p o) := by
  have hprepared := version_prepare hs o
  refine (yields_converge p o).mono fun log given h => ?_
  cases h with
  | refused => exact ⟨forall_splits_nil, hprepared⟩
  | found hid stored answer =>
    constructor
    · simp only [forall_splits_cons]
      have hkey := (storeKey_carrying _ stored).trans (storeKey_of_identify hid)
      exact ⟨trivial, ⟨_, stored, rfl, hkey, rfl⟩, trivial, forall_splits_nil⟩
    · -- The object has the version that was looked up also when the update is refused.
      rw [version_afterWrite, ManagedObject.metadata_withMetadata]
      rfl
  | missing hid _ answer =>
    constructor
    · simp only [forall_splits_cons]
      exact ⟨trivial, (version_of_identify hid).trans hprepared, trivial, forall_splits_nil⟩
    · rw [version_afterWrite, hprepared]
      rfl
  | unread =>
    constructor
    · simp only [forall_splits_cons]
      exact ⟨trivial, trivial, forall_splits_nil⟩
    · exact hprepared

theorem handled_ensurePresent (hs : p.stamper.Discreet) (o : ManagedObject) :
    Yields (fun log given => Handled o.metadata.resourceVersion log given.1) (ensurePresent p o) := by
  have hprepared := version_prepare hs o
  refine (yields_ensurePresent p o).mono fun log given h => ?_
  cases h with
  | refused => exact ⟨forall_splits_nil, hprepared⟩
  | answered hid answer =>
    constructor
    · simp only [forall_splits_cons]
      exact ⟨(version_of_identify hid).trans hprepared, trivial, forall_splits_nil⟩
    · cases answer with
      | ok created => exact version_adopt _ created
      | error e => exact hprepared

theorem handled_ensureAbsent (o : ManagedObject) :
    Yields (fun log given => Handled o.metadata.resourceVersion log given.1) (ensureAbsent o) := by
  refine (yields_ensureAbsent o).mono fun log given h => ?_
  cases h with
  | refused => exact ⟨forall_splits_nil, rfl⟩
  | answered =>
    constructor
    · simp only [forall_splits_cons]
      exact ⟨trivial, trivial, forall_splits_nil⟩
    · rfl

end Synchronize

namespace Conclusion

variable {b : Backoff} {o : ManagedObject} {k : ObjectKey} {status : Status}

theorem handled_writeStatus (o : ManagedObject) (status : Status) :
    Yields (fun log given => Handled o.metadata.resourceVersion log given.1) (writeStatus o status) := by
  have hsame : (o.withStatus status).metadata.resourceVersion = o.metadata.resourceVersion := by
    rw [ManagedObject.metadata_withStatus]
  cases ho : o.tracksStatus with
  | false =>
    have hopen : writeStatus o status = .done (o, .error (.typeMismatch .untracked)) := by
      simp only [writeStatus, ho, Bool.not_false, if_true]
      rfl
    rw [hopen]
    exact yields_done ⟨forall_splits_nil, rfl⟩
  | true =>
    cases hd : (o.withStatus status).toDynamic with
    | error cause =>
      rw [writeStatus_of_unwritable ho hd]
      exact yields_done ⟨forall_splits_nil, hsame⟩
    | ok d =>
      rw [writeStatus_of_toDynamic ho hd]
      refine yields_call fun answer => ?_
      cases answer with
      | ok stored =>
        refine yields_done ⟨?_, Synchronize.version_adopt _ stored⟩
        simp only [forall_splits_cons]
        exact ⟨trivial, forall_splits_nil⟩
      | error e =>
        refine yields_measure (yields_done ⟨?_, hsame⟩)
        simp only [forall_splits_cons]
        exact ⟨trivial, trivial, forall_splits_nil⟩

/-- The status write of a recording, with its measurements, reads no version and sends none that matters. -/
theorem carries_statusWrite {written counts : List ((e : Effect) × e.Answer)} {writing : Writing}
    (hwritten : StatusWrite o k status written writing)
    (hcounts : Measurements counts) : ∀ x ∈ written ++ counts, ∀ version before, Carries version before x.1 := by
  intro x hx version before
  rcases List.mem_append.1 hx with hx | hx
  · cases hwritten with
    | untracked | unwritable => cases hx
    | answered _ d answer =>
      rw [List.mem_singleton.1 hx]
      trivial
  · obtain ⟨m, hm⟩ := hcounts x hx
    rw [hm]
    trivial

theorem version_afterWriting {written counts : List ((e : Effect) × e.Answer)} {writing : Writing}
    (hwritten : StatusWrite o k status written writing) (hcounts : Measurements counts) :
    (afterWriting o status writing).metadata.resourceVersion =
      versionAfter o.metadata.resourceVersion (written ++ counts) := by
  have hsame : (o.withStatus status).metadata.resourceVersion = o.metadata.resourceVersion := by
    rw [ManagedObject.metadata_withStatus]
  rw [versionAfter_append, versionAfter_measurements hcounts]
  cases hwritten with
  | untracked => rfl
  | unwritable => exact hsame
  | answered _ d answer =>
    cases answer with
    | ok stored => exact Synchronize.version_adopt _ stored
    | error e => exact hsame

theorem handled_recordFailure (b : Backoff) (o : ManagedObject) (message : String) :
    Yields (fun log given => Handled o.metadata.resourceVersion log given.1) (recordFailure b o message) := by
  cases hk : ObjectKey.of o with
  | error e =>
    rw [(recordings_of_unidentified hk b message).1]
    exact yields_done ⟨forall_splits_nil, rfl⟩
  | ok k =>
    refine (yields_recordFailure hk b message).mono ?_
    rintro log result ⟨now, written, writing, counts, hwritten, hcounts, rfl, rfl⟩
    refine .of_unread (fun x hx before => ?_) (version_afterWriting hwritten hcounts)
    rcases List.mem_cons.1 hx with rfl | hx
    · trivial
    · rcases List.mem_cons.1 hx with rfl | hx
      · trivial
      · exact carries_statusWrite hwritten hcounts x hx _ before

theorem handled_recordSuccess (b : Backoff) (o : ManagedObject) :
    Yields (fun log given => Handled o.metadata.resourceVersion log given.1) (recordSuccess b o) := by
  cases hk : ObjectKey.of o with
  | error e =>
    rw [(recordings_of_unidentified hk b "").2]
    exact yields_done ⟨forall_splits_nil, rfl⟩
  | ok k =>
    refine (yields_recordSuccess hk b).mono ?_
    rintro log result ⟨now, written, writing, counts, hwritten, hcounts, rfl, rfl⟩
    cases o.tracksStatus with
    | false =>
      rw [if_neg Bool.false_ne_true, List.nil_append]
      refine .of_unread (fun x hx before => ?_) (version_afterWriting hwritten hcounts)
      exact carries_statusWrite hwritten hcounts x hx _ before
    | true =>
      rw [if_pos rfl]
      have hversion := version_afterWriting hwritten hcounts
      refine .of_unread (fun x hx before => ?_) hversion
      rcases List.mem_cons.1 hx with rfl | hx
      · trivial
      · exact carries_statusWrite hwritten hcounts x hx _ before

end Conclusion

/-- What a controller does with an object that it has in hand. -/
inductive Deed where
  | converge (owner : Option ManagedObject) (nameSpace : Option String)
  | ensurePresent (owner : Option ManagedObject) (nameSpace : Option String)
  | ensureAbsent
  | writeStatus (status : Status)
  | recordFailure (message : String)
  | recordSuccess

namespace Deed

variable {σ : Type} {r : Reconciler}

/-- The object as a deed gives it back. -/
def pass (r : Reconciler) (o : ManagedObject) : Deed → Pass ManagedObject
  | converge owner nameSpace => do return (← r.converge owner nameSpace o).1
  | ensurePresent owner nameSpace => do return (← r.ensurePresent owner nameSpace o).1
  | ensureAbsent => do return (← Synchronize.ensureAbsent o).1
  | writeStatus status => do return (← Conclusion.writeStatus o status).1
  | recordFailure message => do return (← r.recordFailure o message).1
  | recordSuccess => do return (← r.recordSuccess o).1

/-- One deed after the other on the object that the one before gave back. -/
def passAll (r : Reconciler) (o : ManagedObject) : List Deed → Pass ManagedObject
  | [] => return o
  | deed :: deeds => do passAll r (← deed.pass r o) deeds

/-- A deed on an object handles it. -/
theorem handled_pass (hs : r.stamper.Discreet) (o : ManagedObject) (deed : Deed) :
    Yields (Handled o.metadata.resourceVersion) (deed.pass r o) := by
  have hfirst : ∀ {α : Type} {p : Pass (ManagedObject × α)},
      Yields (fun log given => Handled o.metadata.resourceVersion log given.1) p →
        Yields (Handled o.metadata.resourceVersion) (do return (← p).1) := by
    intro α p hp
    refine Dialogue.yields_andThen (hp.mono fun log given hgiven => yields_done ?_)
    rwa [List.append_nil]
  cases deed with
  | converge owner nameSpace => exact hfirst (Synchronize.handled_converge hs o)
  | ensurePresent owner nameSpace => exact hfirst (Synchronize.handled_ensurePresent hs o)
  | ensureAbsent => exact hfirst (Synchronize.handled_ensureAbsent o)
  | writeStatus status => exact hfirst (Conclusion.handled_writeStatus o status)
  | recordFailure message => exact hfirst (Conclusion.handled_recordFailure r.backoff o message)
  | recordSuccess => exact hfirst (Conclusion.handled_recordSuccess r.backoff o)

/-- After all deeds an object has the version of the last answer. -/
theorem version_passAll (hs : r.stamper.Discreet) (respond : Dialogue.Responder Effect.Answer σ) (o : ManagedObject)
    (deeds : List Deed) (s : σ) :
    (run respond (passAll r o deeds) s).1.metadata.resourceVersion =
      versionAfter o.metadata.resourceVersion (log respond (passAll r o deeds) s) := by
  induction deeds generalizing o s with
  | nil => rfl
  | cons deed deeds ih =>
    have hdeed := ((handled_pass hs o deed).run respond s).taken
    rw [passAll, Dialogue.bind_eq, Dialogue.run_andThen, Dialogue.log_andThen, versionAfter_append, ← hdeed, ih]

/-- After any deeds on an object, an update carries the version that its own lookup returned, and a creation the
version that the answers to the earlier deeds left on the object. So the writes carry nothing that was not looked up
exactly as long as there is no such version when an object is created. -/
theorem carries_after (r : Reconciler) (hs : r.stamper.Discreet) (o : ManagedObject) (deeds : List Deed) (deed : Deed)
    (respond : Dialogue.Responder Effect.Answer σ) (s : σ) :
    let reached := run respond (passAll r o deeds) s
    let version := versionAfter o.metadata.resourceVersion (log respond (passAll r o deeds) s)
    ∀ before x after, log respond (deed.pass r reached.1) reached.2 = before ++ x :: after →
      Carries version before x.1 ∧
      (Carries none before x.1 ↔ ∀ d, x.1 = .store (.create d) → version = none) := by
  intro reached version before x after hsplit
  have hcarries : Carries version before x.1 := by
    have hversion : reached.1.metadata.resourceVersion = version := version_passAll hs respond o deeds s
    rw [← hversion]
    exact ((handled_pass hs reached.1 deed).run respond reached.2).carries before x after hsplit
  exact ⟨hcarries, hcarries.none_iff⟩

/-! ### A configuration map that is converged twice -/

/-- `settings` as the first object that is created in a store. The object in hand is then the same. -/
def createdSettings : DynamicObject := Memory.newObject Synchronize.storedSettings "1"

/-- What is logged when `settings` is converged again, over a store that was empty before. -/
def logAgain (store : Store Memory) : List ((e : Effect) × e.Answer) :=
  let respond := Surroundings.respond store
  let r := Reconciler.ofConfiguration .default
  let reached := run respond (passAll r Synchronize.settings [.converge none none]) ⟨{}, default, [], []⟩
  log respond ((converge none none).pass r reached.1) reached.2

/-- A store in memory from which somebody removes an object after each call. -/
def removedBehind (d : DynamicObject) : Store Memory := fun c m =>
  ((Memory.respond c m).1, (Memory.delete d (Memory.respond c m).2).2)

theorem logAgain_kept : logAgain Memory.respond =
    [⟨.store (.get Synchronize.settingsKey), .ok createdSettings⟩] ++
      ⟨.store (.update createdSettings), .ok (Memory.withVersion createdSettings "2")⟩ ::
      [⟨.measure (.operation "create_or_update" "updated"), ()⟩] := rfl

theorem logAgain_removed : logAgain (removedBehind Synchronize.storedSettings) =
    [⟨.store (.get Synchronize.settingsKey), .error (.notFound "ConfigMap" "settings")⟩] ++
      ⟨.store (.create createdSettings), .ok (Memory.newObject createdSettings "2")⟩ ::
      [⟨.measure (.operation "create_or_update" "created"), ()⟩] := rfl

theorem carries_again : ∃ before answer after,
    logAgain Memory.respond = before ++ ⟨.store (.update createdSettings), answer⟩ :: after ∧
      createdSettings.metadata.resourceVersion = some "1" ∧
      Carries none before (.store (.update createdSettings)) := by
  obtain ⟨-, hnone⟩ := carries_after (.ofConfiguration .default) Stamper.discreet_controllerReference
    Synchronize.settings [.converge none none] (.converge none none) (Surroundings.respond Memory.respond)
    ⟨{}, default, [], []⟩ _ _ _ logAgain_kept
  exact ⟨_, _, _, logAgain_kept, rfl, hnone.2 fun d hd => by cases hd⟩

/-- An object that was removed behind its controller is created with the version of the removed one. -/
theorem carries_version_of_removed :
    ¬ ∀ before x after, logAgain (removedBehind Synchronize.storedSettings) = before ++ x :: after →
      Carries none before x.1 := by
  intro hcarries
  have hnone : createdSettings.metadata.resourceVersion = none := hcarries _ _ _ logAgain_removed
  cases hnone

end Deed

end Reconciliation
