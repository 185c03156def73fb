import Mathlib.Data.List.Forall2
import Reconciliation.Proofs.Memory.Alike
import Reconciliation.Proofs.Pass.Sends
/-!
# Operations on alike objects

Operations pass versions and identifiers on without a look at them. On alike objects they make alike calls, and with
alike answers they go on alike, whatever the answers are (`Dialogue.Alike`). Each operation has one lemma, and each
way to put operations together has one.
-/

namespace Reconciliation

open StoreCall

variable {V V' : Matching}

namespace Dialogue

variable {α α' β β' : Type} {Q : Matching → α → α' → Prop} {Q' : Matching → β → β' → Prop}

/-- Two dialogues that make alike calls, and that go on alike with alike answers, however many versions have come to
be matched meanwhile, up to related results. -/
inductive Alike (Q : Matching → α → α' → Prop) :
    Matching → Dialogue StoreCall.Answer α → Dialogue StoreCall.Answer α' → Prop
  | done {V : Matching} {a : α} {a' : α'} (h : Q V a a') : Alike Q V (.done a) (.done a')
  | ask {V : Matching} {c c' : StoreCall} {next : c.Answer → Dialogue StoreCall.Answer α}
      {next' : c'.Answer → Dialogue StoreCall.Answer α'} (hc : c.Alike V c')
      (h : ∀ V', V ≤ V' → ∀ a a', AnswersAlike V' c c' a a' → Alike Q V' (next a) (next' a')) :
      Alike Q V (.ask c next) (.ask c' next')

theorem Alike.andThen {d : Dialogue StoreCall.Answer α} {d' : Dialogue StoreCall.Answer α'}
    {f : α → Dialogue StoreCall.Answer β} {f' : α' → Dialogue StoreCall.Answer β'} (hd : Alike Q V d d')
    (hf : ∀ V', V ≤ V' → ∀ a a', Q V' a a' → Alike Q' V' (f a) (f' a')) :
    Alike Q' V (Dialogue.andThen d f) (Dialogue.andThen d' f') := by
  induction hd with
  | done h => exact hf _ le_rfl _ _ h
  | ask hc h ih =>
    refine .ask hc fun V' hV a a' ha => ?_
    exact ih V' hV a a' ha fun V'' hV' b b' hb => hf V'' (hV.trans hV') b b' hb

end Dialogue

namespace Pass

variable {α α' β β' : Type} {Q : Matching → α → α' → Prop} {Q' : Matching → β → β' → Prop} {clock : Instant}

/-- Two passes whose calls are alike. -/
def Alike (clock : Instant) (Q : Matching → α → α' → Prop) (V : Matching) (p : Pass α) (p' : Pass α') : Prop :=
  Dialogue.Alike Q V (p.calls clock) (p'.calls clock)

theorem alike_done {a : α} {a' : α'} (h : Q V a a') : Alike clock Q V (.done a) (.done a') :=
  .done h

theorem alike_andThen {p : Pass α} {p' : Pass α'} {f : α → Pass β} {f' : α' → Pass β'} (hp : p.Alike clock Q V p')
    (hf : ∀ V', V ≤ V' → ∀ a a', Q V' a a' → (f a).Alike clock Q' V' (f' a')) :
    Alike clock Q' V (Dialogue.andThen p f) (Dialogue.andThen p' f') := by
  rw [Alike, calls_andThen, calls_andThen]
  exact Dialogue.Alike.andThen hp hf

theorem alike_call {c c' : StoreCall} (h : c.Alike V c') :
    (call c).Alike clock (fun V => AnswersAlike V c c') V (call c') :=
  .ask h fun _ _ _ _ ha => .done ha

theorem alike_measure {n n' : Measurement} {f : Unit → Pass β} {f' : Unit → Pass β'}
    (h : (f ()).Alike clock Q' V (f' ())) :
    Alike clock Q' V (Dialogue.andThen (measure n) f) (Dialogue.andThen (measure n') f') := h

theorem alike_notify {n n' : Notice} {f : Unit → Pass β} {f' : Unit → Pass β'}
    (h : (f ()).Alike clock Q' V (f' ())) :
    Alike clock Q' V (Dialogue.andThen (notify n) f) (Dialogue.andThen (notify n') f') := h

theorem alike_now {f : Instant → Pass β} {f' : Instant → Pass β'} (h : (f clock).Alike clock Q' V (f' clock)) :
    Alike clock Q' V (Dialogue.andThen now f) (Dialogue.andThen now f') := h

end Pass

/-- The same failure, but for the text of a conflict. -/
inductive ReconcileError.Alike : ReconcileError → ReconcileError → Prop
  | refl (e : ReconcileError) : Alike e e
  | store {e e' : StoreError} (h : e.Alike e') : Alike (.store e) (.store e')
  | statusPersist {e e' : StoreError} (h : e.Alike e') : Alike (.statusPersist e) (.statusPersist e')

/-- The same outcome of an operation. -/
abbrev OutcomeAlike : Except ReconcileError Unit → Except ReconcileError Unit → Prop :=
  ExceptAlike ReconcileError.Alike Eq

/-- An object that is given back, with the outcome of what was done to it. -/
def GivenAlike (V : Matching) (r r' : ManagedObject × Except ReconcileError Unit) : Prop :=
  r.1.Alike V r'.1 ∧ OutcomeAlike r.2 r'.2

def AllGivenAlike (V : Matching) (r r' : List ManagedObject × Except ReconcileError Unit) : Prop :=
  List.Forall₂ (ManagedObject.Alike V) r.1 r'.1 ∧ OutcomeAlike r.2 r'.2

namespace Synchronize

open Pass

variable {clock : Instant} {p : Placement} {o o' : ManagedObject} {os os' : List ManagedObject}
  {w w' : DynamicObject}

theorem alike_adopt (h : o.Alike V o') (hw : w.Alike V w') : (adopt o w).Alike V (adopt o' w') :=
  h.withMetadata (h.metadata.adopt hw.metadata)

theorem alike_prepare (hp : p.stamper.Blind) (h : o.Alike V o') : (prepare p o).Alike V (prepare p o') := by
  rw [prepare_eq, prepare_eq]
  refine h.withMetadata (ObjectMeta.Alike.inNamespace ?_ p.nameSpace)
  unfold stamped
  cases p.owner with
  | none => exact h.metadata
  | some owner => exact hp.alike owner h.metadata

/-- Alike objects have one identity and alike written forms, or neither has them. -/
theorem alike_identify (h : o.Alike V o') :
    (∃ e, identify o = .error e ∧ identify o' = .error e) ∨
      ∃ k d d', identify o = .ok (k, d) ∧ identify o' = .ok (k, d') ∧ d.Alike V d' := by
  unfold identify
  rw [h.key]
  cases ObjectKey.of o with
  | error e => exact .inl ⟨_, rfl, rfl⟩
  | ok k =>
    have hwritten := h.toDynamic
    generalize o.toDynamic = written at hwritten ⊢
    generalize o'.toDynamic = written' at hwritten ⊢
    cases hwritten with
    | error he =>
      cases he
      exact .inl ⟨_, rfl, rfl⟩
    | ok hd => exact .inr ⟨k, _, _, rfl, rfl, hd⟩

theorem alike_finish (operation outcome : String) {operation' outcome' : String} (h : o.Alike V o')
    {r r' : Except ReconcileError Unit} (hr : OutcomeAlike r r') :
    (finish operation outcome o r).Alike clock GivenAlike V (finish operation' outcome' o' r') :=
  .done ⟨h, hr⟩

theorem alike_afterWrite (h : o.Alike V o') {answer answer' : Except StoreError DynamicObject}
    (ha : ExceptAlike StoreError.Alike (DynamicObject.Alike V) answer answer') :
    GivenAlike V (afterWrite o answer) (afterWrite o' answer') := by
  cases ha with
  | ok hw => exact ⟨alike_adopt h hw, .ok rfl⟩
  | error he => exact ⟨h, .error (.store he)⟩

theorem alike_converge (hp : p.stamper.Blind) (h : o.Alike V o') :
    (converge p o).Alike clock GivenAlike V (converge p o') := by
  have hprepared := alike_prepare hp h
  rcases alike_identify hprepared with ⟨e, hid, hid'⟩ | ⟨k, d, d', hid, hid', hd⟩
  · simp only [converge, hid, hid']
    exact alike_done ⟨hprepared, .error (.refl e)⟩
  · rw [Pass.Alike, calls_converge hid, calls_converge hid']
    refine .ask (.get k) fun V' hV answer answer' ha => ?_
    have hnow := hprepared.mono hV
    cases ha with
    | ok hw =>
      refine .ask (.update ?_) fun V'' hV' answer answer' ha => .done (alike_afterWrite ?_ ha)
      · exact (hd.mono hV).withMetadata ((hd.mono hV).metadata.withVersion hw.metadata.version)
      · exact (hnow.withMetadata (hnow.metadata.withVersion hw.metadata.version)).mono hV'
    | error he =>
      rw [afterLookup, afterLookup, he.isNotFound]
      split_ifs
      · exact .ask (.create (hd.mono hV)) fun V'' hV' answer answer' ha =>
          .done (alike_afterWrite (hnow.mono hV') ha)
      · exact .done ⟨hnow, .error (.store he)⟩

theorem alike_ensurePresent (hp : p.stamper.Blind) (h : o.Alike V o') :
    (ensurePresent p o).Alike clock GivenAlike V (ensurePresent p o') := by
  have hprepared := alike_prepare hp h
  rcases alike_identify hprepared with ⟨e, hid, hid'⟩ | ⟨k, d, d', hid, hid', hd⟩
  · simp only [ensurePresent, hid, hid']
    exact alike_done ⟨hprepared, .error (.refl e)⟩
  · simp only [ensurePresent, hid, hid']
    refine alike_andThen (alike_call (.create hd)) fun V' hV answer answer' ha => ?_
    cases ha with
    | ok hw => exact alike_finish _ _ (alike_adopt (hprepared.mono hV) hw) (.ok rfl)
    | error he =>
      dsimp only
      rw [he.isAlreadyExists]
      split_ifs
      · exact alike_finish _ _ (hprepared.mono hV) (.ok rfl)
      · exact alike_finish _ _ (hprepared.mono hV) (.error (.store he))

theorem alike_ensureAbsent (h : o.Alike V o') :
    (ensureAbsent o).Alike clock GivenAlike V (ensureAbsent o') := by
  rcases alike_identify h with ⟨e, hid, hid'⟩ | ⟨k, d, d', hid, hid', hd⟩
  · simp only [ensureAbsent, hid, hid']
    exact alike_done ⟨h, .error (.refl e)⟩
  · simp only [ensureAbsent, hid, hid']
    refine alike_andThen (alike_call (.delete hd)) fun V' hV answer answer' ha => ?_
    cases ha with
    | ok => exact alike_finish _ _ (h.mono hV) (.ok rfl)
    | error he =>
      dsimp only
      rw [he.isNotFound]
      split_ifs
      · exact alike_finish _ _ (h.mono hV) (.ok rfl)
      · exact alike_finish _ _ (h.mono hV) (.error (.store he))

theorem forall₂_mono (h : List.Forall₂ (ManagedObject.Alike V) os os') (hV : V ≤ V') :
    List.Forall₂ (ManagedObject.Alike V') os os' :=
  h.imp fun _ _ halike => halike.mono hV

theorem alike_batch {operation : ManagedObject → Pass (ManagedObject × Except ReconcileError Unit)}
    (hop : ∀ {V : Matching} {o o' : ManagedObject}, o.Alike V o' →
      (operation o).Alike clock GivenAlike V (operation o'))
    (h : List.Forall₂ (ManagedObject.Alike V) os os') :
    (batch operation os).Alike clock AllGivenAlike V (batch operation os') := by
  induction os generalizing V os' with
  | nil =>
    cases h
    exact alike_done ⟨.nil, .ok rfl⟩
  | cons o rest ih =>
    cases h with
    | cons ho hrest =>
      refine alike_andThen (hop ho) fun V' hV given given' hgiven => ?_
      obtain ⟨o₁, r⟩ := given
      obtain ⟨o₁', r'⟩ := given'
      obtain ⟨ho₁, hr⟩ := hgiven
      cases hr with
      | error he => exact alike_done ⟨.cons ho₁ (forall₂_mono hrest hV), .error he⟩
      | ok =>
        refine alike_andThen (ih (forall₂_mono hrest hV)) fun V'' hV' all all' hall => ?_
        exact alike_done ⟨.cons (ho₁.mono hV') hall.1, hall.2⟩

theorem alike_discard {p p' : Pass (List ManagedObject × Except ReconcileError Unit)}
    (h : p.Alike clock AllGivenAlike V p') :
    Pass.Alike clock (fun _ => OutcomeAlike) V (do let (_, r) ← p; return r) (do let (_, r) ← p'; return r) :=
  alike_andThen h fun _ _ _ _ hall => alike_done hall.2

/-- The resources of a template go through alike operations alike. -/
theorem alike_onRendered {t : Template} {data : Json}
    {operation : List ManagedObject → Pass (List ManagedObject × Except ReconcileError Unit)}
    (hop : ∀ os, t.resources data = .ok os →
      (operation (os.map .dynamic)).Alike clock AllGivenAlike V (operation (os.map .dynamic))) :
    (onRendered t data operation).Alike clock (fun _ => OutcomeAlike) V (onRendered t data operation) := by
  unfold onRendered
  split
  · exact alike_done (.error (.refl _))
  · rename_i os hos
    exact alike_discard (hop os hos)

theorem forall₂_refl (h : ∀ o ∈ os, o.Alike V o) : List.Forall₂ (ManagedObject.Alike V) os os :=
  List.forall₂_same.2 h

end Synchronize

namespace Conclusion

open Pass

variable {clock : Instant} {o o' : ManagedObject} {b : Backoff}

/-- An object that is given back, with what a scheduler is told. -/
def RequeueAlike (V : Matching) (r r' : ManagedObject × Requeue) : Prop :=
  r.1.Alike V r'.1 ∧ r.2 = r'.2

theorem alike_finish (outcome : String) (h : o.Alike V o') (delay : Duration) :
    (finish outcome o delay).Alike clock RequeueAlike V (finish outcome o' delay) :=
  .done ⟨h, rfl⟩

theorem alike_writeStatus (h : o.Alike V o') (s : Status) :
    (writeStatus o s).Alike clock GivenAlike V (writeStatus o' s) := by
  unfold writeStatus
  rw [h.tracksStatus]
  split_ifs
  · exact alike_done ⟨h, .error (.refl _)⟩
  · have hstated := h.withStatus s
    have hwritten := hstated.toDynamic
    dsimp only
    generalize (o.withStatus s).toDynamic = written at hwritten ⊢
    generalize (o'.withStatus s).toDynamic = written' at hwritten ⊢
    cases hwritten with
    | error he =>
      cases he
      exact alike_done ⟨hstated, .error (.refl _)⟩
    | ok hd =>
      refine alike_andThen (alike_call (.updateStatus hd)) fun V' hV answer answer' ha => ?_
      cases ha with
      | ok hw => exact alike_done ⟨Synchronize.alike_adopt (hstated.mono hV) hw, .ok rfl⟩
      | error he => exact alike_measure (alike_done ⟨hstated.mono hV, .error (.statusPersist he)⟩)

/-- Alike objects can be referred to, or neither can. -/
theorem alike_reference (h : o.Alike V o') :
    (∃ e, ObjectReference.of o = .error e ∧ ObjectReference.of o' = .error e) ∨
      ∃ r r', ObjectReference.of o = .ok r ∧ ObjectReference.of o' = .ok r' := by
  rw [ObjectReference.of, ObjectReference.of, h.key]
  cases ObjectKey.of o with
  | error e => exact .inl ⟨e, rfl, rfl⟩
  | ok k => exact .inr ⟨_, _, rfl, rfl⟩

theorem alike_recordFailure (h : o.Alike V o') (message : String) :
    (recordFailure b o message).Alike clock RequeueAlike V (recordFailure b o' message) := by
  unfold recordFailure
  rcases alike_reference h with ⟨e, hr, hr'⟩ | ⟨r, r', hr, hr'⟩
  · simp only [hr, hr']
    exact alike_done ⟨h, rfl⟩
  · simp only [hr, hr', h.status?]
    refine alike_notify (alike_now ?_)
    cases o.status? with
    | none => exact alike_finish _ h _
    | some previous =>
      refine alike_andThen (alike_writeStatus h _) fun V' hV written written' hwritten => ?_
      obtain ⟨o₁, outcome⟩ := written
      obtain ⟨o₁', outcome'⟩ := written'
      obtain ⟨ho₁, houtcome⟩ := hwritten
      cases houtcome with
      | error => exact alike_finish _ ho₁ _
      | ok => exact alike_finish _ ho₁ _

theorem alike_recordSuccess (h : o.Alike V o') :
    (recordSuccess b o).Alike clock RequeueAlike V (recordSuccess b o') := by
  unfold recordSuccess
  rcases alike_reference h with ⟨e, hr, hr'⟩ | ⟨r, r', hr, hr'⟩
  · simp only [hr, hr']
    exact alike_done ⟨h, rfl⟩
  · simp only [hr, hr', h.tracksStatus]
    split_ifs
    · exact alike_measure (alike_done ⟨h, rfl⟩)
    · refine alike_now (alike_andThen (alike_writeStatus h _) fun V' hV written written' hwritten => ?_)
      obtain ⟨o₁, outcome⟩ := written
      obtain ⟨o₁', outcome'⟩ := written'
      obtain ⟨ho₁, houtcome⟩ := hwritten
      cases houtcome with
      | error => exact alike_finish _ ho₁ _
      | ok => exact alike_measure (alike_done ⟨ho₁, rfl⟩)

end Conclusion

end Reconciliation
