import Mathlib.Data.List.Induction
import Reconciliation.Cluster.Recorder
import Reconciliation.Proofs.Cluster.Requests
import Reconciliation.Proofs.Resource.Metadata
/-!
# Series of events

A recorder remembers one event for each series, and its count is the number of notices of the series that arrived
(`find?_recorded`). So a notice is sent as an event of its own if none of its series arrived before, and otherwise as a
change of the first event of the series, which names how many there are now (`publish_after`). What did not arrive does
not count.
-/

namespace Reconciliation

/-- Two notices are of one series: they say the same about the same version of an object, whatever their messages. -/
def Notice.SameSeries (n m : Notice) : Prop :=
  n.reference = m.reference ∧ n.severity = m.severity ∧ n.reason = m.reason ∧ n.action = m.action

namespace Notice

variable {n m k : Notice}

instance (n m : Notice) : Decidable (n.SameSeries m) := by
  unfold SameSeries
  infer_instance

theorem SameSeries.refl (n : Notice) : n.SameSeries n :=
  ⟨rfl, rfl, rfl, rfl⟩

theorem SameSeries.symm (h : n.SameSeries m) : m.SameSeries n :=
  ⟨h.1.symm, h.2.1.symm, h.2.2.1.symm, h.2.2.2.symm⟩

theorem SameSeries.trans (h : n.SameSeries m) (h' : m.SameSeries k) : n.SameSeries k :=
  ⟨h.1.trans h'.1, h.2.1.trans h'.2.1, h.2.2.1.trans h'.2.2.1, h.2.2.2.trans h'.2.2.2⟩

end Notice

/-- A notice that is published, and the mark for the name of its event. -/
abbrev Publication : Type := String × Notice

namespace Event

/-- The event of the publications of one series, in the order in which they arrived. -/
def ofSeries? (reporter : Reporter) : List Publication → Option Event
  | [] => none
  | [(mark, n)] => some (first reporter mark n)
  | (mark, n) :: later => some { first reporter mark n with count := some (later.length + 1) }

/-- What is sent for a publication after those of its series that arrived. -/
def after (reporter : Reporter) (arrived : List Publication) (p : Publication) : Event :=
  match arrived with
  | [] => first reporter p.1 p.2
  | (mark, n) :: later => { first reporter mark n with count := some (later.length + 2) }

theorem ofSeries?_eq_none {reporter : Reporter} {arrived : List Publication} :
    ofSeries? reporter arrived = none ↔ arrived = [] := by
  match arrived with
  | [] => simp [ofSeries?]
  | [_] => simp [ofSeries?]
  | _ :: _ :: _ => simp [ofSeries?]

theorem again_ofSeries? {reporter : Reporter} {arrived : List Publication} {e : Event}
    (h : ofSeries? reporter arrived = some e) (p : Publication) : e.again = after reporter arrived p := by
  match arrived, h with
  | [_], rfl => rfl
  | _ :: _ :: _, rfl => rfl

theorem ofSeries?_append_singleton (reporter : Reporter) (arrived : List Publication) (p : Publication) :
    ofSeries? reporter (arrived ++ [p]) = some (after reporter arrived p) := by
  match arrived with
  | [] => rfl
  | [_] => rfl
  | (_, _) :: _ :: later =>
    have hlength : (later ++ [p]).length = later.length + 1 := List.length_append
    simp only [List.cons_append, ofSeries?, after, List.length_cons, hlength]

end Event

namespace Recorder

variable {σ : Type} {r : Recorder} {n m : Notice} {e : Event}

theorem continues_iff : continues n e = true ↔ n.SameSeries e.notice := by
  simp only [continues, Bool.and_eq_true, beq_iff_eq, and_assoc]
  constructor <;> exact Notice.SameSeries.symm

/-- The recorder after some publications have arrived. -/
def recorded (reporter : Reporter) (arrived : List Publication) : Recorder :=
  arrived.foldl (fun r p => r.remember (r.next p.1 p.2)) { reporter := reporter }

/-- The publications of the series of a notice. -/
def ofSeries (n : Notice) (ps : List Publication) : List Publication :=
  ps.filter fun p => n.SameSeries p.2

theorem ofSeries_congr (h : n.SameSeries m) (ps : List Publication) : ofSeries n ps = ofSeries m ps := by
  refine List.filter_congr fun p _ => decide_eq_decide.2 ?_
  exact ⟨h.symm.trans, h.trans⟩

theorem find?_remember (r : Recorder) (e : Event) (n : Notice) :
    (r.remember e).published.find? (continues n) =
      if continues n e then some e else r.published.find? (continues n) := by
  rw [remember, List.find?_cons]
  cases hn : continues n e with
  | true => rfl
  | false =>
    -- An event that is dropped is of the series of `e`, and so it is not of the series of `n`.
    have hkept : (fun d => decide ((!continues e.notice d) = true ∧ continues n d = true)) = continues n := by
      funext d
      cases hd : continues n d with
      | false => simp
      | true =>
        have hdropped : continues e.notice d = false := by
          rw [Bool.eq_false_iff]
          intro he
          have hsame := (continues_iff.1 hd).trans (continues_iff.1 he).symm
          exact absurd (continues_iff.2 hsame) (by simp [hn])
        simp [hdropped]
    rw [List.find?_filter, hkept]
    rfl

theorem sameSeries_next (r : Recorder) (p : Publication) : p.2.SameSeries (r.next p.1 p.2).notice := by
  rw [next]
  cases hfound : r.published.find? (continues p.2) with
  | none => exact .refl p.2
  | some e =>
    have hcontinues : continues p.2 e = true := List.find?_some hfound
    exact continues_iff.1 hcontinues

theorem recorded_append_singleton (reporter : Reporter) (arrived : List Publication) (p : Publication) :
    recorded reporter (arrived ++ [p]) =
      (recorded reporter arrived).remember ((recorded reporter arrived).next p.1 p.2) := by
  rw [recorded, List.foldl_append]
  rfl

theorem reporter_recorded (reporter : Reporter) (arrived : List Publication) :
    (recorded reporter arrived).reporter = reporter := by
  induction arrived using List.reverseRecOn with
  | nil => rfl
  | append_singleton arrived p ih =>
    rw [recorded_append_singleton]
    exact ih

theorem next_of_find? {before : List Publication} {p : Publication}
    (h : r.published.find? (continues p.2) = Event.ofSeries? r.reporter before) :
    r.next p.1 p.2 = Event.after r.reporter before p := by
  rw [next, h]
  cases hbefore : Event.ofSeries? r.reporter before with
  | none =>
    obtain rfl := Event.ofSeries?_eq_none.1 hbefore
    rfl
  | some e => exact Event.again_ofSeries? hbefore p

/-- The event that is remembered for a series is told by what arrived of the series. -/
theorem find?_recorded (reporter : Reporter) (arrived : List Publication) (n : Notice) :
    (recorded reporter arrived).published.find? (continues n) = Event.ofSeries? reporter (ofSeries n arrived) := by
  induction arrived using List.reverseRecOn generalizing n with
  | nil => rfl
  | append_singleton arrived p ih =>
    have hreporter := reporter_recorded reporter arrived
    have hnext := next_of_find? (r := recorded reporter arrived) (p := p) (by rw [ih, hreporter])
    rw [hreporter] at hnext
    have hsame := sameSeries_next (recorded reporter arrived) p
    rw [recorded_append_singleton, find?_remember]
    by_cases hn : n.SameSeries p.2
    · have hseries : ofSeries n (arrived ++ [p]) = ofSeries p.2 arrived ++ [p] := by
        rw [← ofSeries_congr hn, ofSeries, ofSeries, List.filter_append, List.filter_cons_of_pos (by simpa using hn)]
        rfl
      rw [if_pos (continues_iff.2 (hn.trans hsame)), hseries, Event.ofSeries?_append_singleton, hnext]
    · have hseries : ofSeries n (arrived ++ [p]) = ofSeries n arrived := by
        rw [ofSeries, ofSeries, List.filter_append, List.filter_cons_of_neg (by simpa using hn), List.filter_nil,
          List.append_nil]
      rw [if_neg fun h => hn ((continues_iff.1 h).trans hsame.symm), hseries, ih]

/-- What is sent for a publication is told by what arrived of its series before. -/
theorem next_recorded (reporter : Reporter) (arrived : List Publication) (p : Publication) :
    (recorded reporter arrived).next p.1 p.2 = Event.after reporter (ofSeries p.2 arrived) p := by
  have hreporter := reporter_recorded reporter arrived
  rw [next_of_find? (by rw [find?_recorded, hreporter]), hreporter]

/-! ### Publishing -/

open Dialogue (Responder questions run)

variable (respond : Responder (fun _ : Request => Reply) σ)

/-- A recorder that remembers what arrived does so after one more publication, be it answered or not. -/
theorem run_publish (reporter : Reporter) (arrived : List Publication) (p : Publication) (s : σ) :
    let pass := run respond ((recorded reporter arrived).publish p.1 p.2) s
    pass.1.1 = recorded reporter (if pass.1.2.isOk then arrived ++ [p] else arrived) := by
  intro pass
  simp only [pass, publish, Dialogue.bind_eq, Dialogue.run_andThen]
  cases (run respond (send ((recorded reporter arrived).next p.1 p.2)).run s).1 with
  | ok => exact (recorded_append_singleton reporter arrived p).symm
  | error e => rfl

/-- One request is sent for a publication, if it can be written down. -/
theorem questions_publish (r : Recorder) (p : Publication) (s : σ) :
    questions respond (r.publish p.1 p.2) s = (requestOf (r.next p.1 p.2)).toOption.toList := by
  rw [publish, Dialogue.bind_eq, Dialogue.questions_andThen, send, ClusterStore.questions_submit]
  cases (run respond (Exchange.submit Event.decode (requestOf (r.next p.1 p.2))).run s).1 <;> exact List.append_nil _

/-- Publishes one after another, and tells which arrived. -/
def publishAll (r : Recorder) : List Publication → Exchange (Recorder × List Publication)
  | [] => .done (r, [])
  | p :: rest =>
    .andThen (r.publish p.1 p.2) fun pass =>
      .andThen (publishAll pass.1 rest) fun later =>
        .done (later.1, if pass.2.isOk then p :: later.2 else later.2)

theorem run_publishAll (reporter : Reporter) (before ps : List Publication) (s : σ) :
    let pass := run respond ((recorded reporter before).publishAll ps) s
    List.Sublist pass.1.2 ps ∧ pass.1.1 = recorded reporter (before ++ pass.1.2) := by
  induction ps generalizing before s with
  | nil => exact ⟨.slnil, by rw [publishAll, Dialogue.run_done, List.append_nil]⟩
  | cons p rest ih =>
    have hfirst := run_publish respond reporter before p s
    simp only [publishAll, Dialogue.run_andThen, Dialogue.run_done]
    rw [hfirst]
    cases (run respond ((recorded reporter before).publish p.1 p.2) s).1.2.isOk with
    | true =>
      obtain ⟨hsub, hrecorded⟩ := ih (before ++ [p]) (run respond ((recorded reporter before).publish p.1 p.2) s).2
      refine ⟨hsub.cons_cons p, ?_⟩
      simpa using hrecorded
    | false =>
      obtain ⟨hsub, hrecorded⟩ := ih before (run respond ((recorded reporter before).publish p.1 p.2) s).2
      exact ⟨hsub.cons p, hrecorded⟩

/-- Whoever answers, what is sent for a publication after others is told by those of its series that arrived: the first
is an event of its own, and a later one changes that event and counts all of them. -/
theorem publish_after (reporter : Reporter) (ps : List Publication) (p : Publication) (s : σ) :
    let pass := run respond (publishAll { reporter := reporter } ps) s
    questions respond (pass.1.1.publish p.1 p.2) pass.2 =
      (requestOf (Event.after reporter (ofSeries p.2 pass.1.2) p)).toOption.toList := by
  intro pass
  have hrecorded : pass.1.1 = recorded reporter pass.1.2 := (run_publishAll respond reporter [] ps s).2
  rw [questions_publish, hrecorded, next_recorded]

theorem request_eq_ok {method : Method} {target : String} {body : Option Json} {q : Request}
    (h : Collection.request method target body = .ok q) : q.method = method ∧ q.body = body ∧ q.Addresses target := by
  rw [Collection.request] at h
  split at h
  · rename_i path hpath
    obtain rfl := Except.ok.inj h
    exact ⟨rfl, rfl, hpath, Target.path?_eq_self hpath⟩
  · cases h

/-- The request of an event: to the events of a namespace, or to the first event of a series there. -/
theorem requestOf_eq_ok {e : Event} {q : Request} (h : requestOf e = .ok q) :
    q.method = (if e.count.isSome then .patch else .post) ∧ q.body = some e.toJson ∧
      q.Addresses (collectionPath e.nameSpace ++ if e.count.isSome then "/" ++ e.name else "") := by
  rw [requestOf] at h
  cases hcount : e.count with
  | none =>
    rw [hcount] at h
    obtain ⟨hmethod, hbody, haddress⟩ := request_eq_ok h
    exact ⟨hmethod, hbody, by simpa using haddress⟩
  | some n =>
    rw [hcount] at h
    obtain ⟨hmethod, hbody, haddress⟩ := request_eq_ok h
    exact ⟨hmethod, hbody, by simpa [String.append_assoc] using haddress⟩

end Recorder

namespace Event

open Decoder

theorem ofWritten_none {α : Type} (item : Decoder α) : ofWritten item none = .ok none := rfl

theorem discard_ok {α ε : Type} (a : α) : (discard (.ok a) : Except ε PUnit) = .ok ⟨⟩ := rfl

theorem constant_ofFields {fs : List (String × Option Json)} (hdistinct : (fs.map Prod.fst).Nodup) {name text : String}
    (h : fs.lookup name = some (some (.string text))) : constant (ofFields fs) name text = .ok () := by
  rw [constant, ofFields, filter_written _ (· == name), Table.filter_key_eq (Table.ordered_ofList _),
    Json.find?_ofFields hdistinct, h]
  simp [written, Decoder.text]
  rfl

theorem ofWritten_ofFields {α : Type} (item : Decoder α) (fs : List (String × Option Json)) :
    ofWritten item (some (.ofFields fs)) = some <$> item (.value (.ofFields fs)) := rfl

theorem decodeReference_toJson (r : ObjectReference) : decodeReference (.value r.toJson) = .ok () := by
  simp [decodeReference, ObjectReference.toJson, fields_ofFields, optional_ofFields, List.lookup_cons, ofWritten_none,
    discard_ok]

theorem exists_decode_metadata (name : String) (nameSpace : Option String) :
    ∃ m, ObjectMeta.decode
      (.value (.ofFields [("name", some (.string name)), ("namespace", nameSpace.map .string)])) = .ok m := by
  simp [ObjectMeta.decode, fields_ofFields, optional_ofFields, List.lookup_cons, ofWritten_none]

theorem signed_count {n : Nat} (h : n < Nat.pow 2 31) : signed 32 (.value (.int n)) = .ok n := by
  have hrange : -(Nat.pow 2 (32 - 1) : Int) ≤ n ∧ (n : Int) < Nat.pow 2 (32 - 1) := ⟨by omega, Int.ofNat_lt.2 h⟩
  rw [signed, if_pos hrange]

-- The fields are read one by one here: to evaluate the decoder would be to count down from 2^31.
theorem decodeSeries_count {n : Nat} (h : n < Nat.pow 2 31) :
    decodeSeries (.value (.ofFields [("count", some (.int n))])) = .ok () := by
  have hdistinct : ([("count", some (Json.int n))].map Prod.fst).Nodup := List.nodup_singleton _
  have hwritten : ofWritten (signed 32) (some (.int n)) = some <$> signed 32 (.value (.int n)) := rfl
  have hcount : optional (ofFields [("count", some (.int n))]) "count" (signed 32) = .ok (some (n : Int)) := by
    rw [optional_ofFields hdistinct, List.lookup_cons_self, Option.join_some, hwritten, signed_count h, map_ok]
  have htime : optional (ofFields [("count", some (.int n))]) "lastObservedTime" time = .ok none := by
    rw [optional_ofFields hdistinct]
    rfl
  unfold decodeSeries
  rw [fields_ofFields, ok_bind, hcount, htime]
  rfl

/-- What a recorder sends can be read as an event, as long as the count fits its 32 bits. -/
theorem decode_toJson {e : Event} (h : ∀ n ∈ e.count, n < Nat.pow 2 31) : decode (.value e.toJson) = .ok () := by
  obtain ⟨metadata, hmetadata⟩ := exists_decode_metadata e.name e.notice.reference.nameSpace
  have hreference : ofWritten decodeReference (some e.notice.reference.toJson) = .ok (some ()) := by
    rw [ObjectReference.toJson, ofWritten_ofFields, ← ObjectReference.toJson, decodeReference_toJson]
    rfl
  have hseries : ∃ s, ofWritten decodeSeries (e.count.bind fun n => some (.object [("count", .int n)])) = .ok s := by
    cases hcount : e.count with
    | none => exact ⟨none, rfl⟩
    | some n =>
      refine ⟨some (), ?_⟩
      have hread := congrArg (some <$> ·) (decodeSeries_count (h n hcount))
      exact hread
  obtain ⟨series, hseries⟩ := hseries
  simp [decode, toJson, fields_ofFields, optional_ofFields, List.lookup_cons, constant_ofFields, ofWritten_none,
    ofWritten_ofFields, discard_ok, hreference, hmetadata, hseries]

end Event

end Reconciliation
