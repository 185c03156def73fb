import Mathlib.Data.List.DropRight
import Reconciliation.Proofs.Memory.Run
/-!
# The log of a store in memory

A call is noted in the log if its object has an identity, and this is done before it is known how the call ends
(`Memory.noted`). So a call that fails leaves the store as it is after the note (`respond_of_error`). Since only the
oldest entry is ever given up, and only for a new one in a full log, the log of a store that a run leads to has the
last entries of the calls since it was cleared (`log_run`).
-/

namespace Reconciliation

namespace StoreCall

/-- The object that a call is given, if it is a write. -/
def object? : StoreCall → Option DynamicObject
  | get _ => none
  | create o | update o | updateStatus o | delete o => some o

variable {c : StoreCall} {o : DynamicObject}

theorem touched?_of_identified {k : ObjectKey} (ho : c.object? = some o) (hk : storeKey o = .ok k) :
    c.touched? = some k.path := by
  cases c with
  | get => cases ho
  | create | update | updateStatus | delete =>
    cases ho
    simp only [touched?, path?, hk]

theorem touched?_of_unidentified {e : StoreError} (ho : c.object? = some o) (hk : storeKey o = .error e) :
    c.touched? = none := by
  cases c with
  | get => cases ho
  | create | update | updateStatus | delete =>
    cases ho
    simp only [touched?, path?, hk]

/-- The entry of a call in the log. A call that is given an object without an identity has none. -/
def entry? (c : StoreCall) : Option LoggedCall :=
  c.touched?.map fun path => ⟨c.kind, path⟩

end StoreCall

namespace Memory

variable {m : Memory} {c : StoreCall} {k : ObjectKey} {o : DynamicObject}

/-- The store after a call was noted in the log. -/
def noted (m : Memory) (c : StoreCall) : Memory :=
  match c.touched? with
  | none => m
  | some path => m.record c.kind path

theorem noted_identified (ho : c.object? = some o) (hk : storeKey o = .ok k) (m : Memory) :
    m.noted c = m.record c.kind k.path := by
  rw [noted, StoreCall.touched?_of_identified ho hk]

theorem noted_unidentified {e : StoreError} (ho : c.object? = some o) (hk : storeKey o = .error e) (m : Memory) :
    m.noted c = m := by
  rw [noted, StoreCall.touched?_of_unidentified ho hk]

/-! ### What is noted -/

/-- An overwriting that fails changes nothing, and none changes the log. -/
theorem overwrite_log (k : ObjectKey) (o : DynamicObject)
    (write : DynamicObject → DynamicObject → String → DynamicObject) (m : Memory) :
    (overwrite k o write m).2 = m ∨
      (∃ w, (overwrite k o write m).1 = .ok w) ∧ (overwrite k o write m).2.log = m.log := by
  rcases overwrite_cases k o write m with ⟨e, h⟩ | ⟨stored, -, h⟩
  · rw [h]
    exact .inl rfl
  · rw [h]
    exact .inr ⟨⟨_, rfl⟩, rfl⟩

/-- A call is noted first. What it does beyond that leaves the log alone, and is done only if it succeeds. -/
theorem respond_noted (c : StoreCall) (m : Memory) :
    (respond c m).2 = m.noted c ∨
      c.error? (respond c m).1 = none ∧ (respond c m).2.log = (m.noted c).log := by
  cases c with
  | get k =>
    left
    cases hs : m.stored k with
    | none =>
      rw [respond, get_absent hs]
      rfl
    | some stored =>
      rw [respond, get_present hs]
      rfl
  | create o =>
    cases hk : storeKey o with
    | error e =>
      rw [noted_unidentified rfl hk, respond, create_invalid hk]
      exact .inl rfl
    | ok k =>
      rw [noted_identified rfl hk, respond]
      cases hs : m.stored k with
      | none =>
        rw [create_absent hk hs]
        exact .inr ⟨rfl, rfl⟩
      | some stored =>
        rw [create_present hk hs]
        exact .inl rfl
  | update o =>
    cases hk : storeKey o with
    | error e =>
      rw [noted_unidentified rfl hk, respond, update_invalid hk]
      exact .inl rfl
    | ok k =>
      rw [noted_identified rfl hk, respond, update_eq hk]
      refine (overwrite_log k o updatedObject (m.record .update k.path)).imp_right ?_
      rintro ⟨⟨w, hw⟩, hlog⟩
      rw [hw]
      exact ⟨rfl, hlog⟩
  | updateStatus o =>
    cases hk : storeKey o with
    | error e =>
      rw [noted_unidentified rfl hk, respond, updateStatus_invalid hk]
      exact .inl rfl
    | ok k =>
      rw [noted_identified rfl hk, respond]
      cases hr : m.rejectsStatus with
      | true =>
        rw [updateStatus_rejected hk hr]
        exact .inl rfl
      | false =>
        rw [updateStatus_eq hk hr]
        refine (overwrite_log k o restatedObject (m.record .updateStatus k.path)).imp_right ?_
        rintro ⟨⟨w, hw⟩, hlog⟩
        rw [hw]
        exact ⟨rfl, hlog⟩
  | delete o =>
    cases hk : storeKey o with
    | error e =>
      rw [noted_unidentified rfl hk, respond, delete_invalid hk]
      exact .inl rfl
    | ok k =>
      rw [noted_identified rfl hk, respond]
      cases hs : m.stored k with
      | none =>
        rw [delete_absent hk hs]
        exact .inl rfl
      | some stored =>
        rw [delete_present hk hs]
        exact .inr ⟨rfl, rfl⟩

/-- Every call is noted, and nothing else is. -/
theorem log_respond (c : StoreCall) (m : Memory) : (respond c m).2.log = (m.noted c).log := by
  rcases respond_noted c m with h | ⟨-, h⟩
  · rw [h]
  · exact h

/-- A call that fails leaves the store as it is after the note. -/
theorem respond_of_error (h : c.error? (respond c m).1 ≠ none) : (respond c m).2 = m.noted c :=
  (respond_noted c m).resolve_right fun hok => h hok.1

/-! ### What is kept -/

namespace Action

def clears : Action → Bool
  | .clearLog => true
  | .call _ | .rejectStatus _ => false

def entry? : Action → Option LoggedCall
  | .call c => c.entry?
  | .rejectStatus _ | .clearLog => none

end Action

/-- The entries of the calls of a run since the log was last cleared, the oldest first. -/
def entriesSinceClear (actions : List Action) : List LoggedCall :=
  (actions.rtakeWhile fun a => !a.clears).filterMap Action.entry?

variable {a : Action}

theorem entriesSinceClear_clear (ha : a.clears) (actions : List Action) : entriesSinceClear (actions ++ [a]) = [] := by
  rw [entriesSinceClear, List.rtakeWhile_concat, if_neg (by simp [ha]), List.filterMap_nil]

theorem entriesSinceClear_concat (ha : a.clears = false) (actions : List Action) :
    entriesSinceClear (actions ++ [a]) = entriesSinceClear actions ++ a.entry?.toList := by
  rw [entriesSinceClear, List.rtakeWhile_concat, if_pos (by simp [ha]), List.filterMap_append, entriesSinceClear]
  cases h : a.entry? <;> simp [h]

theorem length_rtake {α : Type} (l : List α) (n : Nat) : (l.rtake n).length = min l.length n := by
  rw [List.rtake, List.length_drop]
  omega

theorem rtake_of_length_le {α : Type} {l : List α} {n : Nat} (h : l.length ≤ n) : l.rtake n = l := by
  rw [List.rtake, Nat.sub_eq_zero_of_le h, List.drop_zero]

/-- What was given up before would be given up now. -/
theorem rtake_rtake_append {α : Type} (l l' : List α) (n : Nat) :
    (l.rtake n ++ l').rtake n = (l ++ l').rtake n := by
  simp only [List.rtake_eq_reverse_take_reverse, List.reverse_append, List.reverse_reverse, List.take_append,
    List.take_take]
  rw [Nat.min_eq_left (Nat.sub_le n _)]

theorem log_record (h : m.log.length ≤ maxLogged) (kind : CallKind) (path : String) :
    (m.record kind path).log = (m.log ++ [LoggedCall.mk kind path]).rtake maxLogged := by
  rw [record, List.rtake, List.length_append, List.length_singleton]
  by_cases hfull : m.log.length = maxLogged
  · have hone : m.log.length + 1 - maxLogged = 1 := by omega
    have hpos : 1 ≤ m.log.length := by
      rw [hfull]
      decide
    rw [if_pos hfull, hone, List.drop_append_of_le_length hpos]
  · have hnone : m.log.length + 1 - maxLogged = 0 := by omega
    rw [if_neg hfull, hnone, List.drop_zero]

theorem log_noted (h : m.log.length ≤ maxLogged) (c : StoreCall) :
    (m.noted c).log = (m.log ++ c.entry?.toList).rtake maxLogged := by
  rw [noted, StoreCall.entry?]
  cases c.touched? with
  | none => rw [Option.map_none, Option.toList_none, List.append_nil, rtake_of_length_le h]
  | some path => exact log_record h c.kind path

theorem log_perform (h : m.log.length ≤ maxLogged) (ha : a.clears = false) :
    (m.perform a).log = (m.log ++ a.entry?.toList).rtake maxLogged := by
  cases a with
  | call c =>
    rw [perform, log_respond]
    exact log_noted h c
  | rejectStatus =>
    rw [Action.entry?, Option.toList_none, List.append_nil, rtake_of_length_le h]
    rfl
  | clearLog => cases ha

/-- The log of a store that starts empty has the last entries of the calls since it was cleared. -/
theorem log_run (actions : List Action) :
    (run {} actions).log = (entriesSinceClear actions).rtake maxLogged := by
  -- The run grows at its end, where the next entry comes in. That the log fits its bound before it does is known
  -- from the equation itself.
  induction actions using List.reverseRecOn with
  | nil => rfl
  | append_singleton actions a ih =>
    rw [run_append, run_cons, run_nil]
    cases ha : a.clears with
    | true =>
      rw [entriesSinceClear_clear ha, List.rtake_nil]
      cases a with
      | clearLog => rfl
      | call | rejectStatus => cases ha
    | false =>
      have hbound : (run {} actions).log.length ≤ maxLogged := by
        rw [ih, length_rtake]
        exact min_le_right _ _
      rw [log_perform hbound ha, entriesSinceClear_concat ha, ih, rtake_rtake_append]

theorem Reachable.length_log (h : m.Reachable) : m.log.length ≤ maxLogged := by
  obtain ⟨actions, rfl⟩ := h
  rw [log_run, length_rtake]
  exact min_le_right _ _

end Memory

end Reconciliation
