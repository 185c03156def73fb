import Mathlib.Algebra.BigOperators.Group.List.Lemmas
import Reconciliation.Metrics
/-!
# Totals of metrics

A labelled family is exported as one count for each combination of labels that occurs. The sum of these counts over
some combinations is how often these occur (`total_eq_countP`), so a total grows with each measurement by one or not
at all, whatever outcomes have been counted before.
-/

namespace Reconciliation

namespace Metrics

/-- The sum of the counts of a labelled family, over the series whose labels have a property. -/
def total (occurrences : List (List String)) (p : List String → Bool) : Nat :=
  ((occurrences.eraseDups.mergeSort precedes).filter p).foldr (fun labels n => occurrences.count labels + n) 0

theorem nodup_eraseDups (occurrences : List (List String)) : occurrences.eraseDups.Nodup := by
  cases occurrences with
  | nil => exact List.nodup_nil
  | cons labels rest =>
    rw [List.eraseDups_cons]
    refine List.nodup_cons.2 ⟨?_, nodup_eraseDups _⟩
    simp [List.mem_eraseDups]
termination_by occurrences.length
decreasing_by exact Nat.lt_succ_of_le (List.length_filter_le _ _)

theorem total_eq_countP (occurrences : List (List String)) (p : List String → Bool) :
    total occurrences p = occurrences.countP p := by
  have hsame : (occurrences.eraseDups.mergeSort precedes).Perm occurrences.dedup := by
    refine (List.mergeSort_perm _ _).trans ?_
    apply (List.perm_ext_iff_of_nodup (nodup_eraseDups occurrences) (List.nodup_dedup occurrences)).2
    intro labels
    rw [List.mem_eraseDups, List.mem_dedup]
  -- The library counts by the equality that is decided for texts in general.
  have hcount (labels : List String) : occurrences.count labels =
      @List.count _ instBEqOfDecidableEq labels occurrences :=
    List.countP_congr fun other _ => by simp
  have hsum := List.sum_map_count_dedup_filter_eq_countP p occurrences
  rw [List.sum_eq_foldr, List.foldr_map] at hsum
  rw [← hsum, total]
  simp only [hcount]
  refine (hsame.filter p).foldr_eq' ?_ 0
  intro labels _ labels' _ n
  exact Nat.add_left_comm _ _ n

/-- How often an operation was counted, over all outcomes. -/
def operationTotal (ms : Metrics) (operation : String) : Nat :=
  total ms.operations fun labels => labels.head? == some operation

/-- How often the end of a pass was counted, over all outcomes. -/
def resultTotal (ms : Metrics) : Nat :=
  total ms.results fun _ => true

/-- The outcomes that were counted for an operation, the earliest first. -/
def outcomes (ms : Metrics) (operation : String) : List String :=
  ms.filterMap fun
    | .operation name outcome => if name = operation then some outcome else none
    | _ => none

theorem operationTotal_eq (ms : Metrics) (operation : String) :
    ms.operationTotal operation = (ms.outcomes operation).length := by
  rw [operationTotal, total_eq_countP, operations, outcomes]
  induction ms with
  | nil => rfl
  | cons m ms ih =>
    cases m with
    | operation name outcome =>
      by_cases h : name = operation <;> simp [h, ih]
    | result outcome => exact ih
    | statusWriteFailure => exact ih
    | delay seconds => exact ih

theorem resultTotal_eq (ms : Metrics) : ms.resultTotal = ms.results.length := by
  rw [resultTotal, total_eq_countP, List.countP_true]

/-! ### Measurements on top of others -/

variable (ms ms' : Metrics)

theorem outcomes_append (operation : String) : outcomes (ms ++ ms') operation =
    ms.outcomes operation ++ ms'.outcomes operation := List.filterMap_append

theorem results_append : results (ms ++ ms') = ms.results ++ ms'.results := List.filterMap_append

theorem delays_append : delays (ms ++ ms') = ms.delays ++ ms'.delays := List.filterMap_append

theorem statusWriteFailures_append : statusWriteFailures (ms ++ ms') =
    ms.statusWriteFailures + ms'.statusWriteFailures := List.count_append

end Metrics

end Reconciliation
