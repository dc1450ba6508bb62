import Courier.Batch.Outcome

/-!
# Tallies

A tally counts what it records. Its result lists the same outcomes by index, in strictly increasing
order when no index repeats and in the order of recording where one does.
-/

namespace Courier.Batch

namespace Tally

/-- Takes outcomes one after the other. -/
def recordAll (t : Tally) (os : List Outcome) : Tally :=
  os.foldl record t

/-- Outcomes are recorded one after the other. -/
theorem recordAll_concat (t : Tally) (os : List Outcome) (o : Outcome) :
    t.recordAll (os ++ [o]) = (t.recordAll os).record o := by
  rw [recordAll, List.foldl_append]
  rfl

/-- An outcome that is no success is a failure. -/
theorem not_isSuccess_eq (o : Outcome) : (!o.isSuccess) = decide (o.status = .failed) := by
  rw [Outcome.isSuccess]
  cases o.status <;> rfl

/-- What recording an outcome does to the parts of a tally, whatever the status. -/
theorem record_eq (t : Tally) (o : Outcome) : t.record o =
    { requested := t.requested
      succeeded := t.succeeded + if o.isSuccess then 1 else 0
      failed := t.failed + if !o.isSuccess then 1 else 0
      outcomes := o :: t.outcomes } := by
  rw [record, not_isSuccess_eq, Outcome.isSuccess]
  cases o.status <;> rfl

/-- The number of messages asked for stays. -/
@[simp] theorem requested_recordAll (t : Tally) (os : List Outcome) :
    (t.recordAll os).requested = t.requested := by
  induction os generalizing t with
  | nil => rfl
  | cons o os ih =>
    rw [recordAll, List.foldl_cons, ← recordAll, ih, record_eq]

/-- The latest outcome stands first. -/
theorem outcomes_recordAll (t : Tally) (os : List Outcome) :
    (t.recordAll os).outcomes = os.reverse ++ t.outcomes := by
  induction os generalizing t with
  | nil => rfl
  | cons o os ih =>
    rw [recordAll, List.foldl_cons, ← recordAll, ih, List.reverse_cons, List.append_assoc, record_eq]
    rfl

/-- The successes counted so far and those among the new outcomes. -/
theorem succeeded_recordAll (t : Tally) (os : List Outcome) :
    (t.recordAll os).succeeded = t.succeeded + os.countP (·.isSuccess) := by
  induction os generalizing t with
  | nil => rfl
  | cons o os ih =>
    rw [recordAll, List.foldl_cons, ← recordAll, ih, List.countP_cons, record_eq]
    show t.succeeded + _ + os.countP (·.isSuccess) = t.succeeded + (os.countP (·.isSuccess) + _)
    omega

/-- The failures counted so far and those among the new outcomes. -/
theorem failed_recordAll (t : Tally) (os : List Outcome) :
    (t.recordAll os).failed = t.failed + os.countP (!·.isSuccess) := by
  induction os generalizing t with
  | nil => rfl
  | cons o os ih =>
    rw [recordAll, List.foldl_cons, ← recordAll, ih, List.countP_cons, record_eq]
    show t.failed + _ + os.countP (!·.isSuccess) = t.failed + (os.countP (!·.isSuccess) + _)
    omega

/-- Every outcome counts on one side. -/
theorem countP_add_countP_not (os : List Outcome) :
    os.countP (·.isSuccess) + os.countP (!·.isSuccess) = os.length := by
  have := List.length_eq_countP_add_countP (fun o : Outcome => o.isSuccess) (l := os)
  simpa using this.symm

/-- Each outcome is counted once. -/
theorem recorded_recordAll (t : Tally) (os : List Outcome) :
    (t.recordAll os).recorded = t.recorded + os.length := by
  have := countP_add_countP_not os
  rw [recorded, recorded, succeeded_recordAll, failed_recordAll]
  omega

/-! ## Results -/

/-- A result has the outcomes that were recorded, in another order. -/
theorem perm_outcomes_finalize (t : Tally) : t.finalize.outcomes.Perm t.outcomes :=
  (List.mergeSort_perm _ _).trans (List.reverse_perm _)

theorem index_le_trans (a b c : Outcome) (hab : decide (a.index ≤ b.index) = true)
    (hbc : decide (b.index ≤ c.index) = true) : decide (a.index ≤ c.index) = true := by
  rw [decide_eq_true_eq] at hab hbc ⊢
  exact Nat.le_trans hab hbc

theorem index_le_total (a b : Outcome) :
    (decide (a.index ≤ b.index) || decide (b.index ≤ a.index)) = true := by
  rw [Bool.or_eq_true, decide_eq_true_eq, decide_eq_true_eq]
  exact Nat.le_total a.index b.index

/-- The outcomes of a result are sorted. -/
theorem sorted_finalize (t : Tally) :
    t.finalize.outcomes.Pairwise fun a b => a.index ≤ b.index := by
  have hsorted := List.pairwise_mergeSort index_le_trans index_le_total t.outcomes.reverse
  exact hsorted.imp fun h => of_decide_eq_true h

/-- Outcomes of one index keep the order they were recorded in. -/
theorem filter_outcomes_finalize (t : Tally) (i : Nat) :
    t.finalize.outcomes.filter (·.index = i) = t.outcomes.reverse.filter (·.index = i) := by
  have hperm : t.finalize.outcomes.Perm t.outcomes.reverse := List.mergeSort_perm _ _
  have hsame : (t.outcomes.reverse.filter (·.index = i)).Pairwise
      fun a b => decide (a.index ≤ b.index) = true := by
    apply List.pairwise_of_forall_mem_list
    intro a ha b hb
    rw [List.mem_filter, decide_eq_true_eq] at ha hb
    exact decide_eq_true (Nat.le_of_eq (ha.2.trans hb.2.symm))
  -- What is sorted already goes through the sorting as it is.
  have hsublist : (t.outcomes.reverse.filter (·.index = i)).Sublist t.finalize.outcomes :=
    List.sublist_mergeSort index_le_trans index_le_total hsame List.filter_sublist
  have hfilter := hsublist.filter (·.index = i)
  rw [List.filter_filter] at hfilter
  simp only [Bool.and_self] at hfilter
  exact (hfilter.eq_of_length (hperm.filter _).length_eq.symm).symm

/-- Without repeated indices the outcomes are strictly sorted. -/
theorem strictly_sorted_finalize {t : Tally} (h : (t.outcomes.map Outcome.index).Nodup) :
    t.finalize.outcomes.Pairwise fun a b => a.index < b.index := by
  have hnodup : (t.finalize.outcomes.map Outcome.index).Nodup :=
    ((perm_outcomes_finalize t).map Outcome.index).nodup_iff.mpr h
  have hne := List.pairwise_map.mp hnodup
  exact ((sorted_finalize t).and hne).imp fun ⟨hle, hne⟩ => Nat.lt_of_le_of_ne hle hne

end Tally

end Courier.Batch
