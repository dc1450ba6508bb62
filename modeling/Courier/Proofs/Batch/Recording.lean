import Courier.Proofs.Batch.Tally

/-!
# A tally sums up what was recorded, in whatever order

Outcomes come in from several sends, and how far a tally has come can be asked at any moment. What
it answers hangs on the outcomes recorded so far and on nothing else: asking leaves no trace, and as
long as no index repeats, nor does the order in which the outcomes came.
-/

namespace Courier.Batch

/-- What a tally is used for. -/
inductive TallyUse where
  | record (o : Outcome)
  | recorded
  | finalize

/-- What a tally answers. -/
inductive TallyReply where
  | noted
  | recorded (n : Nat)
  | result (r : BatchResult)

/-- The outcome that is recorded. -/
def TallyUse.outcome? : TallyUse → Option Outcome
  | .record o => some o
  | _ => none

/-- The outcomes recorded, in order. -/
def recordings (uses : List TallyUse) : List Outcome :=
  uses.filterMap TallyUse.outcome?

/-- A result that sums up these outcomes. -/
structure BatchResult.SumsUp (r : BatchResult) (requested : Nat) (os : List Outcome) : Prop where
  requested_eq : r.requested = requested
  /-- Outcomes count by the status that was reported, whatever error stands beside it. -/
  succeeded_eq : r.succeeded = os.countP (·.report.status = .succeeded)
  failed_eq : r.failed = os.countP (·.report.status = .failed)
  cancelled_eq : r.cancelled + os.length = requested
  perm : r.outcomes.Perm os
  sorted : r.outcomes.Pairwise fun a b => a.index ≤ b.index
  /-- Outcomes of one index are in the order they were recorded in. -/
  stable : ∀ i, r.outcomes.filter (·.index = i) = os.filter (·.index = i)

namespace Tally

/-- Uses a tally. -/
def use (t : Tally) : TallyUse → TallyReply × Tally
  | .record o => (.noted, t.record o)
  | .recorded => (.recorded t.recorded, t)
  | .finalize => (.result t.finalize, t)

/-- Uses a tally again and again. -/
def useAll (t : Tally) : List TallyUse → List TallyReply × Tally
  | [] => ([], t)
  | first :: rest =>
    let (reply, t) := t.use first
    let (replies, t) := t.useAll rest
    (reply :: replies, t)

/-! ## Uses -/

/-- A call leaves the tally as recording its outcome, if it has one, does. -/
theorem use_snd (t : Tally) (u : TallyUse) : (t.use u).2 = t.recordAll u.outcome?.toList := by
  cases u <;> rfl

/-- A tally is left as its recordings alone leave it. -/
theorem useAll_snd (t : Tally) (uses : List TallyUse) :
    (t.useAll uses).2 = t.recordAll (recordings uses) := by
  induction uses generalizing t with
  | nil => rfl
  | cons u uses ih =>
    show ((t.use u).2.useAll uses).2 = _
    rw [ih, use_snd, recordAll, recordAll, ← List.foldl_append, recordings, recordings,
      List.filterMap_cons, ← recordAll]
    cases u.outcome? <;> rfl

/-- What it answers is settled by the recordings before. -/
theorem useAll_fst (t : Tally) (front : List TallyUse) (u : TallyUse) (back : List TallyUse) :
    (t.useAll (front ++ u :: back)).1[front.length]? =
      some ((t.recordAll (recordings front)).use u).1 := by
  induction front generalizing t with
  | nil => rfl
  | cons first front ih =>
    show ((t.use first).2.useAll (front ++ u :: back)).1[front.length]? = _
    rw [ih, ← useAll_snd, ← useAll_snd]
    rfl

/-! ## Sums -/

/-- A tally from the start has counted what was recorded. -/
theorem recorded_start (requested : Nat) (os : List Outcome) :
    ((start requested).recordAll os).recorded = os.length := by
  rw [recorded_recordAll]
  exact Nat.zero_add _

/-- As long as no more outcomes are recorded than were asked for, the result sums them up. -/
theorem sumsUp_finalize {requested : Nat} {os : List Outcome} (room : os.length ≤ requested) :
    ((start requested).recordAll os).finalize.SumsUp requested os := by
  have houtcomes : ((start requested).recordAll os).outcomes = os.reverse := by
    rw [outcomes_recordAll]
    exact List.append_nil _
  constructor
  case requested_eq => exact requested_recordAll (start requested) os
  case succeeded_eq => exact (succeeded_recordAll (start requested) os).trans (Nat.zero_add _)
  case failed_eq =>
    refine (failed_recordAll (start requested) os).trans ((Nat.zero_add _).trans ?_)
    exact congrArg (List.countP · os) (funext not_isSuccess_eq)
  case cancelled_eq =>
    show ((start requested).recordAll os).requested - ((start requested).recordAll os).recorded +
      os.length = requested
    rw [recorded_start, requested_recordAll]
    exact Nat.sub_add_cancel room
  case perm =>
    refine (perm_outcomes_finalize _).trans ?_
    rw [houtcomes]
    exact List.reverse_perm os
  case sorted => exact sorted_finalize _
  case stable =>
    intro i
    rw [filter_outcomes_finalize, houtcomes, List.reverse_reverse]

/-- Without repeated indices a result hangs on which outcomes were recorded and not on when. -/
theorem finalize_eq_of_perm (t : Tally) {os os' : List Outcome} (perm : os'.Perm os)
    (distinct : ((t.recordAll os).outcomes.map Outcome.index).Nodup) :
    (t.recordAll os').finalize = (t.recordAll os).finalize := by
  have hperm : (t.recordAll os').outcomes.Perm (t.recordAll os).outcomes := by
    rw [outcomes_recordAll, outcomes_recordAll]
    exact ((List.reverse_perm os').trans (perm.trans (List.reverse_perm os).symm)).append_right _
  have hdistinct : ((t.recordAll os').outcomes.map Outcome.index).Nodup :=
    (hperm.map Outcome.index).nodup_iff.mpr distinct
  have houtcomes : (t.recordAll os').finalize.outcomes = (t.recordAll os).finalize.outcomes := by
    refine List.Perm.eq_of_pairwise ?_ (strictly_sorted_finalize hdistinct)
      (strictly_sorted_finalize distinct)
      ((perm_outcomes_finalize _).trans (hperm.trans (perm_outcomes_finalize _).symm))
    intro a b _ _ hab hba
    exact absurd hba (Nat.lt_asymm hab)
  have hsucceeded : (t.recordAll os').succeeded = (t.recordAll os).succeeded := by
    rw [succeeded_recordAll, succeeded_recordAll, perm.countP_eq]
  have hfailed : (t.recordAll os').failed = (t.recordAll os).failed := by
    rw [failed_recordAll, failed_recordAll, perm.countP_eq]
  have hrequested : (t.recordAll os').requested = (t.recordAll os).requested := by
    rw [requested_recordAll, requested_recordAll]
  rw [finalize, finalize, BatchResult.mk.injEq, recorded, recorded, hsucceeded, hfailed, hrequested]
  exact ⟨rfl, rfl, rfl, rfl, houtcomes⟩

/-! ## Tallies in use -/

/-- A tally for this many messages, used like this, is a sum of its recordings. -/
structure Sums (requested : Nat) (uses : List TallyUse) : Prop where
  /-- Each reply is that of a tally which took the same outcomes and was asked for nothing before. -/
  replies : ∀ front u back, uses = front ++ u :: back →
    ((start requested).useAll uses).1[front.length]? =
      some (((start requested).recordAll (recordings front)).use u).1
  /-- Asked how many outcomes it has, it tells how many were recorded before. -/
  asked : ∀ front back, uses = front ++ .recorded :: back →
    ((start requested).useAll uses).1[front.length]? = some (.recorded (recordings front).length)
  /-- Asked for a result, it sums up those. -/
  finalized : ∀ front back, uses = front ++ .finalize :: back →
    ∃ r, ((start requested).useAll uses).1[front.length]? = some (.result r) ∧
      r.SumsUp requested (recordings front)
  /-- In the end it is as if nothing had been asked at all. -/
  left : ((start requested).useAll uses).2 = (start requested).recordAll (recordings uses)
  /-- Its result sums up the outcomes. -/
  result : ((start requested).useAll uses).2.finalize.SumsUp requested (recordings uses)
  /-- At any moment it has counted all outcomes recorded so far, as successes or as failures. -/
  counted : ∀ front back, uses = front ++ back →
    ((start requested).useAll front).2.recorded = (recordings front).length ∧
      ((start requested).useAll front).2.recorded =
        ((start requested).useAll front).2.finalize.succeeded +
          ((start requested).useAll front).2.finalize.failed
  /-- Indices that do not repeat increase strictly. -/
  increasing : ((recordings uses).map Outcome.index).Nodup →
    ((start requested).useAll uses).2.finalize.outcomes.Pairwise fun a b => a.index < b.index
  /-- Then the same outcomes in another order, with other questions in between, have the same
  result. -/
  unordered : ((recordings uses).map Outcome.index).Nodup →
    ∀ uses', (recordings uses').Perm (recordings uses) →
      ((start requested).useAll uses').2.finalize = ((start requested).useAll uses).2.finalize

/-- Whatever outcomes a tally takes and whatever it is asked in between, it sums up those outcomes,
as long as they are no more than messages. -/
theorem sums_of_room {requested : Nat} {uses : List TallyUse}
    (room : (recordings uses).length ≤ requested) : Sums requested uses := by
  have hleft := useAll_snd (start requested) uses
  -- A tally has its outcomes the other way round.
  have hdistinct : ((recordings uses).map Outcome.index).Nodup →
      (((start requested).recordAll (recordings uses)).outcomes.map Outcome.index).Nodup := by
    intro distinct
    have hperm : ((start requested).recordAll (recordings uses)).outcomes.Perm (recordings uses) := by
      rw [outcomes_recordAll, start, List.append_nil]
      exact List.reverse_perm _
    exact (hperm.map Outcome.index).nodup_iff.mpr distinct
  constructor
  case replies =>
    rintro front u back rfl
    exact useAll_fst (start requested) front u back
  case asked =>
    rintro front back rfl
    rw [useAll_fst, use, recorded_start]
  case finalized =>
    rintro front back rfl
    refine ⟨_, useAll_fst (start requested) front .finalize back, sumsUp_finalize ?_⟩
    -- What was recorded so far is a front part of all that is.
    have hfront : (recordings front).length ≤ (recordings (front ++ .finalize :: back)).length := by
      rw [recordings, recordings, List.filterMap_append, List.length_append]
      exact Nat.le_add_right _ _
    exact Nat.le_trans hfront room
  case left => exact hleft
  case result =>
    rw [hleft]
    exact sumsUp_finalize room
  case counted =>
    rintro front back rfl
    rw [useAll_snd]
    exact ⟨recorded_start requested (recordings front), rfl⟩
  case increasing =>
    intro distinct
    rw [hleft]
    exact strictly_sorted_finalize (hdistinct distinct)
  case unordered =>
    intro distinct uses' perm
    rw [hleft, useAll_snd]
    exact finalize_eq_of_perm _ perm (hdistinct distinct)

/-- Of four messages the third is recorded before the first, which fails without an error, and the
result is asked for in between. -/
theorem sums_of_asked_between :
    let uses : List TallyUse := [.record (.success 3), .finalize, .record ⟨1, ⟨.failed, none⟩⟩,
      .recorded, .finalize, .finalize]
    (recordings uses).length ≤ 4 ∧ Sums 4 uses :=
  ⟨by decide, sums_of_room (by decide)⟩

end Tally

end Courier.Batch
