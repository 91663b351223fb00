import Libvalkey.Cluster.Addressing
import Libvalkey.Cluster.ErrorReport
import Libvalkey.Cluster.NoDangling

/-! # Retries

The executor counts its retries, and nothing that it calls changes the count. Each
label leaves at most a number of steps until the next retry, and at most one more
append of the command. -/

namespace Libvalkey

open Checked

namespace ValkeyClusterContext

/-- `retry_count` and `max_retry_count` have these values. -/
structure Counts (cc : ValkeyClusterContext) (count limit : Int) : Prop where
  count : cc.retryCount = count
  limit : cc.maxRetryCount = limit

/-- The count of a client between two calls. -/
structure Tracks (cc : ValkeyClusterContext) (limit : Int) : Prop where
  nonnegative : 0 ≤ cc.retryCount
  bounded : cc.retryCount ≤ limit
  limit : cc.maxRetryCount = limit

variable {cc next : ValkeyClusterContext} {count limit : Int}

theorem Tracks.of_counts (tracks : cc.Tracks limit) (counts : next.Counts cc.retryCount limit) :
    next.Tracks limit where
  nonnegative := counts.count ▸ tracks.nonnegative
  bounded := counts.count ▸ tracks.bounded
  limit := counts.limit

theorem Tracks.counts (tracks : cc.Tracks limit) : cc.Counts cc.retryCount limit :=
  ⟨rfl, tracks.limit⟩

namespace Counts

theorem of_same (counts : cc.Counts count limit) (sameCount : next.retryCount = cc.retryCount)
    (sameLimit : next.maxRetryCount = cc.maxRetryCount) : next.Counts count limit where
  count := sameCount.trans counts.count
  limit := sameLimit.trans counts.limit

theorem setContextError (counts : cc.Counts count limit) (con : ValkeyContext) :
    (cc.setContextError con).Counts count limit := by
  unfold ValkeyClusterContext.setContextError
  split
  · exact counts.of_same rfl rfl
  · exact counts.of_same rfl rfl

theorem exchange (counts : cc.Counts count limit) (before after : ValkeyContext)
    (reader : Request) (answer : Option Answer) :
    (cc.exchange before after reader answer).Counts count limit := by
  cases answer with
  | none => exact counts.of_same rfl rfl
  | some answer => exact counts.of_same rfl rfl

theorem of_talked (counts : cc.Counts count limit) (talked : Talked cc next) :
    next.Counts count limit := by
  cases talked
  exact counts.of_same rfl rfl

/-- Storing a connection keeps the count. -/
def Kept (store : ValkeyClusterContext → ValkeyContext → ValkeyClusterContext) : Prop :=
  ∀ cc con, (store cc con).retryCount = cc.retryCount ∧
    (store cc con).maxRetryCount = cc.maxRetryCount

theorem of_obtains {network : Nat → Outcome} {port : Int} {held con : Option ValkeyContext}
    {store : ValkeyClusterContext → ValkeyContext → ValkeyClusterContext}
    (counts : cc.Counts count limit) (kept : Kept store)
    (obtains : Obtains network cc port held store (con, next)) : next.Counts count limit := by
  cases obtains with
  | unreachable without talked => exact counts.of_talked talked
  | existing known alive => exact counts
  | reconnected known lost made established =>
      exact (counts.of_talked established.talked).of_same rfl rfl
  | @new con middle without established =>
      have same := kept middle con
      exact (counts.of_talked established.talked).of_same same.1 same.2

end Counts

end ValkeyClusterContext

open ValkeyClusterContext

section Client

variable (network : Nat → Outcome) (order : IterationOrder)
variable {cc : ValkeyClusterContext} {count limit : Int}

theorem counts_getContext (counts : cc.Counts count limit) (node : Nat) :
    Ensures (valkeyClusterGetValkeyContext network cc node) anyFault fun result =>
      result.2.Counts count limit := by
  apply (ensures_obtains network cc fun _ => trivial).mono
  intro ⟨con, next⟩ ⟨known, _, _, obtains⟩
  have kept : Counts.Kept fun cc c => cc.setCon known.id (some c) := fun _ _ => ⟨rfl, rfl⟩
  exact counts.of_obtains kept obtains

theorem counts_table (counts : cc.Counts count limit) (slot : Nat) :
    (node_get_by_table cc slot).2.Counts count limit := by
  rcases node_get_by_table_found cc slot with ⟨node, found⟩ | ⟨str, missing⟩
  · rw [found]
    exact counts
  · rw [missing]
    exact counts.of_same rfl rfl

theorem counts_sendCommand (counts : cc.Counts count limit) (c : Nat) :
    Ensures (clusterUpdateRouteSendCommand network cc c) anyFault fun result =>
      result.2.Counts count limit := by
  apply (ensures_context fun _ => trivial).bind
  intro con _
  dsimp only
  rcases valkeyBufferWrite (network cc.outcomes)
      (valkeyAppendCommand con .route) with ⟨status, next⟩
  have sent : ((cc.advance.putContext next).recordWrites
      (valkeyAppendCommand con .route).flushed).Counts count limit := counts.of_same rfl rfl
  cases status with
  | ok => exact sent
  | err => exact sent.setContextError next

theorem counts_handleReply (counts : cc.Counts count limit) (c : Nat) :
    Ensures (clusterUpdateRouteHandleReply network order cc c) anyFault fun result =>
      result.2.Counts count limit := by
  apply (ensures_context fun _ => trivial).bind
  intro con _
  rcases valkeyGetReply (network cc.outcomes) con with ⟨answer, next⟩
  have read := counts.exchange con next .route answer
  cases answer with
  | none => exact read.setContextError next
  | some answer =>
      dsimp only
      split
      · exact read.of_same rfl rfl
      split
      · exact read.of_same rfl rfl
      · unfold updateNodesAndSlotmap
        rw [if_neg (by simp)]
        split
        · exact read.of_same rfl rfl
        · exact read.of_same rfl rfl

theorem counts_queryRoute (counts : cc.Counts count limit) (c : Nat) :
    Ensures (queryRoute network order cc c) anyFault fun result =>
      result.2.Counts count limit := by
  apply (counts_sendCommand network counts c).bind
  intro ⟨status, next⟩ sent
  cases status with
  | err => exact sent
  | ok => exact counts_handleReply network order sent c

theorem counts_updateSlotmapFrom (counts : cc.Counts count limit) (nodes : List Nat) :
    Ensures (updateSlotmapFrom network order cc nodes) anyFault fun result =>
      result.2.Counts count limit := by
  induction nodes generalizing cc with
  | nil => exact counts
  | cons node rest induction =>
      apply (counts_getContext network counts node).bind
      intro ⟨con, next⟩ connected
      cases con with
      | none => exact induction connected
      | some c =>
          apply (counts_queryRoute network order connected c.id).bind
          intro ⟨status, last⟩ queried
          cases status with
          | ok => exact queried.of_same rfl rfl
          | err => exact induction (queried.of_same rfl rfl)

theorem counts_updateSlotmap (counts : cc.Counts count limit) :
    Ensures (valkeyClusterUpdateSlotmap network order cc) anyFault fun result =>
      result.2.Counts count limit :=
  counts_updateSlotmapFrom network order counts _

theorem counts_redirect (counts : cc.Counts count limit) (c : Nat) (str : Bytes) :
    Ensures (getNodeFromRedirectReply cc c str) anyFault fun result =>
      result.2.Counts count limit := by
  apply (ensures_context fun _ => trivial).bind
  intro con _
  split
  · exact counts.of_same rfl rfl
  split
  · exact counts
  · exact counts.of_same rfl rfl

theorem counts_updateSlot (counts : cc.Counts count limit) (slot : Int) (node : Nat) :
    Ensures (updateSlot cc slot node) anyFault fun next => next.Counts count limit := by
  unfold updateSlot
  split
  · unfold setTable
    split
    · trivial
    split
    · exact counts.of_same rfl rfl
    · trivial
  · exact counts

theorem counts_scheduledUpdate (counts : cc.Counts count limit) (updating : Option Nat) (c : Nat) :
    Ensures (scheduledUpdate network cc updating c) anyFault fun result =>
      result.2.Counts count limit := by
  unfold scheduledUpdate
  split
  · exact counts_sendCommand network counts c
  · exact counts

theorem counts_scheduleUpdate (counts : cc.Counts count limit) :
    (scheduleUpdate cc).Counts count limit := by
  unfold scheduleUpdate
  split
  · exact counts.of_same rfl rfl
  · exact counts

end Client

/-! ## The executor -/

namespace Label

/-- The steps that the executor takes from here at most, without another retry. -/
def steps : Label → Nat
  | .retry | .moved _ | .ask _ => 8
  | .updateUnserved | .movedUpdate _ => 7
  | .connect _ | .movedConnect _ => 6
  | .updateUnreachable | .asking _ => 5
  | .movedRetry _ => 4
  | .replied _ => 3
  | .error => 2
  | .done => 1
  | .returned => 0

/-- How often the command is appended here. -/
def appends : Label → Nat
  | .movedRetry _ => 1
  | _ => 0

/-- How often the command is appended from here on, without another retry. -/
def appendsLeft : Label → Nat
  | .replied _ | .error | .done | .returned => 0
  | _ => 1

end Label

/-- A step without a retry. -/
structure Advances (label : Label) (count limit : Int) (next : ExecutorState) : Prop where
  counts : next.2.cc.Counts count limit
  steps : next.1.steps < label.steps
  appends : next.1.appendsLeft + label.appends ≤ label.appendsLeft

section Executor

variable (network : Nat → Outcome) (order : IterationOrder) (command : Command)
variable {s : Executor} {count limit : Int}

/-- The label that a connection leads to, or `error`. -/
theorem advances_useConnection {label : Label} {target : Nat → Label} (con : Option ValkeyContext)
    (counts : s.cc.Counts count limit) (failed : 2 < label.steps)
    (unsent : label.appends ≤ label.appendsLeft)
    (steps : ∀ c, (target c).steps < label.steps)
    (appends : ∀ c, (target c).appendsLeft + label.appends ≤ label.appendsLeft) :
    Advances label count limit (useConnection s con target) := by
  have error : Label.error.appendsLeft + label.appends ≤ label.appendsLeft :=
    (Nat.zero_add _).symm ▸ unsent
  cases con with
  | none => exact ⟨counts, failed, error⟩
  | some c =>
      unfold useConnection
      dsimp only
      split
      · exact ⟨counts.setContextError c, failed, error⟩
      · exact ⟨counts, steps c.id, appends c.id⟩

theorem advances_retryStep (counts : s.cc.Counts count limit) :
    Ensures (retryStep command s) anyFault (Advances .retry count limit) := by
  have looked := counts_table counts command.slot
  unfold retryStep
  split
  · rename_i found
    rw [found] at looked
    exact ⟨looked, by simp [Label.steps], Nat.le_refl _⟩
  · rename_i found
    rw [found] at looked
    exact ⟨looked, by simp [Label.steps], Nat.le_refl _⟩

theorem advances_updateUnservedStep (counts : s.cc.Counts count limit) :
    Ensures (updateUnservedStep network order command s) anyFault
      (Advances .updateUnserved count limit) := by
  apply (counts_updateSlotmap network order counts).bind
  intro ⟨status, next⟩ updated
  cases status with
  | err => exact ⟨updated, by simp [Label.steps], Nat.zero_le _⟩
  | ok =>
      have looked := counts_table updated command.slot
      dsimp only
      split
      · rename_i found
        rw [found] at looked
        exact ⟨looked, by simp [Label.steps], Nat.zero_le _⟩
      · rename_i found
        rw [found] at looked
        exact ⟨looked, by simp [Label.steps], Nat.le_refl _⟩

theorem advances_connectStep (counts : s.cc.Counts count limit) (node : Nat) :
    Ensures (connectStep network s node) anyFault (Advances (.connect node) count limit) := by
  apply (counts_getContext network counts node).bind
  intro ⟨con, next⟩ connected
  cases con with
  | none => exact ⟨connected, by simp [Label.steps], Nat.le_refl _⟩
  | some c =>
      dsimp only
      split
      · exact ⟨connected, by simp [Label.steps], Nat.le_refl _⟩
      · exact ⟨connected, by simp [Label.steps], Nat.le_refl _⟩

theorem advances_updateUnreachableStep (counts : s.cc.Counts count limit) :
    Ensures (updateUnreachableStep network order command s) anyFault
      (Advances .updateUnreachable count limit) := by
  apply (counts_updateSlotmap network order counts).bind
  intro ⟨status, next⟩ updated
  cases status with
  | err => exact ⟨updated, by simp [Label.steps], Nat.zero_le _⟩
  | ok =>
      have looked := counts_table updated command.slot
      dsimp only
      split
      · rename_i found
        rw [found] at looked
        exact ⟨looked, by simp [Label.steps], Nat.zero_le _⟩
      · rename_i found
        rw [found] at looked
        apply (counts_getContext network looked _).bind
        intro ⟨con, last⟩ connected
        exact advances_useConnection con connected (by simp [Label.steps]) (Nat.zero_le _)
          (fun _ => by simp [Label.steps]) fun _ => Nat.le_refl _

theorem advances_movedRetryStep (counts : s.cc.Counts count limit) (c : Nat) :
    Ensures (movedRetryStep network command s c) anyFault
      (Advances (.movedRetry c) count limit) := by
  apply (ensures_context fun _ => trivial).bind
  intro con _
  have appended : (s.cc.putContext (valkeyAppendCommand con (.command command.cmd))).Counts count
    limit := counts.of_same rfl rfl
  apply (counts_scheduledUpdate network appended s.updating c).bind
  intro ⟨status, next⟩ scheduled
  apply (ensures_context fun _ => trivial).bind
  intro last _
  rcases valkeyGetReply (network next.outcomes) last with ⟨answer, after⟩
  have read := scheduled.exchange last after (.command command.cmd) answer
  cases answer with
  | some answer => exact ⟨read, by simp [Label.steps], Nat.le_refl _⟩
  | none =>
      exact ⟨counts_scheduleUpdate (read.setContextError after), by simp [Label.steps],
        Nat.le_refl _⟩

theorem advances_movedStep (counts : s.cc.Counts count limit) (c : Nat) :
    Ensures (movedStep network s c) anyFault (Advances (.moved c) count limit) := by
  apply (counts_redirect counts c s.text).bind
  intro ⟨target, next⟩ redirected
  cases target with
  | none => exact ⟨redirected, by simp [Label.steps], Nat.zero_le _⟩
  | some target =>
      apply (counts_updateSlot redirected target.2 target.1).bind
      intro updated counts
      dsimp only
      split
      · exact ⟨counts, by simp [Label.steps], Nat.le_refl _⟩
      · apply (counts_sendCommand network counts c).bind
        intro ⟨status, last⟩ sent
        cases status with
        | ok => exact ⟨sent, by simp [Label.steps], Nat.le_refl _⟩
        | err => exact ⟨sent, by simp [Label.steps], Nat.le_refl _⟩

theorem advances_movedUpdateStep (counts : s.cc.Counts count limit) (node : Nat) :
    Ensures (movedUpdateStep network order s node) anyFault
      (Advances (.movedUpdate node) count limit) := by
  apply (counts_updateSlotmap network order counts).bind
  intro ⟨status, next⟩ updated
  cases status with
  | ok => exact ⟨updated.of_same rfl rfl, by simp [Label.steps], Nat.le_refl _⟩
  | err => exact ⟨updated, by simp [Label.steps], Nat.zero_le _⟩

theorem advances_movedConnectStep (counts : s.cc.Counts count limit) (node : Nat) :
    Ensures (movedConnectStep network s node) anyFault
      (Advances (.movedConnect node) count limit) := by
  apply (counts_getContext network counts node).bind
  intro ⟨con, next⟩ connected
  exact advances_useConnection con connected (by simp [Label.steps]) (Nat.zero_le _)
    (fun _ => by simp [Label.steps]) fun _ => Nat.le_refl _

theorem advances_askStep (counts : s.cc.Counts count limit) (c : Nat) :
    Ensures (askStep network s c) anyFault (Advances (.ask c) count limit) := by
  apply (counts_redirect counts c s.text).bind
  intro ⟨target, next⟩ redirected
  cases target with
  | none => exact ⟨redirected, by simp [Label.steps], Nat.zero_le _⟩
  | some target =>
      apply (counts_getContext network redirected target.1).bind
      intro ⟨con, last⟩ connected
      exact advances_useConnection con connected (by simp [Label.steps]) (Nat.zero_le _)
        (fun _ => by simp [Label.steps]) fun _ => Nat.le_refl _

theorem advances_askingStep (counts : s.cc.Counts count limit) (c : Nat) :
    Ensures (askingStep network s c) anyFault (Advances (.asking c) count limit) := by
  apply (ensures_context fun _ => trivial).bind
  intro con _
  unfold valkeyCommand
  dsimp only
  rcases valkeyGetReply (network s.cc.outcomes) (valkeyAppendCommand con .asking) with
    ⟨answer, next⟩
  cases answer with
  | none =>
      have asked : ((s.cc.advance.recordWrites
        (valkeyAppendCommand con .asking).flushedToRead).putContext next).Counts count limit :=
        counts.of_same rfl rfl
      exact ⟨asked.setContextError next, by simp [Label.steps], Nat.zero_le _⟩
  | some answer => exact ⟨counts.of_same rfl rfl, by simp [Label.steps], Nat.le_refl _⟩

theorem advances_doneStep (counts : s.cc.Counts count limit) :
    Ensures (doneStep network order s) anyFault (Advances .done count limit) := by
  unfold doneStep
  split
  · exact ⟨counts, by simp [Label.steps], Nat.le_refl _⟩
  · rename_i c _
    apply (counts_handleReply network order counts c).bind
    intro ⟨status, next⟩ handled
    cases status with
    | ok => exact ⟨handled, by simp [Label.steps], Nat.le_refl _⟩
    | err =>
        have cleared : next.clearError.Counts count limit := handled.of_same rfl rfl
        apply (counts_updateSlotmap network order cleared).bind
        intro ⟨status, last⟩ updated
        cases status with
        | ok => exact ⟨updated, by simp [Label.steps], Nat.le_refl _⟩
        | err => exact ⟨updated, by simp [Label.steps], Nat.le_refl _⟩

/-- A retry is counted before the executor goes on. -/
theorem repliedStep_retries (s : Executor) (c : Nat) :
    Ensures (repliedStep s c) anyFault fun next =>
      next.1 = .done ∧ next.2.cc = s.cc ∨
      next.2.cc.Counts (s.cc.retryCount + 1) s.cc.maxRetryCount ∧
        if s.cc.retryCount < s.cc.maxRetryCount then next.1.steps ≤ 8 ∧ next.1.appendsLeft ≤ 1
        else next.1 = .error := by
  unfold repliedStep
  split
  · exact Or.inl ⟨rfl, rfl⟩
  dsimp only
  split
  · exact Or.inl ⟨rfl, rfl⟩
  split
  · rename_i exceeded
    refine Or.inr ⟨⟨rfl, rfl⟩, ?_⟩
    rw [if_neg (by omega)]
  · rename_i within
    have counted : s.cc.retryCount < s.cc.maxRetryCount := by omega
    split
    all_goals
      refine Or.inr ⟨⟨rfl, rfl⟩, ?_⟩
      rw [if_pos counted]
      exact ⟨Nat.le_refl _, Nat.le_refl _⟩

/-- The retries that a client has left. -/
def ValkeyClusterContext.retriesLeft (cc : ValkeyClusterContext) : Nat :=
  (cc.maxRetryCount - cc.retryCount).toNat

/-- The steps that a call takes at most. -/
def stepsLeft (state : ExecutorState) : Nat := 6 * state.2.cc.retriesLeft + state.1.steps

/-- How often a call appends its command at most. -/
def appendsLeft (state : ExecutorState) : Nat :=
  state.2.cc.retriesLeft + state.1.appendsLeft

/-- The count of retries in a call. It passes its limit only to end the call. -/
structure Counted (limit : Int) (state : ExecutorState) : Prop where
  nonnegative : 0 ≤ state.2.cc.retryCount
  limited : state.2.cc.maxRetryCount = limit
  bounded : state.2.cc.retryCount ≤ limit ∨
    state.2.cc.retryCount = limit + 1 ∧ state.1.steps ≤ Label.error.steps

/-- What one step of a call that has not returned does to the bounds. -/
structure Progress (limit : Int) (state next : ExecutorState) : Prop where
  counted : Counted limit next
  steps : stepsLeft next < stepsLeft state
  appends : appendsLeft next + state.1.appends ≤ appendsLeft state

variable {network order command}

theorem Advances.progress {label : Label} {next : ExecutorState}
    (counted : Counted limit (label, s))
    (advances : Advances label s.cc.retryCount limit next) : Progress limit (label, s) next := by
  have same : next.2.cc.retriesLeft = s.cc.retriesLeft := by
    unfold ValkeyClusterContext.retriesLeft
    rw [advances.counts.count, advances.counts.limit, ← counted.limited]
  have steps := advances.steps
  have appends := advances.appends
  refine ⟨⟨?_, advances.counts.limit, ?_⟩, ?_, ?_⟩
  · rw [advances.counts.count]
    exact counted.nonnegative
  · rw [advances.counts.count]
    rcases counted.bounded with within | ⟨exceeded, late⟩
    · exact Or.inl within
    · exact Or.inr ⟨exceeded, Nat.le_trans (Nat.le_of_lt steps) late⟩
  · unfold stepsLeft
    rw [same]
    exact Nat.add_lt_add_left steps _
  · unfold appendsLeft
    rw [same, Nat.add_assoc]
    exact Nat.add_le_add_left appends _

theorem progress_repliedStep {c : Nat} (counted : Counted limit (.replied c, s)) :
    Ensures (repliedStep s c) anyFault (Progress limit (.replied c, s)) := by
  have within : s.cc.retryCount ≤ limit := by
    rcases counted.bounded with within | ⟨_, late⟩
    · exact within
    · exact absurd late (by simp [Label.steps])
  have nonnegative : 0 ≤ s.cc.retryCount := counted.nonnegative
  have limited : s.cc.maxRetryCount = limit := counted.limited
  apply (repliedStep_retries s c).mono
  intro ⟨label, next⟩ outcome
  rcases outcome with ⟨done, same⟩ | ⟨counts, goes⟩
  · dsimp only at done same
    subst done
    refine ⟨⟨same ▸ nonnegative, same ▸ limited, Or.inl (same ▸ within)⟩, ?_, ?_⟩
    · simp [stepsLeft, same, Label.steps]
    · simp [appendsLeft, same, Label.appends, Label.appendsLeft]
  have count : next.cc.retryCount = s.cc.retryCount + 1 := counts.count
  have same : next.cc.maxRetryCount = limit := counts.limit.trans limited
  have fewer : next.cc.retriesLeft = s.cc.retriesLeft - 1 := by
    unfold ValkeyClusterContext.retriesLeft
    rw [count, same, limited]
    omega
  split at goes
  · rename_i more
    have left : 1 ≤ s.cc.retriesLeft := by
      unfold ValkeyClusterContext.retriesLeft
      omega
    obtain ⟨steps, appends⟩ := goes
    dsimp only at steps appends
    refine ⟨⟨?_, same, Or.inl ?_⟩, ?_, ?_⟩
    · change 0 ≤ next.cc.retryCount
      omega
    · change next.cc.retryCount ≤ limit
      omega
    · have replied : (Label.replied c).steps = 3 := rfl
      simp only [stepsLeft, fewer, replied]
      omega
    · have replied : (Label.replied c).appendsLeft = 0 := rfl
      simp only [appendsLeft, fewer, replied, Label.appends]
      omega
  · rename_i noMore
    dsimp only at goes
    subst goes
    refine ⟨⟨?_, same, Or.inr ⟨?_, Nat.le_refl _⟩⟩, ?_, ?_⟩
    · change 0 ≤ next.cc.retryCount
      omega
    · change next.cc.retryCount = limit + 1
      omega
    · simp only [stepsLeft, fewer, Label.steps]
      omega
    · simp only [appendsLeft, fewer, Label.appends, Label.appendsLeft]
      omega

variable (network order command)

/-- One step of a call that has not returned. -/
theorem progress_executorStep {state : ExecutorState} (counted : Counted limit state)
    (running : state.1 ≠ .returned) :
    Ensures (executorStep network order command state) anyFault (Progress limit state) := by
  obtain ⟨label, s⟩ := state
  have counts : s.cc.Counts s.cc.retryCount limit := ⟨rfl, counted.limited⟩
  have advances {computation : Except Fault ExecutorState}
      (advances : Ensures computation anyFault (Advances label s.cc.retryCount limit)) :
      Ensures computation anyFault (Progress limit (label, s)) :=
    advances.mono fun _ advances => advances.progress counted
  cases label with
  | retry => exact advances (advances_retryStep command counts)
  | updateUnserved => exact advances (advances_updateUnservedStep network order command counts)
  | connect node => exact advances (advances_connectStep network counts node)
  | updateUnreachable =>
        exact advances (advances_updateUnreachableStep network order command counts)
  | movedRetry c => exact advances (advances_movedRetryStep network command counts c)
  | replied c => exact progress_repliedStep counted
  | moved c => exact advances (advances_movedStep network counts c)
  | movedUpdate node => exact advances (advances_movedUpdateStep network order counts node)
  | movedConnect node => exact advances (advances_movedConnectStep network counts node)
  | ask c => exact advances (advances_askStep network counts c)
  | asking c => exact advances (advances_askingStep network counts c)
  | error => exact Advances.progress counted ⟨counts, Nat.lt_succ_self _, Nat.le_refl _⟩
  | done => exact advances (advances_doneStep network order counts)
  | returned => exact absurd rfl running

/-- How often a number of steps of a call append the command. -/
def appends : Nat → ExecutorState → Nat
  | 0, _ => 0
  | count + 1, state =>
      state.1.appends +
        match executorStep network order command state with
        | .ok next => appends count next
        | .error _ => 0

theorem appends_le {state : ExecutorState} (counted : Counted limit state) (count : Nat) :
    appends network order command count state ≤ appendsLeft state := by
  induction count generalizing state with
  | zero => exact Nat.zero_le _
  | succ count induction =>
      by_cases returned : state.1 = .returned
      · obtain ⟨label, s⟩ := state
        obtain rfl : label = .returned := returned
        rw [appends]
        exact (Nat.zero_add _).symm ▸ induction counted
      have progress := progress_executorStep network order command counted returned
      rw [appends]
      cases step : executorStep network order command state with
      | error fault =>
          cases label : state.1 with
          | movedRetry c => simp [appendsLeft, label, Label.appends, Label.appendsLeft]
          | _ => simp [Label.appends]
      | ok next =>
          rw [step] at progress
          have later := induction progress.counted
          have appends := progress.appends
          dsimp only
          omega

theorem execute_returned (count : Nat) (s : Executor) :
    execute network order command count (.returned, s) = .ok (.returned, s) := by
  induction count with
  | zero => rfl
  | succ count induction => exact induction

/-- A call returns in a number of steps, or stops at a fault. -/
theorem execute_returns {state last : ExecutorState} (counted : Counted limit state) {count : Nat}
    (enough : stepsLeft state ≤ count)
    (run : execute network order command count state = .ok last) : last.1 = .returned := by
  induction count generalizing state with
  | zero =>
      obtain rfl := Except.ok.inj run
      obtain ⟨label, s⟩ := state
      have none : label.steps = 0 := by
        have none : 6 * s.cc.retriesLeft + label.steps = 0 := Nat.le_zero.mp enough
        omega
      cases label with
      | returned => rfl
      | _ => cases none
  | succ count induction =>
      by_cases returned : state.1 = .returned
      · obtain ⟨label, s⟩ := state
        obtain rfl : label = .returned := returned
        rw [execute_returned] at run
        obtain rfl := Except.ok.inj run
        rfl
      have progress := progress_executorStep network order command counted returned
      rw [execute] at run
      cases step : executorStep network order command state with
      | error fault =>
          rw [step] at run
          cases run
      | ok next =>
          rw [step] at run progress
          have fewer := progress.steps
          exact induction progress.counted (by omega) run

theorem counted_execute {state last : ExecutorState} (counted : Counted limit state) {count : Nat}
    (run : execute network order command count state = .ok last) : Counted limit last := by
  induction count generalizing state with
  | zero => exact Except.ok.inj run ▸ counted
  | succ count induction =>
      rw [execute] at run
      cases step : executorStep network order command state with
      | error fault =>
          rw [step] at run
          cases run
      | ok next =>
          rw [step] at run
          by_cases returned : state.1 = .returned
          · obtain ⟨label, s⟩ := state
            obtain rfl : label = .returned := returned
            obtain rfl := Except.ok.inj step
            exact induction counted run
          · have progress := progress_executorStep network order command counted returned
            exact induction (progress.of_ok step).counted run

end Executor

/-! ## Runs of a client -/

section Calls

variable (network : Nat → Outcome) (order : IterationOrder)
variable {cc : ValkeyClusterContext} {count limit : Int}

theorem counts_contextOf (counts : cc.Counts count limit) (addressee : Addressee) :
    Ensures (contextOf network cc addressee) anyFault fun result =>
      result.2.2.Counts count limit := by
  have found : Ensures (cc.addressed addressee) anyFault fun _ => True := by
    cases cc.addressed addressee with
    | ok known => exact trivial
    | error fault => exact trivial
  apply found.bind
  intro known _
  have kept : Counts.Kept fun cc c => cc.storeCon addressee c := by
    intro cc con
    cases addressee with
    | primary node => exact ⟨rfl, rfl⟩
    | replica node index => exact ⟨rfl, rfl⟩
  exact counts.of_obtains kept (getContext_obtains network cc _ _ _ _)

theorem counts_appendFormattedCommand (counts : cc.Counts count limit) (cmd : Bytes) :
    Ensures (valkeyClusterAppendFormattedCommand network cc cmd) anyFault fun result =>
      result.2.Counts count limit := by
  unfold valkeyClusterAppendFormattedCommand
  split
  · rename_i refused
    obtain ⟨err, errstr, rfl⟩ := prepareCommand_refused refused
    exact counts.of_same rfl rfl
  rename_i command _
  have looked := counts_table counts command.slot
  split
  · rename_i found
    rwa [found] at looked
  · rename_i found
    rw [found] at looked
    apply (counts_getContext network looked _).bind
    intro ⟨con, next⟩ connected
    cases con with
    | none => exact connected
    | some c =>
        dsimp only
        split
        · exact connected.setContextError c
        · exact connected.of_same rfl rfl

theorem counts_appendCommandToNode (counts : cc.Counts count limit) (addressee : Addressee)
    (formatted : Option Bytes) :
    Ensures (valkeyClusterAppendCommandToNode network cc addressee formatted) anyFault
      fun result => result.2.Counts count limit := by
  apply (counts_contextOf network counts addressee).bind
  intro ⟨addr, con, next⟩ connected
  cases con with
  | none => exact connected
  | some c =>
      dsimp only
      split
      · exact connected.setContextError c
      cases formatted with
      | none => exact connected.of_same rfl rfl
      | some cmd => exact connected.of_same rfl rfl

theorem counts_finishUpdate (counts : cc.Counts count limit) (c : Nat) (updating : Bool) :
    Ensures (finishUpdate network order cc c updating) anyFault fun next =>
      next.Counts count limit := by
  unfold finishUpdate
  split
  · apply (counts_handleReply network order counts c).bind
    intro ⟨status, next⟩ handled
    cases status with
    | ok => exact handled
    | err => exact handled.of_same rfl rfl
  · exact counts

theorem counts_commandToNode (counts : cc.Counts count limit) (addressee : Addressee)
    (formatted : Option Bytes) :
    Ensures (valkeyClusterCommandToNode network order cc addressee formatted) anyFault
      fun result => result.2.Counts count limit := by
  apply (counts_contextOf network counts addressee).bind
  intro ⟨addr, con, next⟩ connected
  cases con with
  | none => exact connected
  | some c =>
      dsimp only
      split
      · exact connected.setContextError c
      have cleared : next.clearError.Counts count limit := connected.of_same rfl rfl
      cases formatted with
      | none =>
          have failed : (next.clearError.putContext (formatError c)).Counts count limit :=
            cleared.of_same rfl rfl
          exact (ensures_pure _).mpr (failed.setContextError (formatError c))
      | some cmd =>
          have appended : (next.clearError.putContext
              (valkeyAppendCommand c (.command cmd))).Counts count limit :=
            cleared.of_same rfl rfl
          apply (counts_scheduledUpdate network appended none c.id).bind
          intro ⟨status, last⟩ sent
          apply (ensures_context fun _ => trivial).bind
          intro con _
          rcases valkeyGetReply (network last.outcomes) con with ⟨answer, after⟩
          have read := sent.exchange con after (.command cmd) answer
          cases answer with
          | none => exact counts_scheduleUpdate (read.setContextError after)
          | some answer =>
              apply (counts_finishUpdate network order read c.id _).bind
              intro finished counts
              exact counts

theorem ValkeyClusterContext.Tracks.countFailure (tracks : cc.Tracks limit) :
    cc.countFailure.Tracks limit := by
  have limited := tracks.limit
  have bounded := tracks.bounded
  have nonnegative := tracks.nonnegative
  unfold ValkeyClusterContext.countFailure
  split
  · exact tracks
  split
  · exact ⟨Int.le_refl _, Int.le_trans nonnegative bounded, limited⟩
  · refine ⟨?_, ?_, limited⟩
    · exact Int.le_trans nonnegative (Int.le_of_lt (Int.lt_succ _))
    · change cc.retryCount + 1 ≤ limit
      omega

theorem tracks_getReplyFromNode (tracks : cc.Tracks limit) (con : Option ValkeyContext)
    (request : Pipelined) :
    (valkeyClusterGetReplyFromNode network cc con request).2.2.Tracks limit := by
  cases con with
  | none => exact tracks
  | some c =>
      unfold valkeyClusterGetReplyFromNode
      dsimp only
      split
      · have counted := tracks.countFailure
        exact counted.of_counts (counted.counts.setContextError c)
      rcases valkeyGetReply (network cc.outcomes) c with ⟨answer, next⟩
      have read := tracks.counts.exchange c next (.pipelined request.index request.cmd) answer
      cases answer with
      | none => exact tracks.of_counts (read.setContextError next)
      | some answer =>
          dsimp only
          split
          · exact tracks.of_counts (read.of_same rfl rfl)
          · exact tracks.of_counts read

theorem tracks_getReply (tracks : cc.Tracks limit) :
    Ensures (valkeyClusterGetReply network cc) anyFault fun result => result.2.2.Tracks limit := by
  unfold valkeyClusterGetReply
  split
  · exact tracks.of_counts (tracks.counts.of_same rfl rfl)
  rename_i request rest _
  have taken : { cc.clearError with requests := rest }.Tracks limit :=
    tracks.of_counts (tracks.counts.of_same rfl rfl)
  dsimp only
  split
  · rename_i slot _
    have looked := taken.of_counts (counts_table taken.counts slot)
    split
    · rename_i found
      rwa [found] at looked
    · rename_i found
      rw [found] at looked
      apply (ensures_node fun _ => trivial).bind
      intro known _
      exact tracks_getReplyFromNode network looked known.con request
  · split
    · exact taken.of_counts (taken.counts.of_same rfl rfl)
    · rename_i known _
      exact tracks_getReplyFromNode network taken known.con request

theorem counts_sendAll (counts : cc.Counts count limit) (nodes : List Nat) :
    Ensures (valkeyClusterSendAll network cc nodes) anyFault fun next =>
      next.Counts count limit := by
  induction nodes generalizing cc with
  | nil => exact counts
  | cons node rest induction =>
      apply (counts_getContext network counts node).bind
      intro ⟨con, next⟩ connected
      cases con with
      | none => exact induction connected
      | some c =>
          dsimp only
          rcases valkeyBufferWrite (network next.outcomes) c with ⟨status, after⟩
          have sent : ((next.advance.putContext after).recordWrites c.flushed).Counts count
            limit := connected.of_same rfl rfl
          cases status with
          | ok => exact induction sent
          | err => exact sent

theorem tracks_clearAll (tracks : cc.Tracks limit) : cc.clearAll.Tracks limit :=
  tracks.of_counts (tracks.counts.of_same rfl rfl)

theorem tracks_readReplies (tracks : cc.Tracks limit) (replies : Nat) :
    Ensures (readReplies network cc replies) anyFault fun next => next.Tracks limit := by
  induction replies generalizing cc with
  | zero => exact tracks
  | succ replies induction =>
      apply (tracks_getReply network tracks).bind
      intro ⟨status, answer, next⟩ read
      dsimp only
      split
      · exact tracks_clearAll read
      · exact read
      · exact induction read

theorem tracks_reset (tracks : cc.Tracks limit) :
    Ensures (valkeyClusterReset network order cc) anyFault fun next => next.Tracks limit := by
  have requests : Ensures (resetRequests network order cc) anyFault fun next =>
      next.Tracks limit := by
    unfold resetRequests
    split
    · exact tracks_clearAll tracks
    · apply (counts_sendAll network tracks.counts _).bind
      intro next sent
      exact tracks_readReplies network (tracks.of_counts sent) _
  apply requests.bind
  intro next tracks
  dsimp only
  split
  · have emptied : { next with requests := [] }.Counts next.retryCount limit :=
      tracks.counts.of_same rfl rfl
    apply (counts_updateSlotmap network order emptied).bind
    intro ⟨status, last⟩ updated
    cases status with
    | err => exact tracks.of_counts updated
    | ok => exact tracks.of_counts (updated.of_same rfl rfl)
  · exact tracks.of_counts (tracks.counts.of_same rfl rfl)

/-- The count of a client between two calls or in one. -/
def TracksClient (limit : Int) : Client → Prop
  | .idle cc => cc.Tracks limit
  | .executing _ state => Counted limit state

/-- After a call the count is reset. -/
theorem ValkeyClusterContext.tracks_reset_count (limited : cc.maxRetryCount = limit)
    (nonnegative : 0 ≤ limit) : { cc with retryCount := 0 }.Tracks limit :=
  ⟨Int.le_refl _, nonnegative, limited⟩

theorem counted_start (tracks : cc.Tracks limit) :
    Counted limit (executorStart cc.clearError) :=
  ⟨tracks.nonnegative, tracks.limit, Or.inl tracks.bounded⟩

theorem tracks_clientStep (call : Call) {client : Client} (positive : 0 ≤ limit)
    (tracks : TracksClient limit client) :
    Ensures (clientStep network order call client) anyFault (TracksClient limit) := by
  cases client with
  | executing command state =>
      obtain ⟨label, s⟩ := state
      cases label with
      | returned => exact ValkeyClusterContext.tracks_reset_count tracks.limited positive
      | _ =>
          exact (progress_executorStep network order command tracks (by simp)).bind
            fun _ progress => progress.counted
  | idle cc =>
      have tracked : cc.Tracks limit := tracks
      cases call with
      | command cmd =>
          unfold clientStep makeCall
          dsimp only
          split
          · rename_i next refused
            obtain ⟨err, errstr, rfl⟩ := prepareCommand_refused refused
            exact ValkeyClusterContext.tracks_reset_count tracked.limit positive
          · exact counted_start tracked
      | commandToNode addressee formatted =>
          exact (counts_commandToNode network order tracked.counts addressee formatted).bind
            fun _ counts => tracked.of_counts counts
      | append cmd =>
          exact (counts_appendFormattedCommand network tracked.counts cmd).bind
            fun _ counts => tracked.of_counts counts
      | appendToNode addressee formatted =>
          exact (counts_appendCommandToNode network tracked.counts addressee formatted).bind
            fun _ counts => tracked.of_counts counts
      | getReply => exact (tracks_getReply network tracked).bind fun _ tracks => tracks
      | updateSlotmap =>
          exact (counts_updateSlotmap network order tracked.counts).bind
            fun _ counts => tracked.of_counts counts
      | reset => exact (tracks_reset network order tracked).bind fun _ tracks => tracks

/-- `INT_MAX` -/
def intMax : Int := 2 ^ 31 - 1

/-- A call that has started appends its command at most once more than it may retry. The
count stays an `int`. After a number of steps, unless one of them has no defined
behaviour, the call returns and resets the count. -/
structure Bounded (command : Command) (start : ExecutorState) (limit : Int) : Prop where
  appends : ∀ count, (appends network order command count start : Int) ≤ limit + 1
  count : ∀ count state, execute network order command count start = .ok state →
    0 ≤ state.2.cc.retryCount ∧ state.2.cc.retryCount ≤ intMax
  returns : ∀ count state, 6 * limit.toNat + 8 ≤ count →
    execute network order command count start = .ok state →
      ∀ call, ∃ next, clientStep network order call (.executing command state) = .ok (.idle next) ∧
        next.retryCount = 0

/-- The executor is bounded where it is started. A call that does not start it resets the
count at once. -/
inductive CallBounded (limit : Int) : Except Fault Client → Prop
  | refused {next : ValkeyClusterContext} (count : next.retryCount = 0) :
      CallBounded limit (.ok (.idle next))
  | started {command : Command} {start : ExecutorState}
      (bounded : Bounded network order command start limit) :
      CallBounded limit (.ok (.executing command start))

/-- The first state of a call leaves one append and eight steps beside the retries. -/
theorem bounded_start (command : Command) (tracks : cc.Tracks limit) (below : limit < intMax) :
    Bounded network order command (executorStart cc.clearError) limit := by
  have counted := counted_start tracks
  have left : cc.clearError.retriesLeft ≤ limit.toNat := by
    have nonnegative := tracks.nonnegative
    have limited := tracks.limit
    unfold ValkeyClusterContext.retriesLeft ValkeyClusterContext.clearError
    dsimp only
    omega
  have positive : 0 ≤ limit := Int.le_trans tracks.nonnegative tracks.bounded
  refine ⟨fun count => ?_, fun count state run => ?_, fun count state enough run call => ?_⟩
  · have few := appends_le network order command counted count
    have more : appendsLeft (executorStart cc.clearError) = cc.clearError.retriesLeft + 1 := rfl
    omega
  · have counted := counted_execute network order command counted run
    refine ⟨counted.nonnegative, ?_⟩
    rcases counted.bounded with within | ⟨exceeded, _⟩
    · omega
    · omega
  · have steps : stepsLeft (executorStart cc.clearError) = 6 * cc.clearError.retriesLeft + 8 := rfl
    have returned := execute_returns network order command counted (by omega) run
    obtain ⟨label, s⟩ := state
    obtain rfl : label = .returned := returned
    exact ⟨_, rfl, rfl⟩

end Calls

/-- The first node answers that the cluster is down, without an end. -/
def clusterDown : Nat → Outcome := calmNetwork fun _ => .error (ascii "CLUSTERDOWN")

end Libvalkey
