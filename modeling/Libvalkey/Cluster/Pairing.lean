import Libvalkey.Cluster.Settled
import Libvalkey.Cluster.NoDangling

/-! # Requests and replies of the executor

The executor reads its replies from connections that may carry the reply to a
deferred route query. As long as it sends its commands over connections with
nothing else to read, each reply goes to the one who asked. -/

namespace Libvalkey

open Checked ValkeyClusterContext

/-- The connections are settled, and the reply is one to the user's command. -/
structure Conversation (command : Command) (s : Executor) : Prop where
  settles : s.cc.Settles s.updating
  reply : ∀ answer ∈ s.reply, answer.request = .command command.cmd

/-- Nothing is left to read on the connection that a command is about to be sent to. -/
def Undisturbed : ExecutorState → Prop
  | (.movedRetry c, s) | (.asking c, s) =>
      ∀ con ∈ s.cc.contexts, con.id = c → con.outstanding = []
  | _ => True

/-- Nothing is left to read on any connection. -/
def ValkeyClusterContext.Drained (cc : ValkeyClusterContext) : Prop :=
  ∀ con ∈ cc.contexts, con.outstanding = []

section Steps

variable (network : Nat → Outcome) (order : IterationOrder) (command : Command)
  {cc next : ValkeyClusterContext} {s : Executor}

theorem Conversation.of_nodes (conversation : Conversation command s)
    (nodes : next.nodes = s.cc.nodes) (readings : next.readings = s.cc.readings)
    {reply : Option Answer} (kept : reply = s.reply ∨ reply = none) :
    Conversation command { s with cc := next, reply := reply } := by
  refine ⟨conversation.settles.of_nodes nodes ?_, fun answer member => ?_⟩
  · unfold Paired
    rw [readings]
    exact conversation.settles.paired
  · rcases kept with rfl | rfl
    · exact conversation.reply answer member
    · exact nomatch member

theorem Conversation.of_settles (conversation : Conversation command s)
    (settles : next.Settles s.updating) : Conversation command { s with cc := next } :=
  ⟨settles, conversation.reply⟩

theorem conversation_useConnection (conversation : Conversation command s)
    (con : Option ValkeyContext) (label : Nat → Label) :
    Conversation command (useConnection s con label).2 := by
  unfold useConnection
  split
  · exact conversation
  · split
    · refine conversation.of_nodes command ?_ ?_ (Or.inl rfl)
      all_goals unfold setContextError; split <;> rfl
    · exact conversation

theorem node_get_by_table_fields (cc : ValkeyClusterContext) (slot : Nat) :
    (node_get_by_table cc slot).2.nodes = cc.nodes ∧
      (node_get_by_table cc slot).2.readings = cc.readings := by
  rcases node_get_by_table_found cc slot with ⟨node, found⟩ | ⟨str, missing⟩
  · rw [found]
    exact ⟨rfl, rfl⟩
  · rw [missing]
    exact ⟨rfl, rfl⟩

theorem conversation_table (conversation : Conversation command s) (slot : Nat) :
    Conversation command { s with cc := (node_get_by_table s.cc slot).2 } :=
  conversation.of_nodes command (node_get_by_table_fields s.cc slot).1
    (node_get_by_table_fields s.cc slot).2 (Or.inl rfl)

theorem conversation_retryStep (conversation : Conversation command s) :
    Ensures (retryStep command s) anyFault fun next => Conversation command next.2 := by
  have looked := conversation_table command conversation command.slot
  unfold retryStep
  split
  · rename_i found
    rwa [found] at looked
  · rename_i found
    rwa [found] at looked

theorem conversation_updateUnservedStep (conversation : Conversation command s) :
    Ensures (updateUnservedStep network order command s) anyFault fun next =>
      Conversation command next.2 := by
  refine (settles_updateSlotmap network order conversation.settles).bind
    fun ⟨status, cc⟩ settles => ?_
  have updated := conversation.of_settles command settles
  cases status with
  | err => exact updated
  | ok =>
      have looked := conversation_table command updated command.slot
      dsimp only at looked ⊢
      split
      · rename_i found
        rwa [found] at looked
      · rename_i found
        rwa [found] at looked

theorem conversation_connectStep (conversation : Conversation command s) (node : Nat) :
    Ensures (connectStep network s node) anyFault fun next => Conversation command next.2 := by
  refine (ensures_obtains network s.cc fun _ => trivial).bind fun ⟨con, cc⟩ obtains => ?_
  have obtained := conversation.of_settles command (conversation.settles.of_obtainsFor obtains)
  cases con with
  | none => exact obtained
  | some c =>
      dsimp only
      split <;> exact obtained

theorem conversation_updateUnreachableStep (conversation : Conversation command s) :
    Ensures (updateUnreachableStep network order command s) anyFault fun next =>
      Conversation command next.2 := by
  refine (settles_updateSlotmap network order conversation.settles).bind
    fun ⟨status, cc⟩ settles => ?_
  have updated := conversation.of_settles command settles
  cases status with
  | err => exact updated
  | ok =>
      have looked := conversation_table command updated command.slot
      dsimp only at looked ⊢
      split
      · rename_i found
        rwa [found] at looked
      · rename_i found
        rw [found] at looked
        refine (ensures_obtains network _ fun _ => trivial).bind fun ⟨con, cc⟩ obtains => ?_
        exact conversation_useConnection command
          (looked.of_settles command (looked.settles.of_obtainsFor obtains)) con _

/-- A command is sent over a settled connection with nothing to read, with the route
query behind it where an update has been scheduled. -/
theorem conversation_movedRetryStep (conversation : Conversation command s) {c : Nat}
    (undisturbed : Undisturbed (.movedRetry c, s)) :
    Ensures (movedRetryStep network command s c) anyFault fun next =>
      Conversation command next.2 := by
  refine (ensures_context fun _ => trivial).bind fun con ⟨member, name⟩ => ?_
  have idle := undisturbed con member name
  have appended : (s.cc.putContext (valkeyAppendCommand con (.command command.cmd))).Around c
      s.updating fun con => con.outstanding = [.command command.cmd] ∨
        con.err ≠ none ∧ con.outstanding = [] := by
    refine (conversation.settles.around c).put (valkeyAppendCommand con (.command command.cmd))
      name ?_ rfl conversation.settles.paired
    rw [outstanding_append, idle, List.nil_append]
    split
    · exact Or.inl rfl
    · rename_i lost
      exact Or.inr ⟨lost, rfl⟩
  generalize s.cc.putContext (valkeyAppendCommand con (.command command.cmd)) = cc at appended
  have scheduled : Ensures (scheduledUpdate network cc s.updating c) anyFault fun result =>
      result.2.Around c (if result.1 = .ok then some c else s.updating) fun con =>
        con.outstanding = [] ∨ con.outstanding = [.command command.cmd] ∨
          result.1 = .ok ∧ con.outstanding = [.command command.cmd, .route] := by
    unfold scheduledUpdate
    split
    · rename_i due
      refine (around_sendCommand network appended).mono fun ⟨status, next⟩ sent => ?_
      have others : ∀ other, Settled s.updating other → other.outstanding = [] := by
        rintro other (nothing | ⟨deferred, _⟩)
        · exact nothing
        · rw [due.2] at deferred
          exact nomatch deferred
      refine ⟨sent.paired, fun con inContexts same => ?_, fun con inContexts different =>
        Or.inl (others con (sent.others con inContexts different))⟩
      obtain ⟨old, _, before, sentRoute⟩ := sent.here con inContexts same
      cases status with
      | ok =>
          obtain ⟨oldAlive, _, after⟩ := sentRoute.sent rfl
          rcases before with one | ⟨lost, _⟩
          · exact Or.inr (Or.inr ⟨rfl, by rw [after, one]; rfl⟩)
          · exact absurd oldAlive lost
      | err =>
          have fewer := (sentRoute.lost rfl).2
          rcases before with one | ⟨_, nothing⟩
          · rw [one, List.prefix_cons_iff] at fewer
            rcases fewer with nothing | ⟨rest, equal, none⟩
            · exact Or.inl nothing
            · exact Or.inr (Or.inl (by rw [equal, List.prefix_nil.mp none]))
          · rw [nothing] at fewer
            exact Or.inl (List.prefix_nil.mp fewer)
    · exact appended.mono fun con _ before => before.elim (fun one => Or.inr (Or.inl one))
        fun lost => Or.inl lost.2
  refine scheduled.bind fun ⟨status, cc⟩ around => ?_
  dsimp only at around ⊢
  refine (ensures_context fun _ => trivial).bind fun con ⟨member, name⟩ => ?_
  have here := around.here con member name
  have first : ∀ request ∈ con.outstanding.head?, request = .command command.cmd := by
    intro request head
    rcases here with nothing | one | ⟨_, two⟩
    · rw [nothing] at head
      exact nomatch head
    · rw [one] at head
      exact (Option.some.inj head).symm
    · rw [two] at head
      exact (Option.some.inj head).symm
  have read := around_exchange network around member name first
  have settles : (cc.exchange con (valkeyGetReply (network cc.outcomes) con).2
      (.command command.cmd) (valkeyGetReply (network cc.outcomes) con).1).Settles
        (if status = .ok then some c else s.updating) := by
    refine read.settles fun after name ⟨old, _, before, rest⟩ => ?_
    rcases rest with tail | nothing
    · rcases before with none | one | ⟨sent, two⟩
      · exact Or.inl (by rw [tail, none]; rfl)
      · exact Or.inl (by rw [tail, one]; rfl)
      · exact Or.inr ⟨by rw [if_pos sent, name], by rw [tail, two]; rfl⟩
    · exact Or.inl nothing
  rcases valkeyGetReply_cases (network cc.outcomes) con with
    ⟨answer, after, result, reads⟩ | ⟨after, result, lost⟩
  · simp only [result] at settles ⊢
    refine ⟨settles, fun found member => ?_⟩
    obtain rfl := Option.some.inj member
    exact first _ (by rw [reads.outstanding]; rfl)
  · simp only [result] at settles ⊢
    refine ⟨settles.of_nodes ?_ ?_, fun found member => nomatch member⟩
    · unfold scheduleUpdate setContextError
      split <;> split <;> rfl
    · unfold scheduleUpdate setContextError
      split <;> split <;> exact settles.paired

theorem conversation_repliedStep (conversation : Conversation command s) (c : Nat) :
    Ensures (repliedStep s c) anyFault fun next => Conversation command next.2 := by
  have kept : ∀ {next : ValkeyClusterContext} {reply : Option Answer}, next.nodes = s.cc.nodes →
      next.readings = s.cc.readings → reply = s.reply ∨ reply = none →
        Conversation command { s with cc := next, reply := reply } :=
    fun nodes readings same => conversation.of_nodes command nodes readings same
  unfold repliedStep
  split
  · exact conversation
  dsimp only
  split
  · exact conversation
  split
  · exact kept rfl rfl (Or.inl rfl)
  split
  · exact kept rfl rfl (Or.inl rfl)
  · exact kept rfl rfl (Or.inl rfl)
  · exact kept rfl rfl (Or.inr rfl)

/-- A redirect may add a node, which has no connection. -/
theorem ensures_redirectSettles (settles : cc.Settles updating) (c : Nat) (str : Bytes) :
    Ensures (getNodeFromRedirectReply cc c str) anyFault fun result =>
      result.2.Settles updating := by
  refine (ensures_context fun _ => trivial).bind fun con _ => ?_
  split
  · exact settles.of_nodes rfl settles.paired
  split
  · exact settles
  · refine settles.of_contexts (fun con member => ?_) settles.paired
    rwa [contexts_addNode] at member

theorem ensures_updateSlotSettles (settles : cc.Settles updating) (slot : Int) (node : Nat) :
    Ensures (updateSlot cc slot node) anyFault fun next => next.Settles updating := by
  unfold updateSlot
  split
  · unfold setTable
    split
    · trivial
    split
    · exact settles.of_nodes rfl settles.paired
    · trivial
  · exact settles

theorem conversation_movedStep (conversation : Conversation command s) (c : Nat) :
    Ensures (movedStep network s c) anyFault fun next => Conversation command next.2 := by
  refine (ensures_redirectSettles conversation.settles c s.text).bind
    fun ⟨target, cc⟩ settles => ?_
  cases target with
  | none => exact ⟨settles, fun _ member => nomatch member⟩
  | some target =>
      refine (ensures_updateSlotSettles settles target.2 target.1).bind fun cc settles => ?_
      have talking : Conversation command { s with cc := cc, reply := none } :=
        ⟨settles, fun _ member => nomatch member⟩
      dsimp only
      split
      · exact talking
      rename_i notUpdating
      have idle : ∀ con, Settled s.updating con → con.outstanding = [] := by
        rintro con (nothing | ⟨deferred, _⟩)
        · exact nothing
        · rw [deferred] at notUpdating
          exact absurd rfl notUpdating
      refine (around_sendCommand network (settles.around c)).bind fun ⟨status, cc⟩ sent => ?_
      cases status with
      | ok =>
          refine ⟨⟨sent.paired, fun con member => ?_⟩, fun _ member => nomatch member⟩
          by_cases same : con.id = c
          · obtain ⟨old, _, before, sentRoute⟩ := sent.here con member same
            exact Or.inr ⟨by rw [same],
              by rw [(sentRoute.sent rfl).2.2, idle old before, List.nil_append]⟩
          · exact Or.inl (idle con (sent.others con member same))
      | err =>
          refine ⟨sent.settles fun con _ ⟨old, _, before, sentRoute⟩ => ?_,
            fun _ member => nomatch member⟩
          have fewer := (sentRoute.lost rfl).2
          rw [idle old before] at fewer
          exact Or.inl (List.prefix_nil.mp fewer)

theorem conversation_movedUpdateStep (conversation : Conversation command s) (node : Nat) :
    Ensures (movedUpdateStep network order s node) anyFault fun next =>
      Conversation command next.2 := by
  refine (settles_updateSlotmap network order conversation.settles).bind
    fun ⟨status, cc⟩ settles => ?_
  cases status with
  | ok => exact conversation.of_settles command (settles.of_nodes rfl settles.paired)
  | err => exact conversation.of_settles command settles

theorem conversation_movedConnectStep (conversation : Conversation command s) (node : Nat) :
    Ensures (movedConnectStep network s node) anyFault fun next =>
      Conversation command next.2 := by
  refine (ensures_obtains network s.cc fun _ => trivial).bind fun ⟨con, cc⟩ obtains => ?_
  exact conversation_useConnection command
    (conversation.of_settles command (conversation.settles.of_obtainsFor obtains)) con _

theorem conversation_askStep (conversation : Conversation command s) (c : Nat) :
    Ensures (askStep network s c) anyFault fun next => Conversation command next.2 := by
  refine (ensures_redirectSettles conversation.settles c s.text).bind
    fun ⟨target, cc⟩ settles => ?_
  cases target with
  | none => exact conversation.of_settles command settles
  | some target =>
      refine (ensures_obtains network cc fun _ => trivial).bind fun ⟨con, cc⟩ obtains => ?_
      have talking : Conversation command { s with cc := cc, reply := none } :=
        ⟨settles.of_obtainsFor obtains, fun _ member => nomatch member⟩
      exact conversation_useConnection command talking con _

theorem conversation_askingStep (conversation : Conversation command s) {c : Nat}
    (undisturbed : Undisturbed (.asking c, s)) :
    Ensures (askingStep network s c) anyFault fun next => Conversation command next.2 := by
  refine (ensures_context fun _ => trivial).bind fun con ⟨member, name⟩ => ?_
  have sent := handshake_valkeyCommand network s.cc con .asking (by simp [Request.isCommand])
  have idle := undisturbed con member name
  dsimp only
  generalize valkeyCommand network s.cc con .asking = result at sent ⊢
  obtain ⟨answer, after, next⟩ := result
  have before : next.Settles s.updating := conversation.settles.of_nodes sent.talked.nodes
    (sent.paired idle conversation.settles.paired)
  have around : (next.putContext after).Around c s.updating fun con => con.outstanding = [] :=
    (before.around c).put after (sent.id.trans name) (sent.idle idle) rfl before.paired
  have settles := around.settles fun _ _ nothing => Or.inl nothing
  cases answer with
  | none =>
      refine conversation.of_settles command (settles.of_nodes ?_ ?_)
      · unfold setContextError
        split <;> rfl
      · unfold setContextError
        split <;> exact settles.paired
  | some answer => exact conversation.of_settles command settles

/-- The deferred reply is read before the executor returns. -/
theorem conversation_doneStep (conversation : Conversation command s) :
    Ensures (doneStep network order s) anyFault fun next =>
      Conversation command next.2 ∧ next.2.cc.Drained := by
  have drained : ∀ {cc : ValkeyClusterContext}, cc.Settles none → cc.Drained :=
    fun settles con member => (settles.settled con member).elim id fun deferred =>
      nomatch deferred.1
  unfold doneStep
  split
  · rename_i idle
    refine ⟨conversation, drained ?_⟩
    rw [← idle]
    exact conversation.settles
  rename_i c updating
  have around := conversation.settles.around c
  refine (around_handleReply network order around fun con settled request head => ?_).bind
    fun ⟨status, cc⟩ handled => ?_
  · rcases settled with nothing | ⟨_, one⟩
    · rw [nothing] at head
      exact nomatch head
    · rw [one] at head
      exact (Option.some.inj head).symm
  have settles : cc.Settles none := by
    refine ⟨handled.paired, fun con member => Or.inl ?_⟩
    by_cases same : con.id = c
    · obtain ⟨old, _, settled, read⟩ := handled.here con member same
      rcases read with tail | nothing
      · rcases settled with none | ⟨_, one⟩
        · rw [tail, none]
          rfl
        · rw [tail, one]
          rfl
      · exact nothing
    · rcases handled.others con member same with nothing | ⟨deferred, _⟩
      · exact nothing
      · rw [updating] at deferred
        exact absurd (Option.some.inj deferred).symm same
  cases status with
  | ok => exact ⟨⟨settles, conversation.reply⟩, drained settles⟩
  | err =>
      have cleared : cc.clearError.Settles none := settles.of_nodes rfl settles.paired
      refine (settles_updateSlotmap network order cleared).bind fun ⟨status, cc⟩ settles => ?_
      cases status with
      | ok => exact ⟨⟨settles, conversation.reply⟩, drained settles⟩
      | err => exact ⟨⟨settles, fun _ member => nomatch member⟩, drained settles⟩

/-- One step of the executor keeps the conversation going. -/
theorem conversation_executorStep {state : ExecutorState}
    (conversation : Conversation command state.2) (undisturbed : Undisturbed state) :
    Ensures (executorStep network order command state) anyFault fun next =>
      Conversation command next.2 := by
  obtain ⟨label, s⟩ := state
  cases label with
  | retry => exact conversation_retryStep command conversation
  | updateUnserved => exact conversation_updateUnservedStep network order command conversation
  | connect node => exact conversation_connectStep network command conversation node
  | updateUnreachable =>
      exact conversation_updateUnreachableStep network order command conversation
  | movedRetry c => exact conversation_movedRetryStep network command conversation undisturbed
  | replied c => exact conversation_repliedStep command conversation c
  | moved c => exact conversation_movedStep network command conversation c
  | movedUpdate node => exact conversation_movedUpdateStep network order command conversation node
  | movedConnect node => exact conversation_movedConnectStep network command conversation node
  | ask c => exact conversation_askStep network command conversation c
  | asking c => exact conversation_askingStep network command conversation undisturbed
  | error => exact conversation.of_nodes command rfl rfl (Or.inr rfl)
  | done =>
      exact (conversation_doneStep network order command conversation).mono fun _ done => done.1
  | returned => exact conversation

theorem conversation_run {cc : ValkeyClusterContext} (paired : cc.Paired) (drained : cc.Drained)
    {state : ExecutorState}
    (run : ExecutorRun network order command Undisturbed (executorStart cc) state) :
    Conversation command state.2 := by
  induction run with
  | start => exact ⟨⟨paired, fun con member => Or.inl (drained con member)⟩,
      fun _ member => nomatch member⟩
  | step run meets step conversation =>
      exact (conversation_executorStep network order command conversation meets).of_ok step

/-- Every reply is read by the one who sent the request, the reply that the executor
returns is one to the user's command, and nothing is left to read in the end. -/
theorem executorRun_paired {cc : ValkeyClusterContext} (paired : cc.Paired) (drained : cc.Drained)
    {state : ExecutorState}
    (run : ExecutorRun network order command Undisturbed (executorStart cc) state) :
    state.2.cc.Paired ∧ (∀ answer ∈ state.2.reply, answer.request = .command command.cmd) ∧
      (state.1 = .done → ∀ next, executorStep network order command state = .ok next →
        next.2.cc.Drained) := by
  have conversation := conversation_run network order command paired drained run
  refine ⟨conversation.settles.paired, conversation.reply, fun done next step => ?_⟩
  obtain ⟨label, s⟩ := state
  obtain rfl : label = .done := done
  exact ((conversation_doneStep network order command conversation).of_ok step).2

theorem context_of_mem (nodup : cc.contextNames.Nodup) {con : ValkeyContext}
    (member : con ∈ cc.contexts) : cc.context con.id = .ok con := by
  have known : Ensures (cc.context con.id) (fun _ => False) fun found =>
      found ∈ cc.contexts ∧ found.id = con.id :=
    ensures_context fun missing => missing (List.mem_map_of_mem member)
  cases found : cc.context con.id with
  | error fault =>
      rw [found] at known
      exact known.elim
  | ok other =>
      rw [found] at known
      exact congrArg _ (List.inj_on_of_nodup_map nodup known.1 member known.2)

/-- A command that is sent behind the deferred query gets the reply to it. -/
theorem movedRetryStep_disturbed (conversation : Conversation command s)
    (wellFormed : s.cc.WellFormed) {con : ValkeyContext} (member : con ∈ s.cc.contexts)
    (disturbed : con.outstanding ≠ []) {next : ExecutorState}
    (step : movedRetryStep network command s con.id = .ok next) :
    next.2.cc.readings = s.cc.readings ∨ ¬next.2.cc.Paired := by
  obtain ⟨deferred, one⟩ := (conversation.settles.settled con member).resolve_left disturbed
  have same := sameNames_putContext s.cc (valkeyAppendCommand con (.command command.cmd))
  have inContexts : valkeyAppendCommand con (.command command.cmd) ∈
      (s.cc.putContext (valkeyAppendCommand con (.command command.cmd))).contexts := by
    rw [contexts_putContext]
    exact List.mem_map.mpr ⟨con, member, if_pos rfl⟩
  have again := context_of_mem (same.contextNames ▸ wellFormed.contextNames_nodup) inContexts
  unfold movedRetryStep scheduledUpdate at step
  rw [context_of_mem wellFormed.contextNames_nodup member] at step
  simp only [bind, Except.bind, deferred, reduceCtorEq, and_false, if_false] at step
  rw [show con.id = (valkeyAppendCommand con (.command command.cmd)).id from rfl, again] at step
  rcases valkeyGetReply_cases (network s.cc.outcomes)
      (valkeyAppendCommand con (.command command.cmd)) with
    ⟨answer, after, read, reads⟩ | ⟨after, read, lost⟩
  · right
    have first := reads.outstanding
    rw [outstanding_append, one] at first
    have query := (List.cons.inj first).1
    simp only [show (s.cc.putContext (valkeyAppendCommand con (.command command.cmd))).outcomes =
      s.cc.outcomes from rfl, read] at step
    obtain rfl := Except.ok.inj step
    intro paired
    have last := paired ⟨.command command.cmd, answer⟩
      (List.mem_append_right _ (List.mem_singleton_self _))
    rw [← query] at last
    exact nomatch last
  · left
    simp only [show (s.cc.putContext (valkeyAppendCommand con (.command command.cmd))).outcomes =
      s.cc.outcomes from rfl, read] at step
    obtain rfl := Except.ok.inj step
    unfold scheduleUpdate setContextError
    split <;> split <;> rfl

end Steps

/-! ## A route query behind a command -/

/-- The slot map is to be updated with the next command. -/
def scheduledNodes : ValkeyClusterContext := { twoNodes with needUpdateRoute := true }

theorem executorRun_paired_get :
    ∃ state : ExecutorState, state.1 = .returned ∧
      ∀ answer ∈ state.2.reply, answer.request = .command getSlotZero.cmd := by
  let network := calmNetwork fun time =>
    if time = 2 then .string (ascii "v") else slotsOfSecond
  have called : ExecutorRun network inOrder getSlotZero Undisturbed
    (executorStart scheduledNodes) (executorStart scheduledNodes) := .start
  have connecting := called.step trivial rfl
  have sending := connecting.step trivial rfl
  have replied := sending.step (fun con member _ => by
    obtain rfl := List.mem_singleton.mp member
    rfl) rfl
  have finished := replied.step trivial rfl
  have returned := finished.step trivial rfl
  exact ⟨_, rfl, (executorRun_paired network inOrder getSlotZero
    (fun _ member => absurd member List.not_mem_nil)
    (fun _ member => absurd member List.not_mem_nil) returned).2.1⟩

/-- The first node is not ready for the command, but answers the query behind it. -/
def tryAgainBeforeSlots (time : Nat) : Outcome :=
  calmNetwork (fun time =>
    if time = 2 then .error (ascii "TRYAGAIN") else if time = 4 then .string (ascii "v")
    else slotsOfSecond) time

/-- The command is sent again behind the query, and its caller gets the slots. -/
theorem executor_returns_slots :
    ∃ state, ExecutorRun tryAgainBeforeSlots inOrder getSlotZero (fun _ => True)
        (executorStart scheduledNodes) state ∧ state.1 = .returned ∧
      ∃ answer, state.2.reply = some answer ∧ answer.request = .route :=
  ⟨_, ExecutorRun.start.of_execute
    (show execute tryAgainBeforeSlots inOrder getSlotZero 9 (executorStart scheduledNodes) =
      .ok _ from rfl), rfl, _, rfl, rfl⟩

end Libvalkey
