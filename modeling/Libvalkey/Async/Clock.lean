import Libvalkey.Async.Drain

/-! # What a step does to the timer

How the steps of a context change the counter that belongs to its timer, as far as the context
goes on without an error. -/

namespace Libvalkey

open Checked

variable {Fn Data : Type}

/-- The context has an error, or it is being freed. -/
def Over (state : AsyncState Fn Data) : Prop :=
  state.2.cErr ≠ none ∨
    match state.1 with
    | .freeing _ | .callback (.freeing _) | .callback .disconnected | .gone => True
    | _ => False

/-- The replies that were read are being handled. -/
def AsyncLabel.handlesReplies : AsyncLabel Fn Data → Bool
  | .processing | .callback .push | .callback (.reply _) => true
  | _ => false

/-- The callbacks that the timer is about. -/
def ValkeyAsyncContext.waiting (ac : ValkeyAsyncContext Fn Data) : List (Callback Fn Data) :=
  ac.replies ++ ac.subReplies

/-- Only the queues and the subscriptions can differ. -/
structure SameClock (ac next : ValkeyAsyncContext Fn Data) : Prop where
  cErr : next.cErr = ac.cErr
  connected : next.connected = ac.connected
  hasTimer : next.hasTimer = ac.hasTimer
  commandTimeout : next.commandTimeout = ac.commandTimeout
  timeoutReplyCount : next.timeoutReplyCount = ac.timeoutReplyCount
  processed : next.processed = ac.processed

/-- The queues are the same, too. -/
structure Untouched (ac next : ValkeyAsyncContext Fn Data) : Prop extends SameClock ac next where
  replies : next.replies = ac.replies
  subReplies : next.subReplies = ac.subReplies

/-- The kinds of commands whose callbacks wait for a reply. -/
def waitsInQueue (cmd : Bytes) : Bool :=
  match nextArgument cmd with
  | none => false
  | some first =>
      match commandKind first with
      | .subscribe => variantOf first.text == .sharded
      | .unsubscribe => false
      | .monitor | .regular => true

/-- The connection is established, and no callback or flag is in the way. -/
def establishes (ac : ValkeyAsyncContext Fn Data) : ConnectOutcome → Bool
  | .done => !ac.onConnect && !ac.disconnecting && !ac.freeing
  | _ => false

/-- The step is `valkeyAsyncRead` or `valkeyAsyncWrite`, or ends in one. -/
def transfers : AsyncState Fn Data → AsyncEvent Fn Data → Bool
  | (.idle, ac), .readable outcome _ | (.idle, ac), .writable outcome _ =>
      ac.connected || establishes ac outcome
  | (.callback (.connected _), ac), .proceed => !ac.disconnecting && !ac.freeing
  | _, _ => false

/-- What a step does, if the context goes on. -/
inductive ClockStep (state : AsyncState Fn Data) (event : AsyncEvent Fn Data)
    (next : AsyncState Fn Data) : Prop
  | ended (ended : Over next)
  | stays (label : next.1 = state.1) (quiet : transfers state event = false)
      (expiry : event = .timer → state.1 = .idle → state.2.commandTimeout = false)
      (same : Untouched state.2 next.2)
  | command (fn : Option Fn) (data : Data) (cmd : Bytes) (submits : event = .command fn data cmd)
      (label : next.1 = state.1) (same : SameClock state.2.refreshTimeout next.2)
      (kept : ∀ cb ∈ state.2.waiting, cb ∈ next.2.waiting)
      (waits : next.2.waiting ≠ state.2.waiting →
        (state.2.disconnecting = false ∧ state.2.freeing = false) ∧ waitsInQueue cmd = true)
  | connects (transfer : Transfer) (label : state.1 = .idle)
      (later : next.1 = .callback (.connected transfer)) (before : state.2.connected = false)
      (noTimer : event ≠ .timer) (quiet : transfers state event = false)
      (same : Untouched { state.2 with connected := true } next.2)
  | transfer (noTimer : event ≠ .timer)
      (before : state.1 = .idle ∨ ∃ transfer, state.1 = .callback (.connected transfer))
      (label : next.1 = .idle ∨ next.1 = .processing)
      (connected : next.2.connected = true)
      (same : Untouched ({ state.2 with connected := true }).refreshTimeout next.2)
  | idleExpiry (fires : event = .timer) (label : state.1 = .idle) (later : next.1 = .idle)
      (empty : state.2.waiting = [])
      (same : Untouched { state.2 with timeoutReplyCount := none } next.2)
  | aliveExpiry (fires : event = .timer) (label : state.1 = .idle) (later : next.1 = .idle)
      (alive : 0 < state.2.timeoutReplyCount.getD 0)
      (same : Untouched ({ state.2 with timeoutReplyCount := none }).refreshTimeout next.2)
  | reply (reply : ReplyTree) (rest : List ReplyTree) (label : state.1 = .processing)
      (proceeds : event = .proceed) (later : next.1.handlesReplies = true)
      (same : SameClock (receiveReply state.2 reply rest) next.2)
  | rests (label : state.1 = .processing) (proceeds : event = .proceed) (later : next.1 = .idle)
      (same : Untouched state.2 next.2)
  | pushed (label : state.1 = .callback .push) (proceeds : event = .proceed)
      (later : next.1 = .processing) (same : Untouched state.2 next.2)
  | replied (cb : Callback Fn Data) (label : state.1 = .callback (.reply cb))
      (proceeds : event = .proceed) (later : next.1 = .processing) (same : SameClock state.2 next.2)
  | established (here : state.1 = .idle) (label : next.1 = .idle)
      (before : state.2.connected = false)
      (noTimer : event ≠ .timer) (quiet : transfers state event = false)
      (same : Untouched { state.2 with connected := true } next.2)
  | notConnected (label : next.1 = .idle) (proceeds : event = .proceed)
      (before : ∃ transfer, state.1 = .callback (.connected transfer))
      (quiet : transfers state event = false) (same : Untouched state.2 next.2)

namespace SameClock

variable {ac next final : ValkeyAsyncContext Fn Data}

theorem refl (ac : ValkeyAsyncContext Fn Data) : SameClock ac ac := ⟨rfl, rfl, rfl, rfl, rfl, rfl⟩

theorem of_control (same : next.control = ac.control) : SameClock ac next :=
  ⟨congrArg (·.cErr) same, congrArg (·.connected) same, congrArg (·.hasTimer) same,
    congrArg (·.commandTimeout) same, congrArg (·.timeoutReplyCount) same,
      congrArg (·.processed) same⟩

theorem trans (first : SameClock ac next) (second : SameClock next final) : SameClock ac final :=
  ⟨second.cErr.trans first.cErr, second.connected.trans first.connected,
    second.hasTimer.trans first.hasTimer, second.commandTimeout.trans first.commandTimeout,
    second.timeoutReplyCount.trans first.timeoutReplyCount, second.processed.trans first.processed⟩

/-- The timer is looked at in the same way. -/
theorem refreshTimeout (same : SameClock ac next) :
    SameClock ac.refreshTimeout next.refreshTimeout := by
  have fires : (next.connected ∧ next.timeoutReplyCount = none ∧ next.hasTimer ∧
      next.commandTimeout) ↔
      (ac.connected ∧ ac.timeoutReplyCount = none ∧ ac.hasTimer ∧ ac.commandTimeout) := by
    rw [same.connected, same.timeoutReplyCount, same.hasTimer, same.commandTimeout]
  unfold ValkeyAsyncContext.refreshTimeout
  split
  · rename_i now
    rw [if_pos (fires.mpr now)]
    exact ⟨same.cErr, same.connected, same.hasTimer, same.commandTimeout, rfl, same.processed⟩
  · rename_i later
    rw [if_neg (mt fires.mp later)]
    exact same

end SameClock

theorem Untouched.refl (ac : ValkeyAsyncContext Fn Data) : Untouched ac ac := ⟨.refl ac, rfl, rfl⟩

/-! ## The library -/

section Library

variable (order : IterationOrder) {ac : ValkeyAsyncContext Fn Data}

/-- A context with an error is over. -/
theorem over_valkeyAsyncDisconnectInternal (failed : ac.cErr ≠ none) :
    Ensures (valkeyAsyncDisconnectInternal order ac) (fun _ => True) Over := by
  unfold valkeyAsyncDisconnectInternal
  dsimp only
  split
  · trivial
  · split
    · exact .inl failed
    · exact .inl failed

/-- A context without an error is freed, or it stays. -/
theorem clock_valkeyAsyncDisconnectInternal (ac : ValkeyAsyncContext Fn Data) :
    Ensures (valkeyAsyncDisconnectInternal order ac) (fun _ => True) fun next =>
      Over next ∨ next.1 = .idle ∧ Untouched ac next.2 := by
  unfold valkeyAsyncDisconnectInternal
  dsimp only
  split
  · trivial
  · split
    · split
      · exact .inr ⟨rfl, ⟨rfl, rfl, rfl, rfl, rfl, rfl⟩, rfl, rfl⟩
      · exact .inl (.inr trivial)
    · split
      · exact .inr ⟨rfl, ⟨rfl, rfl, rfl, rfl, rfl, rfl⟩, rfl, rfl⟩
      · exact .inl (.inr trivial)

theorem clock_valkeyAsyncDisconnect (label : AsyncLabel Fn Data) (ac : ValkeyAsyncContext Fn Data) :
    Ensures (valkeyAsyncDisconnect order label ac) (fun _ => True) fun next =>
      Over next ∨ (next.1 = label ∨ ac.inCallback = false ∧ next.1 = .idle) ∧
        Untouched ac next.2 := by
  unfold valkeyAsyncDisconnect
  dsimp only
  split
  · rename_i now
    refine (clock_valkeyAsyncDisconnectInternal order _).mono fun next outcome => ?_
    rcases outcome with ended | ⟨idle, same⟩
    · exact .inl ended
    · exact .inr ⟨.inr ⟨by simpa using now.1, idle⟩,
        ⟨same.cErr, same.connected, same.hasTimer, same.commandTimeout, same.timeoutReplyCount,
          same.processed⟩, same.replies, same.subReplies⟩
  · exact .inr ⟨.inl rfl, ⟨rfl, rfl, rfl, rfl, rfl, rfl⟩, rfl, rfl⟩

theorem clock_valkeyAsyncFree (label : AsyncLabel Fn Data) (ac : ValkeyAsyncContext Fn Data) :
    Over (valkeyAsyncFree order label ac) ∨
      (valkeyAsyncFree order label ac).1 = label ∧
        Untouched ac (valkeyAsyncFree order label ac).2 := by
  unfold valkeyAsyncFree
  dsimp only
  split
  · exact .inr ⟨rfl, ⟨rfl, rfl, rfl, rfl, rfl, rfl⟩, rfl, rfl⟩
  · exact .inl (.inr trivial)

theorem untouched_refreshTimeout {next : ValkeyAsyncContext Fn Data} (same : Untouched ac next) :
    Untouched ac.refreshTimeout next.refreshTimeout := by
  refine ⟨same.toSameClock.refreshTimeout, ?_, ?_⟩
  · obtain ⟨count, here⟩ := ac.refreshTimeout_eq
    obtain ⟨other, there⟩ := next.refreshTimeout_eq
    rw [here, there]
    exact same.replies
  · obtain ⟨count, here⟩ := ac.refreshTimeout_eq
    obtain ⟨other, there⟩ := next.refreshTimeout_eq
    rw [here, there]
    exact same.subReplies

theorem clock_transfer (ac : ValkeyAsyncContext Fn Data) (next : Transfer) :
    Ensures (transfer order ac next) (fun _ => True) fun final =>
      Over final ∨ (final.1 = .idle ∨ final.1 = .processing) ∧
        Untouched ac.refreshTimeout final.2 := by
  have broken {failing : ValkeyAsyncContext Fn Data} (failed : failing.cErr ≠ none) :
      Ensures (valkeyAsyncDisconnectInternal order failing) (fun _ => True) fun final =>
        Over final ∨ (final.1 = .idle ∨ final.1 = .processing) ∧
          Untouched ac.refreshTimeout final.2 :=
    (over_valkeyAsyncDisconnectInternal order failed).mono fun _ => .inl
  have error (err : ContextError) : some (ac.cErr.getD err) ≠ none := Option.some_ne_none _
  rcases next with (⟨more, failure⟩ | err) | (count | err)
  · unfold transfer valkeyAsyncRead
    dsimp only
    split
    · rename_i failed
      exact broken (Option.isSome_iff_ne_none.mp failed)
    · exact .inr ⟨.inr rfl, untouched_refreshTimeout ⟨⟨rfl, rfl, rfl, rfl, rfl, rfl⟩, rfl, rfl⟩⟩
  · exact @broken { ac with cErr := some (ac.cErr.getD err) } (error err)
  · unfold transfer valkeyAsyncWrite
    dsimp only
    split
    · rename_i failed
      exact broken (Option.isSome_iff_ne_none.mp failed)
    · exact .inr ⟨.inl rfl, untouched_refreshTimeout ⟨⟨rfl, rfl, rfl, rfl, rfl, rfl⟩, rfl, rfl⟩⟩
  · exact @broken { ac with cErr := some (ac.cErr.getD err) } (error err)

/-- A reply is handled, as far as the timer is concerned. -/
def Handles (ac : ValkeyAsyncContext Fn Data) (next : AsyncState Fn Data) : Prop :=
  Over next ∨ next.1.handlesReplies = true ∧ SameClock ac next.2

theorem Handles.of_same {popped : ValkeyAsyncContext Fn Data} {next : AsyncState Fn Data}
    (same : SameClock ac popped) (handled : Handles popped next) : Handles ac next := by
  rcases handled with ended | ⟨label, after⟩
  · exact .inl ended
  · exact .inr ⟨label, same.trans after⟩

theorem handles_afterReply (cb : Callback Fn Data) (ac : ValkeyAsyncContext Fn Data) :
    Over (afterReply order cb ac) ∨
      (afterReply order cb ac).1 = .processing ∧ SameClock ac (afterReply order cb ac).2 := by
  unfold afterReply
  split
  · exact .inl (.inr trivial)
  · exact .inr ⟨rfl, .of_control (sameControl_repush cb ac).control⟩

theorem handles_deliverReply (ac : ValkeyAsyncContext Fn Data) (cb : Callback Fn Data)
    (reply : ReplyTree) :
    Ensures (deliverReply order ac cb reply) (fun _ => True) (Handles ac) := by
  unfold deliverReply
  split
  · exact .inr ⟨rfl, .of_control (sameControl_repush cb (ac.serve cb (some reply))).control⟩
  · refine (runsFrom_runCallback ac cb (some reply)).bind fun result runs => ?_
    obtain ⟨entered, next⟩ := result
    have same : SameClock ac next := .of_control runs.1
    cases entered with
    | true => exact .inr ⟨rfl, same⟩
    | false =>
        rcases handles_afterReply order cb next with ended | ⟨label, after⟩
        · exact .inl ended
        · refine .inr ⟨?_, same.trans after⟩
          exact congrArg AsyncLabel.handlesReplies label

theorem handles_unexpectedReply (ac : ValkeyAsyncContext Fn Data) (reply : ReplyTree) :
    Ensures (unexpectedReply order ac reply) (fun _ => True) (Handles ac) := by
  have broken (err : ContextError) :
      Ensures (valkeyAsyncDisconnectInternal order { ac with cErr := some err }) (fun _ => True)
        (Handles ac) :=
    (over_valkeyAsyncDisconnectInternal order (Option.some_ne_none err)).mono fun _ => .inl
  unfold unexpectedReply
  split
  · split
    · split
      · rename_i cb rest _ _
        exact (handles_deliverReply order { ac with subReplies := rest } _ _).mono fun _ =>
          Handles.of_same ⟨rfl, rfl, rfl, rfl, rfl, rfl⟩
      · exact broken _
    · exact broken _
  · split
    · trivial
    · refine (sameControl_valkeyGetSubscribeCallback ac reply).bind fun result same => ?_
      exact (handles_deliverReply order result.2 result.1 reply).mono fun _ =>
        Handles.of_same (.of_control same.control)

theorem handles_processReply (ac : ValkeyAsyncContext Fn Data) (reply : ReplyTree) :
    Ensures (processReply order ac reply) (fun _ => True) (Handles ac) := by
  unfold processReply
  split
  · split
    · exact .inr ⟨rfl, rfl, rfl, rfl, rfl, rfl, rfl⟩
    · exact .inr ⟨rfl, .refl ac⟩
  · split
    · rename_i cb rest _
      exact (handles_deliverReply order { ac with replies := rest } cb reply).mono fun _ =>
        Handles.of_same ⟨rfl, rfl, rfl, rfl, rfl, rfl⟩
    · exact handles_unexpectedReply order ac reply

theorem clock_valkeyProcessCallbacks (ac : ValkeyAsyncContext Fn Data) :
    Ensures (valkeyProcessCallbacks order ac) (fun _ => True)
      (ClockStep (.processing, ac) .proceed) := by
  unfold valkeyProcessCallbacks
  split
  · rename_i reply rest _
    refine (handles_processReply order (receiveReply ac reply rest) reply).mono
      fun next handled => ?_
    rcases handled with ended | ⟨label, same⟩
    · exact .ended ended
    · exact .reply reply rest rfl rfl label same
  · split
    · exact (over_valkeyAsyncDisconnectInternal order (Option.some_ne_none _)).mono fun _ => .ended
    · split
      · refine (clock_valkeyAsyncDisconnectInternal order ac).mono fun next outcome => ?_
        rcases outcome with ended | ⟨idle, same⟩
        · exact .ended ended
        · exact .rests rfl rfl idle same
      · exact .rests rfl rfl rfl (.refl ac)

end Library

/-! ## Events -/

section Events

variable (order : IterationOrder) {ac : ValkeyAsyncContext Fn Data}

theorem waiting_eq {next : ValkeyAsyncContext Fn Data} (replies : next.replies = ac.replies)
    (subReplies : next.subReplies = ac.subReplies) : next.waiting = ac.waiting := by
  rw [ValkeyAsyncContext.waiting, ValkeyAsyncContext.waiting, replies, subReplies]

theorem waiting_pushCallback (toSubReplies : Bool) (ac : ValkeyAsyncContext Fn Data)
    {cb pushed : Callback Fn Data} (member : cb ∈ ac.waiting) :
    cb ∈ (pushCallback toSubReplies ac pushed).waiting := by
  unfold ValkeyAsyncContext.waiting at member ⊢
  rcases List.mem_append.mp member with reply | subscribed
  · cases toSubReplies with
    | true => exact List.mem_append_left _ reply
    | false => exact List.mem_append_left _ (List.mem_append_left _ reply)
  · cases toSubReplies with
    | true => exact List.mem_append_right _ (List.mem_append_left _ subscribed)
    | false => exact List.mem_append_right _ subscribed

theorem waiting_beside : BesideChannels fun ac : ValkeyAsyncContext Fn Data => ac.waiting where
  setDict ac variant dict := by cases variant <;> rfl
  pendingUnsubs _ _ := rfl

/-- The callbacks that wait stay, and only some commands add one. -/
structure Enqueues (ac : ValkeyAsyncContext Fn Data) (cmd : Bytes)
    (next : ValkeyAsyncContext Fn Data) : Prop where
  kept : ∀ cb ∈ ac.waiting, cb ∈ next.waiting
  waits : next.waiting ≠ ac.waiting → waitsInQueue cmd = true

theorem enqueues_same {cmd : Bytes} {next : ValkeyAsyncContext Fn Data}
    (same : next.waiting = ac.waiting) : Enqueues ac cmd next := by
  constructor
  · intro cb member
    rw [same]
    exact member
  · exact fun other => absurd same other

theorem enqueues_registerCommand {registered : ValkeyAsyncContext Fn Data} {fn : Option Fn}
    {data : Data} {cmd : Bytes} {first : Argument} (found : nextArgument cmd = some first)
    (accepted : registerCommand ac fn data cmd first = some registered) :
    Enqueues ac cmd registered := by
  have waits : waitsInQueue cmd = match commandKind first with
      | .subscribe => variantOf first.text == .sharded
      | .unsubscribe => false
      | .monitor | .regular => true := by
    unfold waitsInQueue
    rw [found]
  have added := waiting_beside.addChannels (variantOf first.text) (argumentsOf first.next)
    (newCallback ac.submitted.length fn data) { ac with isSubscribed := true }
  cases booked_of_accepted accepted with
  | sharded kind variant =>
      constructor
      · intro cb member
        apply waiting_pushCallback
        rw [added]
        exact member
      · intro _
        rw [waits, kind, variant]
        rfl
  | subscribe => exact enqueues_same added
  | unsubscribe => exact enqueues_same (waiting_beside.sendUnsubscribes _ _ ac)
  | unsubscribeAll => exact enqueues_same (waiting_beside.unsubscribeAll _ ac)
  | monitor kind =>
      rw [kind] at waits
      exact ⟨fun cb member => waiting_pushCallback false _ member, fun _ => waits⟩
  | regular kind =>
      rw [kind] at waits
      exact ⟨fun cb member => waiting_pushCallback _ ac member, fun _ => waits⟩

theorem waiting_refreshTimeout (ac : ValkeyAsyncContext Fn Data) :
    ac.refreshTimeout.waiting = ac.waiting := by
  obtain ⟨count, same⟩ := ac.refreshTimeout_eq
  rw [same]
  rfl

theorem transfers_command (state : AsyncState Fn Data) (fn : Option Fn) (data : Data)
    (cmd : Bytes) : transfers state (.command fn data cmd) = false := by
  obtain ⟨label, ac⟩ := state
  cases label with
  | callback resume => cases resume <;> rfl
  | _ => rfl

/-- A command. -/
theorem clock_command {label : AsyncLabel Fn Data} (fn : Option Fn) (data : Data) (cmd : Bytes) :
    ClockStep (label, ac) (.command fn data cmd)
      (label, (valkeyAsyncAppendCmdLen ac fn data cmd).2) := by
  have quiet := transfers_command (label, ac) fn data cmd
  rcases valkeyAsyncAppendCmdLen_accepted ac fn data cmd with
    refused | ⟨open_, first, registered, found, accepted, written⟩
  · rw [refused]
    exact .stays rfl quiet (fun timer => nomatch timer) (.refl ac)
  · have queued := enqueues_registerCommand found accepted
    have same : SameClock ac { registered with
        obuf := registered.obuf ++ cmd
        submitted := registered.submitted ++ [⟨fn, data, cmd⟩] } :=
      (SameClock.of_control (sameControl_registerCommand accepted).control).trans
        ⟨rfl, rfl, rfl, rfl, rfl, rfl⟩
    have waiting : (registered.writeCommand ⟨fn, data, cmd⟩).waiting = registered.waiting :=
      waiting_refreshTimeout _
    rw [written]
    refine .command fn data cmd rfl rfl same.refreshTimeout (fun cb member => ?_) fun more => ?_
    · rw [waiting]
      exact queued.kept cb member
    · rw [waiting] at more
      exact ⟨open_, queued.waits more⟩

/-- What follows a connection that was established. -/
theorem clock_afterConnect {state : AsyncState Fn Data} {event : AsyncEvent Fn Data}
    (next : Transfer) (connected : ac.connected = true)
    (same : Untouched { state.2 with connected := true } ac)
    (stops : ac.disconnecting = true → ∀ final, final.1 = .idle → Untouched ac final.2 →
      ClockStep state event final)
    (outside : ac.inCallback = false) (noTimer : event ≠ .timer)
    (before : state.1 = .idle ∨ ∃ transfer, state.1 = .callback (.connected transfer)) :
    Ensures (afterConnect order ac next) (fun _ => True) (ClockStep state event) := by
  unfold afterConnect
  split
  · rename_i disconnecting
    refine (clock_valkeyAsyncDisconnect order .idle ac).mono fun final outcome => ?_
    rcases outcome with ended | ⟨idle | ⟨_, idle⟩, kept⟩
    · exact .ended ended
    · exact stops disconnecting final idle kept
    · exact stops disconnecting final idle kept
  · split
    · unfold valkeyAsyncFree
      dsimp only
      rw [if_neg (by simp [outside])]
      exact .ended (.inr trivial)
    · refine (clock_transfer order ac next).mono fun final outcome => ?_
      rcases outcome with ended | ⟨label, kept⟩
      · exact .ended ended
      · have refreshed := untouched_refreshTimeout same
        have established : ac.refreshTimeout.connected = true := by
          obtain ⟨count, here⟩ := ac.refreshTimeout_eq
          rw [here]
          exact connected
        exact .transfer noTimer before label (kept.connected.trans established)
          ⟨refreshed.toSameClock.trans kept.toSameClock, kept.replies.trans refreshed.replies,
            kept.subReplies.trans refreshed.subReplies⟩

/-- A step that keeps the label and touches nothing that the timer looks at. -/
theorem clock_same {label : AsyncLabel Fn Data} {event : AsyncEvent Fn Data}
    (quiet : transfers (label, ac) event = false)
    (expiry : event = .timer → label = .idle → ac.commandTimeout = false) :
    ClockStep (label, ac) event (label, ac) := .stays rfl quiet expiry (.refl ac)

theorem clock_transfer_idle {event : AsyncEvent Fn Data} (next : Transfer)
    (connected : ac.connected = true) (noTimer : event ≠ .timer) :
    Ensures (transfer order ac next) (fun _ => True) (ClockStep (.idle, ac) event) := by
  have equal : { ac with connected := true } = ac := by rw [← connected]
  refine (clock_transfer order ac next).mono fun final outcome => ?_
  rcases outcome with ended | ⟨label, kept⟩
  · exact .ended ended
  · have established : ac.refreshTimeout.connected = true := by
      obtain ⟨count, here⟩ := ac.refreshTimeout_eq
      rw [here]
      exact connected
    have same : Untouched ({ ac with connected := true }).refreshTimeout final.2 := by
      rw [equal]
      exact kept
    exact .transfer noTimer (.inl rfl) label (kept.connected.trans established) same

/-- A read or a write event. -/
theorem clock_valkeyAsyncHandle {event : AsyncEvent Fn Data} (outcome : ConnectOutcome)
    (next : Transfer) (outside : ac.inCallback = false) (noTimer : event ≠ .timer)
    (moves : transfers (.idle, ac) event = (ac.connected || establishes ac outcome)) :
    Ensures (valkeyAsyncHandle order ac outcome next) (fun _ => True)
      (ClockStep (.idle, ac) event) := by
  unfold valkeyAsyncHandle valkeyAsyncHandleConnect
  split
  · rename_i connected
    exact clock_transfer_idle order next connected noTimer
  · rename_i waits
    have before : ac.connected = false := by simpa using waits
    rw [before, Bool.false_or] at moves
    cases outcome with
    | pending => exact clock_same moves fun timer => absurd timer noTimer
    | failed err =>
        dsimp only
        split
        · exact .ended (.inl (Option.some_ne_none err))
        · refine (over_valkeyAsyncDisconnectInternal order ?_).mono fun _ => .ended
          exact Option.some_ne_none err
    | noDelay err =>
        dsimp only
        split
        · exact .ended (.inl (Option.some_ne_none err))
        · refine (over_valkeyAsyncDisconnectInternal order ?_).mono fun _ => .ended
          exact Option.some_ne_none err
    | done =>
        have established : Untouched ({ ac with connected := true } : ValkeyAsyncContext Fn Data)
            ({ ac with connected := true } : ValkeyAsyncContext Fn Data).enter :=
          ⟨⟨rfl, rfl, rfl, rfl, rfl, rfl⟩, rfl, rfl⟩
        dsimp only
        split
        · rename_i onConnect
          have quiet : transfers (.idle, ac) event = false := by
            simp [moves, establishes, onConnect]
          exact .connects next rfl rfl before noTimer quiet established
        · refine clock_afterConnect order next rfl (.refl _)
            (fun disconnecting final idle kept => ?_)
            outside noTimer (.inl rfl)
          have quiet : transfers (.idle, ac) event = false := by
            simp [moves, establishes, show ac.disconnecting = true from disconnecting]
          exact .established rfl idle before noTimer quiet kept

/-- The timer fires. -/
theorem clock_valkeyAsyncHandleTimeout (ac : ValkeyAsyncContext Fn Data) :
    ClockStep (.idle, ac) .timer (valkeyAsyncHandleTimeout ac) := by
  unfold valkeyAsyncHandleTimeout
  split
  · rename_i empty
    refine .idleExpiry rfl rfl rfl ?_ ⟨⟨rfl, rfl, rfl, rfl, rfl, rfl⟩, rfl, rfl⟩
    rw [ValkeyAsyncContext.waiting, empty.2.1, empty.2.2]
    rfl
  · split
    · rename_i unset
      exact clock_same rfl fun _ _ => by simpa using unset.2
    · split
      · rename_i alive
        exact .aliveExpiry rfl rfl rfl alive.2 (.refl _)
      · obtain ⟨failure, err, same⟩ := setTimeoutError_spec ac
        dsimp only
        rw [same]
        split
        · exact .ended (.inl (Option.some_ne_none failure))
        · exact .ended (.inl (Option.some_ne_none failure))

/-- The loop of the timeout goes on with an error. -/
theorem over_timeoutReplies (failed : ac.cErr ≠ none) :
    Ensures (timeoutReplies order ac) (fun _ => True) Over := by
  unfold timeoutReplies
  split
  · exact over_valkeyAsyncDisconnectInternal order failed
  · rename_i cb rest _
    refine (runsFrom_runCallback { ac with replies := rest } cb none).bind fun result runs => ?_
    have error : result.2.cErr = ac.cErr := congrArg (·.cErr) runs.1
    refine .inl ?_
    dsimp only
    rw [error]
    exact failed

theorem over_freeCallbacks (ac : ValkeyAsyncContext Fn Data)
    (subscriptions : List (Callback Fn Data)) :
    Ensures (freeCallbacks ac subscriptions) (fun _ => True) Over := by
  have run (ac : ValkeyAsyncContext Fn Data) (cb : Callback Fn Data)
      (rest : List (Callback Fn Data)) :
      Ensures (runCallback ac cb none >>= fun result => .ok
        (if result.1 then .callback (.freeing rest) else .freeing rest, result.2))
        (fun _ => True) Over := by
    refine (runsFrom_runCallback ac cb none).bind fun result _ => ?_
    obtain ⟨entered, next⟩ := result
    cases entered with
    | true => exact .inr trivial
    | false => exact .inr trivial
  unfold freeCallbacks
  dsimp only
  split
  · exact run _ _ _
  · exact run _ _ _
  · exact run _ _ _
  · split
    · exact .inr trivial
    · exact .inr trivial

theorem over_afterConnect (next : Transfer) (failed : ac.cErr ≠ none) :
    Ensures (afterConnect order ac next) (fun _ => True) Over := by
  have kept {final : AsyncState Fn Data} (same : final.2.cErr = ac.cErr) : Over final := by
    rw [← same] at failed
    exact .inl failed
  unfold afterConnect
  split
  · refine (clock_valkeyAsyncDisconnect order .idle ac).mono fun final outcome => ?_
    rcases outcome with ended | ⟨_, same⟩
    · exact ended
    · exact kept same.cErr
  · split
    · rcases clock_valkeyAsyncFree order .idle ac with ended | ⟨_, same⟩
      · exact ended
      · exact kept same.cErr
    · refine (clock_transfer order ac next).mono fun final outcome => ?_
      rcases outcome with ended | ⟨_, same⟩
      · exact ended
      · obtain ⟨count, here⟩ := ac.refreshTimeout_eq
        have refreshed : ac.refreshTimeout.cErr = ac.cErr := by rw [here]
        exact kept (same.cErr.trans refreshed)

/-- A callback has returned. -/
theorem clock_afterCallback {resume : Resume Fn Data} (fits : ResumeConsistent ac resume)
    (connected : ∀ transfer, resume = .connected transfer → ac.cErr = none → ac.connected = true) :
    Ensures (afterCallback order { ac with inCallback := false } resume) (fun _ => True)
      (ClockStep (.callback resume, ac) .proceed) := by
  have returned : Untouched ac { ac with inCallback := false } :=
    ⟨⟨rfl, rfl, rfl, rfl, rfl, rfl⟩, rfl, rfl⟩
  cases resume with
  | connected next =>
      by_cases failed : ac.cErr ≠ none
      · exact (@over_afterConnect _ _ order { ac with inCallback := false } next failed).mono
          fun _ => .ended
      have established := connected next rfl (not_not.mp failed)
      have equal : { ac with connected := true } = ac := by rw [← established]
      refine clock_afterConnect order next established ?_
        (fun disconnecting final idle kept => ?_) rfl
        (fun timer => nomatch timer) (.inr ⟨next, rfl⟩)
      · dsimp only
        rw [equal]
        exact returned
      · have quiet : transfers (.callback (.connected next), ac) .proceed = false := by
          simp [transfers, show ac.disconnecting = true from disconnecting]
        exact .notConnected idle rfl ⟨next, rfl⟩ quiet
          ⟨returned.toSameClock.trans kept.toSameClock, kept.replies, kept.subReplies⟩
  | connectFailed =>
      exact (@over_valkeyAsyncDisconnectInternal _ _ order
        { ac with inCallback := false } fits).mono
        fun _ => .ended
  | connectTimeout => exact .ended (.inl fits)
  | timeout => exact .ended (.inl fits)
  | push => exact .pushed rfl rfl rfl returned
  | reply cb =>
      rcases handles_afterReply order cb { ac with inCallback := false } with ended | ⟨label, same⟩
      · exact .ended ended
      · exact .replied cb rfl rfl label (returned.toSameClock.trans same)
  | freeing subscriptions => exact .ended (.inr trivial)
  | disconnected => exact .ended (.inr trivial)

/-- One event. -/
theorem clock_asyncStep {state : AsyncState Fn Data} (event : AsyncEvent Fn Data)
    (consistent : Consistent False state)
    (connected : ∀ transfer, state.1 = .callback (.connected transfer) → state.2.cErr = none →
      state.2.connected = true) :
    Ensures (asyncStep order state event) (fun _ => True) (ClockStep state event) := by
  obtain ⟨label, ac⟩ := state
  cases label with
  | idle =>
      cases event with
      | command fn data cmd => exact clock_command fn data cmd
      | disconnect =>
          refine (clock_valkeyAsyncDisconnect order .idle ac).mono fun next outcome => ?_
          rcases outcome with ended | ⟨idle | ⟨_, idle⟩, same⟩
          · exact .ended ended
          · exact .stays idle rfl (fun timer => nomatch timer) same
          · exact .stays idle rfl (fun timer => nomatch timer) same
      | free =>
          rcases clock_valkeyAsyncFree order .idle ac with ended | ⟨idle, same⟩
          · exact .ended ended
          · exact .stays idle rfl (fun timer => nomatch timer) same
      | readable outcome input =>
          exact clock_valkeyAsyncHandle order outcome _ consistent.1
            (fun timer => nomatch timer) rfl
      | writable outcome output =>
          exact clock_valkeyAsyncHandle order outcome _ consistent.1
            (fun timer => nomatch timer) rfl
      | timer => exact clock_valkeyAsyncHandleTimeout ac
      | proceed => exact clock_same rfl fun timer => nomatch timer
  | callback resume =>
      have quiet {event : AsyncEvent Fn Data} (waits : event.isProceed = false) :
          transfers (.callback resume, ac) event = false := by
        cases resume with
        | connected next => cases event <;> first | rfl | cases waits
        | _ => rfl
      cases event with
      | command fn data cmd => exact clock_command fn data cmd
      | disconnect =>
          refine (clock_valkeyAsyncDisconnect order (.callback resume) ac).mono
            fun next outcome => ?_
          rcases outcome with ended | ⟨label | ⟨outside, _⟩, same⟩
          · exact .ended ended
          · exact .stays label (quiet rfl) (fun timer => nomatch timer) same
          · rw [consistent.1] at outside
            cases outside
      | free =>
          rcases clock_valkeyAsyncFree order (.callback resume) ac with ended | ⟨label, same⟩
          · exact .ended ended
          · exact .stays label (quiet rfl) (fun timer => nomatch timer) same
      | proceed =>
          refine clock_afterCallback order consistent.2 fun transfer same => ?_
          subst same
          exact connected transfer rfl
      | readable outcome input => exact clock_same (quiet rfl) fun timer => nomatch timer
      | writable outcome output => exact clock_same (quiet rfl) fun timer => nomatch timer
      | timer => exact clock_same (quiet rfl) fun _ idle => nomatch idle
  | processing =>
      cases event with
      | proceed => exact clock_valkeyProcessCallbacks order ac
      | _ => exact clock_same rfl fun _ idle => nomatch idle
  | timeout =>
      cases event with
      | proceed => exact (over_timeoutReplies order consistent.2).mono fun _ => .ended
      | _ => exact clock_same rfl fun _ idle => nomatch idle
  | freeing subscriptions =>
      cases event with
      | proceed => exact (over_freeCallbacks ac subscriptions).mono fun _ => .ended
      | _ => exact clock_same rfl fun _ idle => nomatch idle
  | gone => cases event <;> exact clock_same rfl fun _ idle => nomatch idle

/-- A context with an error keeps it, and one that is being freed does not come back. -/
theorem over_of_over {state next : AsyncState Fn Data} {event : AsyncEvent Fn Data}
    (step : ClockStep state event next) (ended : Over state) : Over next := by
  have refreshed (ac : ValkeyAsyncContext Fn Data) : ac.refreshTimeout.cErr = ac.cErr := by
    obtain ⟨count, same⟩ := ac.refreshTimeout_eq
    rw [same]
  have failed (same : next.2.cErr = state.2.cErr)
      (label : state.1 = next.1 ∨ state.1 = .idle ∨ state.1 = .processing ∨
        ∃ resume, state.1 = .callback resume ∧
          match resume with
          | .freeing _ | .disconnected => False
          | _ => True) : Over next := by
    rcases ended with error | freeing
    · rw [← same] at error
      exact .inl error
    · rcases label with label | label | label | ⟨resume, label, going⟩
      · rw [label] at freeing
        exact .inr freeing
      · rw [label] at freeing
        exact freeing.elim
      · rw [label] at freeing
        exact freeing.elim
      · rw [label] at freeing
        cases resume with
        | freeing subscriptions => exact going.elim
        | disconnected => exact going.elim
        | _ => exact freeing.elim
  cases step with
  | ended ended => exact ended
  | stays label quiet expiry same => exact failed same.cErr (.inl label.symm)
  | command fn data cmd submits label same kept waits =>
      exact failed (same.cErr.trans (refreshed _)) (.inl label.symm)
  | connects transfer label later before noTimer quiet same =>
        exact failed same.cErr (.inr (.inl label))
  | transfer noTimer before label connected same =>
      refine failed (same.cErr.trans (refreshed _)) ?_
      rcases before with idle | ⟨transfer, connecting⟩
      · exact .inr (.inl idle)
      · exact .inr (.inr (.inr ⟨_, connecting, trivial⟩))
  | idleExpiry fires label later empty same => exact failed same.cErr (.inr (.inl label))
  | aliveExpiry fires label later alive same =>
      exact failed (same.cErr.trans (refreshed _)) (.inr (.inl label))
  | reply reply rest label proceeds later same => exact failed same.cErr (.inr (.inr (.inl label)))
  | rests label proceeds later same => exact failed same.cErr (.inr (.inr (.inl label)))
  | pushed label proceeds later same =>
      exact failed same.cErr (.inr (.inr (.inr ⟨_, label, trivial⟩)))
  | replied cb label proceeds later same =>
      exact failed same.cErr (.inr (.inr (.inr ⟨_, label, trivial⟩)))
  | established here label before noTimer quiet same => exact failed same.cErr (.inr (.inl here))
  | notConnected label proceeds before quiet same =>
      obtain ⟨transfer, connecting⟩ := before
      exact failed same.cErr (.inr (.inr (.inr ⟨_, connecting, trivial⟩)))

end Events

end Libvalkey
