import Libvalkey.Async.Control

/-! # Contexts that are closed

The library submits no commands of its own, and a context that is to be disconnected or
freed stays so. -/

namespace Libvalkey

open Checked

variable {Fn Data : Type}

/-- Nothing was submitted, and a closed context was not opened. -/
structure Passive (ac next : ValkeyAsyncContext Fn Data) : Prop where
  submitted : next.submitted = ac.submitted
  closed : ac.Closed → next.Closed

namespace Passive

variable {ac next final : ValkeyAsyncContext Fn Data}

theorem refl (ac : ValkeyAsyncContext Fn Data) : Passive ac ac := ⟨rfl, id⟩

theorem trans (first : Passive ac next) (second : Passive next final) : Passive ac final :=
  ⟨second.submitted.trans first.submitted, second.closed ∘ first.closed⟩

theorem of_flags (submitted : next.submitted = ac.submitted)
    (disconnecting : next.disconnecting = ac.disconnecting) (freeing : next.freeing = ac.freeing) :
    Passive ac next := by
  refine ⟨submitted, fun closed => ?_⟩
  unfold ValkeyAsyncContext.Closed
  rw [disconnecting, freeing]
  exact closed

theorem of_control (same : next.control = ac.control) : Passive ac next :=
  of_flags (congrArg (·.submitted) same) (congrArg (·.disconnecting) same)
    (congrArg (·.freeing) same)

end Passive

section Closing

variable (order : IterationOrder) (ac : ValkeyAsyncContext Fn Data)

/-- A computation that leaves a context passive. -/
abbrev KeepsPassive (computation : Except AsyncFault (AsyncState Fn Data)) : Prop :=
  Ensures computation (fun _ => True) fun next => Passive ac next.2

variable {ac}

theorem KeepsPassive.after {before : ValkeyAsyncContext Fn Data}
    {computation : Except AsyncFault (AsyncState Fn Data)} (first : Passive before ac)
    (second : KeepsPassive ac computation) : KeepsPassive before computation :=
  second.mono fun _ passive => first.trans passive

theorem passive_runCallback (cb : Callback Fn Data) (reply : Option ReplyTree) :
    Ensures (runCallback ac cb reply) (fun _ => True) fun result => Passive ac result.2 :=
  (runsFrom_runCallback ac cb reply).mono fun _ runs => .of_control runs.1

/-! ## Disconnecting -/

theorem keepsPassive_disconnectInternal :
    KeepsPassive ac (valkeyAsyncDisconnectInternal order ac) := by
  have copied : Passive ac { ac with err := ac.cErr } := .of_flags rfl rfl rfl
  have closed : Passive ac { ac with err := ac.cErr, disconnecting := true } :=
    ⟨rfl, fun _ => .inl rfl⟩
  unfold valkeyAsyncDisconnectInternal
  dsimp only
  split
  · trivial
  split
  · split
    · exact copied
    · exact copied
  · split
    · exact closed
    · exact closed

/-- After `valkeyAsyncDisconnect` the context is closed. -/
theorem disconnect_closes (label : AsyncLabel Fn Data) :
    Ensures (valkeyAsyncDisconnect order label ac) (fun _ => True) fun next =>
      Passive ac next.2 ∧ next.2.Closed := by
  have marked : Passive ac { ac with disconnecting := true, noAutoFree := false } :=
    ⟨rfl, fun _ => .inl rfl⟩
  have closed : ({ ac with disconnecting := true, noAutoFree := false } :
      ValkeyAsyncContext Fn Data).Closed := .inl rfl
  unfold valkeyAsyncDisconnect
  dsimp only
  split
  · exact (keepsPassive_disconnectInternal order).mono fun next passive =>
      ⟨marked.trans passive, passive.closed closed⟩
  · exact ⟨marked, closed⟩

/-- So it is after `valkeyAsyncFree`. -/
theorem free_closes (label : AsyncLabel Fn Data) :
    Passive ac (valkeyAsyncFree order label ac).2 ∧ (valkeyAsyncFree order label ac).2.Closed := by
  have freed : Passive ac { ac with freeing := true } := ⟨rfl, fun _ => .inr rfl⟩
  unfold valkeyAsyncFree
  dsimp only
  split
  · exact ⟨freed, .inr rfl⟩
  · exact ⟨freed, .inr rfl⟩

/-! ## Replies -/

theorem passive_afterReply (cb : Callback Fn Data) : Passive ac (afterReply order cb ac).2 := by
  unfold afterReply
  split
  · exact .refl ac
  · exact .of_control (sameControl_repush cb ac).control

theorem keepsPassive_deliverReply (cb : Callback Fn Data) (reply : ReplyTree) :
    KeepsPassive ac (deliverReply order ac cb reply) := by
  unfold deliverReply
  split
  · exact .of_control (sameControl_repush cb (ac.serve cb (some reply))).control
  · apply (passive_runCallback cb (some reply)).bind
    rintro ⟨entered, next⟩ passive
    dsimp only
    split
    · exact passive
    · exact passive.trans (passive_afterReply order cb)

theorem keepsPassive_unexpectedReply (reply : ReplyTree) :
    KeepsPassive ac (unexpectedReply order ac reply) := by
  have failed (err : ContextError) :
      KeepsPassive ac (valkeyAsyncDisconnectInternal order { ac with cErr := some err }) := by
    have marked : Passive ac { ac with cErr := some err } := .of_flags rfl rfl rfl
    exact KeepsPassive.after marked (keepsPassive_disconnectInternal order)
  unfold unexpectedReply
  split
  · split
    · split
      · rename_i cb rest _ _
        have left : Passive ac { ac with subReplies := rest } := .of_flags rfl rfl rfl
        exact KeepsPassive.after left (keepsPassive_deliverReply order cb _)
      · exact failed _
    · exact failed _
  · split
    · trivial
    · apply (sameControl_valkeyGetSubscribeCallback ac reply).bind
      rintro ⟨cb, next⟩ same
      exact KeepsPassive.after (.of_control same.control) (keepsPassive_deliverReply order cb reply)

theorem keepsPassive_processReply (reply : ReplyTree) :
    KeepsPassive ac (processReply order ac reply) := by
  unfold processReply
  split
  · split
    · exact .of_flags rfl rfl rfl
    · exact .refl ac
  split
  · rename_i cb rest _
    have left : Passive ac { ac with replies := rest } := .of_flags rfl rfl rfl
    exact KeepsPassive.after left (keepsPassive_deliverReply order cb reply)
  · exact keepsPassive_unexpectedReply order reply

theorem keepsPassive_processCallbacks : KeepsPassive ac (valkeyProcessCallbacks order ac) := by
  unfold valkeyProcessCallbacks
  split
  · rename_i reply rest _
    have received : Passive ac (receiveReply ac reply rest) := .of_flags rfl rfl rfl
    exact KeepsPassive.after received (keepsPassive_processReply order reply)
  split
  · rename_i err _
    have failed : Passive ac { ac with cErr := some err } := .of_flags rfl rfl rfl
    exact KeepsPassive.after failed (keepsPassive_disconnectInternal order)
  split
  · exact keepsPassive_disconnectInternal order
  · exact .refl ac

/-! ## Events -/

theorem passive_refreshTimeout : Passive ac ac.refreshTimeout := by
  obtain ⟨count, refreshed⟩ := ac.refreshTimeout_eq
  rw [refreshed]
  exact .of_flags rfl rfl rfl

theorem keepsPassive_transfer (next : Transfer) : KeepsPassive ac (transfer order ac next) := by
  have broken (err : ContextError) : KeepsPassive ac
      (valkeyAsyncDisconnectInternal order { ac with cErr := some (ac.cErr.getD err) }) := by
    have failed : Passive ac { ac with cErr := some (ac.cErr.getD err) } := .of_flags rfl rfl rfl
    exact KeepsPassive.after failed (keepsPassive_disconnectInternal order)
  rcases next with (⟨more, failure⟩ | err) | (count | err)
  · unfold transfer valkeyAsyncRead
    dsimp only
    split
    · exact keepsPassive_disconnectInternal order
    · have read : Passive ac { ac with reader := ac.reader ++ more, readerErr := failure } :=
        .of_flags rfl rfl rfl
      exact read.trans passive_refreshTimeout
  · exact broken err
  · unfold transfer valkeyAsyncWrite
    dsimp only
    split
    · exact keepsPassive_disconnectInternal order
    · have written : Passive ac { ac with obuf := ac.obuf.drop count } := .of_flags rfl rfl rfl
      exact written.trans passive_refreshTimeout
  · exact broken err

theorem keepsPassive_afterConnect (next : Transfer) :
    KeepsPassive ac (afterConnect order ac next) := by
  unfold afterConnect
  split
  · exact (disconnect_closes order .idle).mono fun _ closes => closes.1
  split
  · exact (free_closes order .idle).1
  · exact keepsPassive_transfer order next

theorem keepsPassive_handle (outcome : ConnectOutcome) (next : Transfer) :
    KeepsPassive ac (valkeyAsyncHandle order ac outcome next) := by
  have failed {changed : ValkeyAsyncContext Fn Data} (passive : Passive ac changed) :
      KeepsPassive ac (if changed.onConnect then .ok (.callback .connectFailed, changed.enter)
        else valkeyAsyncDisconnectInternal order changed) := by
    split
    · exact passive.trans (.of_flags rfl rfl rfl)
    · exact KeepsPassive.after passive (keepsPassive_disconnectInternal order)
  unfold valkeyAsyncHandle valkeyAsyncHandleConnect
  split
  · exact keepsPassive_transfer order next
  cases outcome with
  | pending => exact .refl ac
  | failed err => exact failed (.of_flags rfl rfl rfl)
  | noDelay err => exact failed (.of_flags rfl rfl rfl)
  | done =>
      have connected : Passive ac { ac with connected := true } := .of_flags rfl rfl rfl
      dsimp only
      split
      · exact connected.trans (.of_flags rfl rfl rfl)
      · exact KeepsPassive.after connected (keepsPassive_afterConnect order next)

theorem passive_handleTimeout : Passive ac (valkeyAsyncHandleTimeout ac).2 := by
  have expired : Passive ac (setTimeoutError ac) := by
    unfold setTimeoutError
    dsimp only
    split
    · exact .refl ac
    · exact .of_flags rfl rfl rfl
  unfold valkeyAsyncHandleTimeout
  split
  · exact .of_flags rfl rfl rfl
  split
  · exact .refl ac
  split
  · have cleared : Passive ac { ac with timeoutReplyCount := none } := .of_flags rfl rfl rfl
    exact cleared.trans passive_refreshTimeout
  dsimp only
  split
  · exact expired.trans (.of_flags rfl rfl rfl)
  · exact expired

theorem keepsPassive_timeoutReplies : KeepsPassive ac (timeoutReplies order ac) := by
  unfold timeoutReplies
  split
  · exact keepsPassive_disconnectInternal order
  · rename_i cb rest _
    have left : Passive ac { ac with replies := rest } := .of_flags rfl rfl rfl
    apply (passive_runCallback cb none).bind
    exact fun result passive => left.trans passive

theorem keepsPassive_freeCallbacks (subscriptions : List (Callback Fn Data)) :
    KeepsPassive ac (freeCallbacks ac subscriptions) := by
  have run {changed : ValkeyAsyncContext Fn Data} (passive : Passive ac changed)
      (cb : Callback Fn Data) (label : Bool → AsyncLabel Fn Data) :
      KeepsPassive ac
        (runCallback changed cb none >>= fun result => .ok (label result.1, result.2)) := by
    apply (passive_runCallback cb none).bind
    exact fun result later => passive.trans later
  unfold freeCallbacks
  dsimp only
  split
  · rename_i cb rest _
    have left : Passive ac { ac with replies := rest } := .of_flags rfl rfl rfl
    exact run left cb fun entered => if entered then .callback (.freeing _) else .freeing _
  · rename_i cb rest _ _
    have left : Passive ac { ac with subReplies := rest } := .of_flags rfl rfl rfl
    exact run left cb fun entered => if entered then .callback (.freeing _) else .freeing _
  · exact run (.refl ac) _ fun entered => if entered then .callback (.freeing _) else .freeing _
  · split
    · exact .of_flags rfl rfl rfl
    · exact .refl ac

theorem keepsPassive_afterCallback (resume : Resume Fn Data) :
    KeepsPassive ac (afterCallback order ac resume) := by
  cases resume with
  | connected next => exact keepsPassive_afterConnect order next
  | connectFailed => exact keepsPassive_disconnectInternal order
  | connectTimeout => exact .refl ac
  | timeout => exact .refl ac
  | push => exact .refl ac
  | reply cb => exact passive_afterReply order cb
  | freeing subscriptions => exact .refl ac
  | disconnected => exact .refl ac

/-- What the event library reports and what the library does submit nothing, and neither
opens a closed context. -/
theorem keepsPassive_asyncStep (state : AsyncState Fn Data) {event : AsyncEvent Fn Data}
    (library : ∀ fn data cmd, event ≠ .command fn data cmd) :
    KeepsPassive state.2 (asyncStep order state event) := by
  obtain ⟨label, ac⟩ := state
  have closes (label : AsyncLabel Fn Data) : KeepsPassive ac
      (valkeyAsyncDisconnect order label ac) :=
    (disconnect_closes order label).mono fun _ closed => closed.1
  unfold asyncStep
  dsimp only
  split
  · exact absurd rfl (library _ _ _)
  · exact absurd rfl (library _ _ _)
  · exact closes _
  · exact closes _
  · exact (free_closes order _).1
  · exact (free_closes order _).1
  · exact keepsPassive_handle order _ _
  · exact keepsPassive_handle order _ _
  · exact passive_handleTimeout
  · have returned : Passive ac { ac with inCallback := false } := .of_flags rfl rfl rfl
    exact KeepsPassive.after returned (keepsPassive_afterCallback order _)
  · exact keepsPassive_processCallbacks order
  · exact keepsPassive_timeoutReplies order
  · exact keepsPassive_freeCallbacks _
  · exact .refl ac

end Closing

end Libvalkey
