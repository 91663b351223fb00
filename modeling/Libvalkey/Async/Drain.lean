import Libvalkey.Async.Control
import Libvalkey.Cluster.NoDangling
import Libvalkey.Command.Table

/-! # The callbacks of a timeout

`valkeyAsyncHandleTimeout` gives `NULL` to the callbacks in `replies` until there are no more.
Commands are still accepted meanwhile. -/

namespace Libvalkey

open Checked

variable {Fn Data : Type}

/-- The loop of `valkeyAsyncHandleTimeout` runs, or a callback before or in it. -/
def AsyncLabel.isDraining : AsyncLabel Fn Data → Bool
  | .timeout | .callback .timeout | .callback .connectTimeout => true
  | _ => false

/-- The callback of the command would wait in `replies`. -/
def waitsForReply (ac : ValkeyAsyncContext Fn Data) (cmd : Bytes) : Bool :=
  match nextArgument cmd with
  | none => false
  | some first =>
      match commandKind first with
      | .subscribe => variantOf first.text == .sharded && !ac.isSubscribed
      | .unsubscribe => false
      | .monitor => true
      | .regular => !ac.isSubscribed

/-- A step while the loop runs. No callback submits a command that would be accepted and whose
callback would wait in the same queue. -/
def DrainsQuietly (state : AsyncState Fn Data) (event : AsyncEvent Fn Data) : Prop :=
  state.1.isDraining = true ∧
    match event with
    | .command _ _ cmd =>
        state.2.disconnecting = false → state.2.freeing = false → waitsForReply state.2 cmd = false
    | _ => True

instance (state : AsyncState Fn Data) (event : AsyncEvent Fn Data) :
    Decidable (DrainsQuietly state event) :=
  match event with
  | .command _ _ cmd =>
      inferInstanceAs (Decidable (state.1.isDraining = true ∧
        (state.2.disconnecting = false → state.2.freeing = false →
          waitsForReply state.2 cmd = false)))
  | .disconnect | .free | .readable _ _ | .writable _ _ | .timer | .proceed =>
      inferInstanceAs (Decidable (state.1.isDraining = true ∧ True))

def AsyncEvent.isProceed : AsyncEvent Fn Data → Bool
  | .proceed => true
  | _ => false

/-- The steps that the library has yet to take in the loop. -/
def drainSteps : AsyncState Fn Data → Nat
  | (.timeout, ac) => 2 * ac.replies.length + 1
  | (.callback _, ac) => 2 * ac.replies.length + 2
  | _ => 0

/-- What one step of the loop leaves: callbacks that are run leave the queue. -/
structure Drained (state : AsyncState Fn Data) (event : AsyncEvent Fn Data)
    (next : AsyncState Fn Data) : Prop where
  callbacks : next.2.served.length + next.2.replies.length ≤
    state.2.served.length + state.2.replies.length
  steps : drainSteps next + (if event.isProceed then 1 else 0) ≤ drainSteps state

section Drain

variable (order : IterationOrder) {ac : ValkeyAsyncContext Fn Data}

theorem replies_beside : BesideChannels fun ac : ValkeyAsyncContext Fn Data => ac.replies where
  setDict ac variant dict := by cases variant <;> rfl
  pendingUnsubs _ _ := rfl

/-- A command that would not wait leaves the queue. -/
theorem replies_registerCommand {registered : ValkeyAsyncContext Fn Data} {fn : Option Fn}
    {data : Data} {cmd : Bytes} {first : Argument} (found : nextArgument cmd = some first)
    (accepted : registerCommand ac fn data cmd first = some registered)
    (passes : waitsForReply ac cmd = false) : registered.replies = ac.replies := by
  unfold waitsForReply at passes
  rw [found] at passes
  dsimp only at passes
  have added := replies_beside.addChannels (variantOf first.text) (argumentsOf first.next)
    (newCallback ac.submitted.length fn data) { ac with isSubscribed := true }
  cases booked_of_accepted accepted with
  | sharded kind variant =>
      rw [kind] at passes
      have subscribed : ac.isSubscribed = true := by simpa [variant] using passes
      rw [subscribed]
      exact added
  | subscribe => exact added
  | unsubscribe => exact replies_beside.sendUnsubscribes _ _ ac
  | unsubscribeAll => exact replies_beside.unsubscribeAll _ ac
  | monitor kind =>
      rw [kind] at passes
      cases passes
  | regular kind =>
      rw [kind] at passes
      have subscribed : ac.isSubscribed = true := by simpa using passes
      rw [subscribed]
      rfl

theorem replies_valkeyAsyncAppendCmdLen (fn : Option Fn) (data : Data) {cmd : Bytes}
    (passes : ac.disconnecting = false → ac.freeing = false → waitsForReply ac cmd = false) :
    (valkeyAsyncAppendCmdLen ac fn data cmd).2.replies = ac.replies := by
  rcases valkeyAsyncAppendCmdLen_accepted ac fn data cmd with
    refused | ⟨⟨connected, kept⟩, first, registered, found, accepted, written⟩
  · rw [refused]
  · have same := replies_registerCommand found accepted (passes connected kept)
    obtain ⟨count, stored⟩ := registered.writeCommand_eq ⟨fn, data, cmd⟩
    rw [written, stored]
    exact same

/-- Neither the callbacks that were run nor the queue change. -/
theorem drained_same {state next : AsyncState Fn Data} {event : AsyncEvent Fn Data}
    (served : next.2.served = state.2.served) (replies : next.2.replies = state.2.replies)
    (steps : drainSteps next + (if event.isProceed then 1 else 0) ≤ drainSteps state) :
    Drained state event next := by
  refine ⟨?_, steps⟩
  rw [served, replies]

theorem drained_valkeyAsyncDisconnectInternal {state : AsyncState Fn Data}
    {event : AsyncEvent Fn Data} (served : ac.served = state.2.served)
    (replies : ac.replies = state.2.replies) (more : 0 < drainSteps state) :
    Ensures (valkeyAsyncDisconnectInternal order ac) (fun _ => True) (Drained state event) := by
  have steps (label : AsyncLabel Fn Data) (next : ValkeyAsyncContext Fn Data)
      (left : drainSteps (label, next) = 0) :
      drainSteps (label, next) + (if event.isProceed then 1 else 0) ≤ drainSteps state := by
    rw [left]
    split <;> omega
  unfold valkeyAsyncDisconnectInternal
  dsimp only
  split
  · trivial
  · split
    · split
      · exact drained_same served replies (steps _ _ rfl)
      · exact drained_same served replies (steps _ _ rfl)
    · split
      · exact drained_same served replies (steps _ _ rfl)
      · exact drained_same served replies (steps _ _ rfl)

theorem drained_timeoutReplies (ac : ValkeyAsyncContext Fn Data) :
    Ensures (timeoutReplies order ac) (fun _ => True) (Drained (.timeout, ac) .proceed) := by
  unfold timeoutReplies
  split
  · exact drained_valkeyAsyncDisconnectInternal order rfl rfl (Nat.succ_pos _)
  · rename_i cb rest queue
    by_cases sharded : cb.fn = some .ssubscribe
    · rw [runCallback_null_ssubscribe sharded]
      trivial
    · rw [runCallback_null sharded]
      have length : ac.replies.length = rest.length + 1 := by rw [queue, List.length_cons]
      have served : (ac.served ++ [(⟨cb, none⟩ : Served Fn Data)]).length + rest.length ≤
          ac.served.length + ac.replies.length := by
        rw [List.length_append, List.length_singleton, length]
        omega
      unfold ValkeyAsyncContext.cancel
      cases cb.fn with
      | none =>
          refine ⟨served, ?_⟩
          change 2 * rest.length + 1 + 1 ≤ 2 * ac.replies.length + 1
          omega
      | some fn =>
          refine ⟨served, ?_⟩
          change 2 * rest.length + 2 + 1 ≤ 2 * ac.replies.length + 1
          omega

/-- One step of the loop, or of a callback in it. -/
theorem drained_asyncStep {state : AsyncState Fn Data} {event : AsyncEvent Fn Data}
    (quiet : DrainsQuietly state event) :
    Ensures (asyncStep order state event) (fun _ => True) (Drained state event) := by
  obtain ⟨label, ac⟩ := state
  obtain ⟨draining, passes⟩ := quiet
  cases label with
  | timeout =>
      cases event with
      | proceed => exact drained_timeoutReplies order ac
      | _ => exact drained_same rfl rfl (Nat.le_refl _)
  | callback resume =>
      cases event with
      | command fn data cmd =>
          have replies := replies_valkeyAsyncAppendCmdLen fn data passes
          have served := (sameFlags_valkeyAsyncAppendCmdLen ac fn data cmd).served
          refine drained_same served replies ?_
          simp only [drainSteps, replies]
          exact Nat.le_refl _
      | disconnect =>
          unfold asyncStep valkeyAsyncDisconnect
          dsimp only
          split
          · exact drained_valkeyAsyncDisconnectInternal order rfl rfl (Nat.succ_pos _)
          · exact drained_same rfl rfl (Nat.le_refl _)
      | free =>
          unfold asyncStep valkeyAsyncFree
          dsimp only
          split
          · exact drained_same rfl rfl (Nat.le_refl _)
          · exact drained_same rfl rfl (Nat.zero_le _)
      | proceed =>
          cases resume with
          | timeout => exact drained_same rfl rfl (Nat.le_refl _)
          | connectTimeout => exact drained_same rfl rfl (Nat.le_refl _)
          | _ => cases draining
      | readable outcome input => exact drained_same rfl rfl (Nat.le_refl _)
      | writable outcome output => exact drained_same rfl rfl (Nat.le_refl _)
      | timer => exact drained_same rfl rfl (Nat.le_refl _)
  | _ => cases draining

/-- A run of the loop, from any state. -/
theorem drained_run {state final : AsyncState Fn Data} (events : List (AsyncEvent Fn Data))
    (quiet : EveryStep order DrainsQuietly state events)
    (run : asyncRun order state events = .ok final) :
    final.2.served.length + final.2.replies.length ≤
        state.2.served.length + state.2.replies.length ∧
      events.countP AsyncEvent.isProceed ≤ drainSteps state := by
  induction events generalizing state with
  | nil =>
      cases run
      exact ⟨Nat.le_refl _, Nat.zero_le _⟩
  | cons event events induction =>
      unfold asyncRun at run
      cases step : asyncStep order state event with
      | error fault =>
          rw [step] at run
          cases run
      | ok next =>
          rw [step] at run
          have drained := (drained_asyncStep order quiet.1).of_ok step
          obtain ⟨callbacks, steps⟩ := induction (quiet.2 next step) run
          refine ⟨Nat.le_trans callbacks drained.callbacks, ?_⟩
          have once := drained.steps
          rw [List.countP_cons]
          omega

/-- The timer gives no callback anything yet. -/
theorem timer_keeps {fired drained : AsyncState Fn Data}
    (fires : asyncStep order fired .timer = .ok drained) :
    drained.2.served = fired.2.served ∧ drained.2.replies = fired.2.replies := by
  obtain ⟨label, ac⟩ := fired
  cases label with
  | idle =>
      obtain rfl := Except.ok.inj fires
      unfold valkeyAsyncHandleTimeout
      split
      · exact ⟨rfl, rfl⟩
      · split
        · exact ⟨rfl, rfl⟩
        · split
          · obtain ⟨count, refreshed⟩ := ValkeyAsyncContext.refreshTimeout_eq
              { ac with timeoutReplyCount := none }
            rw [refreshed]
            exact ⟨rfl, rfl⟩
          · obtain ⟨failure, err, same⟩ := setTimeoutError_spec ac
            dsimp only
            rw [same]
            split
            · exact ⟨rfl, rfl⟩
            · exact ⟨rfl, rfl⟩
  | _ =>
      obtain rfl := Except.ok.inj fires
      exact ⟨rfl, rfl⟩

theorem drainSteps_le (state : AsyncState Fn Data) :
    drainSteps state ≤ 2 * state.2.replies.length + 2 := by
  obtain ⟨label, ac⟩ := state
  cases label with
  | timeout => exact Nat.le_succ _
  | callback resume => exact Nat.le_refl _
  | _ => exact Nat.zero_le _

/-- Where no callback submits a command that waits in the same queue, the loop of
`valkeyAsyncHandleTimeout` runs no more callbacks than waited when the timeout fired, and ends. -/
theorem timeoutDrain_bounded {fired drained final : AsyncState Fn Data}
    (fires : asyncStep order fired .timer = .ok drained) (events : List (AsyncEvent Fn Data))
    (quiet : EveryStep order DrainsQuietly drained events)
    (run : asyncRun order drained events = .ok final) :
    final.2.served.length ≤ fired.2.served.length + fired.2.replies.length ∧
      events.countP AsyncEvent.isProceed ≤ 2 * fired.2.replies.length + 2 := by
  obtain ⟨served, replies⟩ := timer_keeps order fires
  obtain ⟨callbacks, steps⟩ := drained_run order events quiet run
  have bound := drainSteps_le drained
  rw [replies] at callbacks bound
  rw [served] at callbacks
  constructor
  · omega
  · exact Nat.le_trans steps bound

end Drain

/-! ## A callback that submits its command again -/

def pingAgain : AsyncEvent Nat Nat := .command (some 1) 1 (valkeyFormatCommandArgv [literal "PING"])

def timeoutOptions : AsyncOptions :=
  { defaultOptions with hasTimer := true, commandTimeout := true }

/-- One callback waits. -/
def pingWaits : ValkeyAsyncContext Nat Nat :=
  { valkeyAsyncInitialize Nat Nat timeoutOptions with
    connected := true
    replies := [newCallback 0 (some 1) 1]
    timeoutReplyCount := some 0 }

theorem timeoutDrain_bounded_ping :
    ∃ final, asyncRun inOrder (.timeout, setTimeoutError pingWaits) [.proceed, .proceed, .proceed] =
        .ok final ∧ final.2.served.length ≤ 1 := by
  have ends : passes (asyncRun inOrder (.timeout, setTimeoutError pingWaits)
      [.proceed, .proceed, .proceed]) (fun _ => true) = true := by decide +kernel
  obtain ⟨final, run, _⟩ := exists_of_passes ends
  exact ⟨final, run, (@timeoutDrain_bounded Nat Nat inOrder (.idle, pingWaits) _ _ rfl
    [.proceed, .proceed, .proceed] (by decide +kernel) run).1⟩

/-- A command is sent on a context with a timeout, and nothing is heard from the server. -/
def pingSent : List (AsyncEvent Nat Nat) := [pingAgain, .writable .done (.written 14)]

/-- The callback submits the command again, twice. -/
def pingResent : List (AsyncEvent Nat Nat) :=
  [.proceed, pingAgain, .proceed, .proceed, pingAgain, .proceed]

/-- Only one callback waited, and it was run twice, and waits again. -/
theorem pingResent_drains :
    ∃ fired drained final,
      asyncRun inOrder (.idle, valkeyAsyncInitialize Nat Nat timeoutOptions) pingSent = .ok fired ∧
      asyncStep inOrder fired .timer = .ok drained ∧
      asyncRun inOrder drained pingResent = .ok final ∧
      fired.2.served.length + fired.2.replies.length < final.2.served.length ∧
      final.2.replies ≠ [] := by
  have waits :
      passes (asyncRun inOrder (.idle, valkeyAsyncInitialize Nat Nat timeoutOptions) pingSent)
      (fun state => state.2.served.length + state.2.replies.length == 1) = true := by decide +kernel
  have resent : passes (asyncRun inOrder (.idle, valkeyAsyncInitialize Nat Nat timeoutOptions)
      (pingSent ++ .timer :: pingResent))
      (fun state => state.2.served.length == 2 && !state.2.replies.isEmpty) = true := by
    decide +kernel
  obtain ⟨fired, run, one⟩ := exists_of_passes waits
  rw [asyncRun_append inOrder run, asyncRun] at resent
  cases step : asyncStep inOrder fired .timer with
  | error fault =>
      rw [step] at resent
      cases resent
  | ok drained =>
      rw [step] at resent
      obtain ⟨final, runLater, known⟩ := exists_of_passes resent
      simp only [Bool.and_eq_true, beq_iff_eq, Bool.not_eq_true',
        List.isEmpty_eq_false_iff] at one known
      refine ⟨fired, drained, final, run, step, runLater, ?_, known.2⟩
      omega

end Libvalkey
