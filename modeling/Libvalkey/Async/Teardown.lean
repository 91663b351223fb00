import Libvalkey.Async.Drain
import Libvalkey.Async.Entries

/-! # Tearing a context down

Every callback that a context holds when it is freed is given `NULL`, once. The function that
waits for the first reply to a sharded subscription is the only one that can not be given
`NULL`. -/

namespace Libvalkey

open Checked

variable {Fn Data : Type}

/-- The callbacks that a context holds. -/
def pendingCallbacks (ac : ValkeyAsyncContext Fn Data) : List (Callback Fn Data) :=
  ac.replies ++ ac.subReplies ++
    (Dictionary.values ac.channels ++ Dictionary.values ac.patterns ++
      Dictionary.values ac.schannels)

/-- No callback waits for the first reply to a sharded subscription. -/
def NoSharded (callbacks : List (Callback Fn Data)) : Prop :=
  ∀ cb ∈ callbacks, cb.fn ≠ some .ssubscribe

/-- Callbacks that were given `NULL`. -/
def cancelled (callbacks : List (Callback Fn Data)) : List (Served Fn Data) :=
  callbacks.map fun cb => ⟨cb, none⟩

/-- Whatever the user does, no assertion fails once the context is being freed, callbacks are
given `NULL` once, and the context is gone after the last of them. -/
def TearsDown (order : IterationOrder) (ac : ValkeyAsyncContext Fn Data) : Prop :=
  ∀ events, ∃ final done rest,
    asyncRun order (valkeyAsyncFreeInternal order ac) events = .ok final ∧
    (done ++ rest).Perm (pendingCallbacks ac) ∧
    final.2.served = ac.served ++ cancelled done ∧
    (2 * (pendingCallbacks ac).length + 2 ≤ events.countP AsyncEvent.isProceed →
      final.1 = .gone ∧ rest = [])

/-- No assertion fails while the callbacks in `replies` are given `NULL`, once and in their
order, and the loop ends when there are no more. -/
def DrainsAll (order : IterationOrder) (state : AsyncState Fn Data)
    (events : List (AsyncEvent Fn Data)) : Prop :=
  ∃ final done, asyncRun order state events = .ok final ∧
    final.2.served = state.2.served ++ cancelled done ∧
    state.2.replies <+: done ++ final.2.replies ∧
    (final.1.isDraining = false → final.2.replies = [])

/-- The loop runs, or a callback in it, and the next callback can be given `NULL`. -/
def DrainsRegular (state : AsyncState Fn Data) (_ : AsyncEvent Fn Data) : Prop :=
  state.1.isDraining = true ∧ ∀ cb ∈ state.2.replies.head?, cb.fn ≠ some .ssubscribe

instance (state : AsyncState Fn Data) (event : AsyncEvent Fn Data) [DecidableEq Fn] :
    Decidable (DrainsRegular state event) :=
  inferInstanceAs (Decidable (state.1.isDraining = true ∧
    ∀ cb ∈ state.2.replies.head?, cb.fn ≠ some .ssubscribe))

/-! ## The loops of `valkeyAsyncFreeInternal` -/

/-- The context is being freed, or it is gone. -/
def AsyncLabel.isFreeing : AsyncLabel Fn Data → Bool
  | .freeing _ | .callback (.freeing _) | .callback .disconnected | .gone => true
  | _ => false

/-- The callbacks that have yet to be given `NULL`. -/
def leftToFree : AsyncState Fn Data → List (Callback Fn Data)
  | (.freeing subscriptions, ac) | (.callback (.freeing subscriptions), ac) =>
      ac.replies ++ ac.subReplies ++ subscriptions
  | _ => []

/-- The steps that the library has yet to take. -/
def freeSteps : AsyncState Fn Data → Nat
  | (.freeing subscriptions, ac) => 2 * (ac.replies ++ ac.subReplies ++ subscriptions).length + 2
  | (.callback (.freeing subscriptions), ac) =>
      2 * (ac.replies ++ ac.subReplies ++ subscriptions).length + 3
  | (.callback .disconnected, _) => 1
  | _ => 0

/-- What the freeing of a context leaves: callbacks that were given `NULL` are no longer left. -/
structure Freed (state : AsyncState Fn Data) (proceeds : Nat)
    (next : AsyncState Fn Data) : Prop where
  freeing : next.1.isFreeing = true
  callbacks : ∃ done, leftToFree state = done ++ leftToFree next ∧ NoSharded done ∧
    next.2.served = state.2.served ++ cancelled done
  steps : freeSteps next ≤ freeSteps state - proceeds

section Freeing

variable (order : IterationOrder) {ac : ValkeyAsyncContext Fn Data}

/-- Nothing is given to a callback. -/
theorem freed_same {state next : AsyncState Fn Data} {proceeds : Nat}
    (freeing : next.1.isFreeing = true) (left : leftToFree next = leftToFree state)
    (served : next.2.served = state.2.served)
    (steps : freeSteps next ≤ freeSteps state - proceeds) : Freed state proceeds next := by
  refine ⟨freeing, ⟨[], ?_, fun _ member => absurd member List.not_mem_nil, ?_⟩, steps⟩
  · rw [left, List.nil_append]
  · rw [served]
    exact (List.append_nil _).symm

theorem Freed.trans {state middle next : AsyncState Fn Data} {first second : Nat}
    (before : Freed state first middle) (after : Freed middle second next) :
    Freed state (first + second) next := by
  obtain ⟨done, left, regular, served⟩ := before.callbacks
  obtain ⟨more, leftAfter, regularAfter, servedAfter⟩ := after.callbacks
  have fewer := before.steps
  have fewerAfter := after.steps
  refine ⟨after.freeing, ⟨done ++ more, ?_, fun cb member => ?_, ?_⟩, by omega⟩
  · rw [left, leftAfter, List.append_assoc]
  · rcases List.mem_append.mp member with member | member
    · exact regular cb member
    · exact regularAfter cb member
  · rw [servedAfter, served, cancelled, cancelled, cancelled, List.map_append, List.append_assoc]

/-- A callback is given `NULL`. The context has lost it already. -/
theorem freed_runCallback {popped : ValkeyAsyncContext Fn Data} {state : AsyncState Fn Data}
    {cb : Callback Fn Data} {subscriptions : List (Callback Fn Data)}
    (left : leftToFree state = cb :: (popped.replies ++ popped.subReplies ++ subscriptions))
    (served : popped.served = state.2.served)
    (steps : freeSteps state = 2 * (leftToFree state).length + 2) :
    Ensures (do
      let (entered, ac) ← runCallback popped cb none
      (.ok (if entered then .callback (.freeing subscriptions) else .freeing subscriptions, ac) :
        Except AsyncFault (AsyncState Fn Data)))
      (fun _ => ¬NoSharded (leftToFree state)) (Freed state 1) := by
  by_cases sharded : cb.fn = some .ssubscribe
  · rw [runCallback_null_ssubscribe sharded]
    intro regular
    have member : cb ∈ leftToFree state := by
      rw [left]
      exact List.mem_cons_self
    exact regular cb member sharded
  · rw [runCallback_null sharded]
    have regular : NoSharded [cb] := by
      intro other member
      rw [List.mem_singleton.mp member]
      exact sharded
    rw [left, List.length_cons] at steps
    unfold ValkeyAsyncContext.cancel
    cases cb.fn with
    | none =>
        refine ⟨rfl, ⟨[cb], left, regular, ?_⟩, ?_⟩
        · exact congrArg (· ++ _) served
        · rw [steps]
          change 2 * (popped.replies ++ popped.subReplies ++ subscriptions).length + 2 ≤ _
          omega
    | some fn =>
        refine ⟨rfl, ⟨[cb], left, regular, ?_⟩, ?_⟩
        · exact congrArg (· ++ _) served
        · rw [steps]
          change 2 * (popped.replies ++ popped.subReplies ++ subscriptions).length + 3 ≤ _
          omega

theorem freed_freeCallbacks (ac : ValkeyAsyncContext Fn Data)
    (subscriptions : List (Callback Fn Data)) :
    Ensures (freeCallbacks ac subscriptions)
      (fun _ => ¬NoSharded (leftToFree (.freeing subscriptions, ac)))
      (Freed (.freeing subscriptions, ac) 1) := by
  unfold freeCallbacks
  dsimp only
  split
  · rename_i cb rest queue
    apply freed_runCallback
    · simp [leftToFree, queue]
    · rfl
    · rfl
  · rename_i cb rest replies queue
    apply freed_runCallback
    · simp [leftToFree, replies, queue]
    · rfl
    · rfl
  · rename_i cb rest replies queue
    apply freed_runCallback
    · simp [leftToFree, replies, queue]
    · rfl
    · rfl
  · rename_i replies subReplies
    have empty : leftToFree (.freeing [], ac) = [] := by simp [leftToFree, replies, subReplies]
    have steps : 1 ≤ freeSteps (.freeing [], ac) - 1 := by simp [freeSteps]
    split
    · exact freed_same rfl empty.symm rfl steps
    · exact freed_same rfl empty.symm rfl (Nat.zero_le _)

/-- One event. A fault means that some callback is one that can not be given `NULL`. -/
theorem freed_asyncStep {state : AsyncState Fn Data} (event : AsyncEvent Fn Data)
    (consistent : Consistent False state) (freeing : state.1.isFreeing = true) :
    Ensures (asyncStep order state event) (fun _ => ¬NoSharded (leftToFree state))
      (Freed state (if event.isProceed then 1 else 0)) := by
  obtain ⟨label, ac⟩ := state
  have inCallback {resume : Resume Fn Data} (known : LabelConsistent False ac (.callback resume)) :
      ¬(¬ac.inCallback = true ∧ ac.replies = []) := fun both => both.1 known.1
  cases label with
  | freeing subscriptions =>
      cases event with
      | proceed => exact freed_freeCallbacks ac subscriptions
      | _ => exact freed_same freeing rfl rfl (Nat.le_refl _)
  | callback resume =>
      have closed : ac.Closed := by
        cases resume with
        | freeing subscriptions => exact consistent.2
        | disconnected => exact consistent.2.1
        | _ => cases freeing
      cases event with
      | command fn data cmd =>
          unfold asyncStep
          dsimp only
          rw [valkeyAsyncAppendCmdLen_closed closed]
          exact freed_same freeing rfl rfl (Nat.le_refl _)
      | disconnect =>
          unfold asyncStep valkeyAsyncDisconnect
          dsimp only
          rw [if_neg (inCallback consistent)]
          cases resume with
          | freeing subscriptions => exact freed_same rfl rfl rfl (Nat.le_refl _)
          | disconnected => exact freed_same rfl rfl rfl (Nat.le_refl _)
          | _ => cases freeing
      | free =>
          unfold asyncStep valkeyAsyncFree
          dsimp only
          rw [if_pos consistent.1]
          cases resume with
          | freeing subscriptions => exact freed_same rfl rfl rfl (Nat.le_refl _)
          | disconnected => exact freed_same rfl rfl rfl (Nat.le_refl _)
          | _ => cases freeing
      | proceed =>
          cases resume with
          | freeing subscriptions => exact freed_same rfl rfl rfl (Nat.le_refl _)
          | disconnected => exact freed_same rfl rfl rfl (Nat.zero_le _)
          | _ => cases freeing
      | readable outcome input => exact freed_same freeing rfl rfl (Nat.le_refl _)
      | writable outcome output => exact freed_same freeing rfl rfl (Nat.le_refl _)
      | timer => exact freed_same freeing rfl rfl (Nat.le_refl _)
  | gone => cases event <;> exact freed_same rfl rfl rfl (Nat.zero_le _)
  | _ => cases freeing

theorem noSharded_of_append {left right : List (Callback Fn Data)}
    (regular : NoSharded (left ++ right)) :
    NoSharded right := fun cb member => regular cb (List.mem_append_right left member)

/-- A run of a context that is being freed. -/
theorem freed_asyncRun {state : AsyncState Fn Data} (events : List (AsyncEvent Fn Data))
    (consistent : Consistent False state) (freeing : state.1.isFreeing = true) :
    Ensures (asyncRun order state events) (fun _ => ¬NoSharded (leftToFree state))
      (Freed state (events.countP AsyncEvent.isProceed)) := by
  induction events generalizing state with
  | nil => exact freed_same freeing rfl rfl (Nat.le_refl _)
  | cons event events induction =>
      have kept := keepsConsistent_asyncStep order event consistent fun impossible =>
        impossible.elim
      have step := (freed_asyncStep order event consistent freeing).computed
      rw [asyncRun, List.countP_cons, Nat.add_comm]
      refine step.bind fun next reached => ?_
      obtain ⟨computed, first⟩ := reached
      have later := induction (kept.of_ok computed) first.freeing
      refine (later.mono fun final second => first.trans second).allow
        fun fault sharded regular => ?_
      obtain ⟨done, left, _⟩ := first.callbacks
      rw [left] at regular
      exact sharded (noSharded_of_append regular)

end Freeing

/-! ## The loop of `valkeyAsyncHandleTimeout` -/

/-- What the loop leaves: the callbacks that were given `NULL` were the first in the queue. -/
structure Cancelled (state next : AsyncState Fn Data) : Prop where
  callbacks : ∃ done, next.2.served = state.2.served ++ cancelled done ∧
    state.2.replies <+: done ++ next.2.replies
  ends : next.1.isDraining = false → next.2.replies = []

section Timeout

variable (order : IterationOrder) {ac : ValkeyAsyncContext Fn Data}

/-- Nothing is given to a callback. -/
theorem cancelled_same {state next : AsyncState Fn Data} (served : next.2.served = state.2.served)
    (replies : state.2.replies <+: next.2.replies)
    (ends : next.1.isDraining = false → next.2.replies = []) : Cancelled state next := by
  refine ⟨⟨[], ?_, replies⟩, ends⟩
  rw [served]
  exact (List.append_nil _).symm

theorem Cancelled.trans {state middle next : AsyncState Fn Data} (before : Cancelled state middle)
    (after : Cancelled middle next) : Cancelled state next := by
  obtain ⟨done, served, replies⟩ := before.callbacks
  obtain ⟨more, servedAfter, repliesAfter⟩ := after.callbacks
  refine ⟨⟨done ++ more, ?_, ?_⟩, after.ends⟩
  · rw [servedAfter, served, cancelled, cancelled, cancelled, List.map_append, List.append_assoc]
  · rw [List.append_assoc]
    exact replies.trans ((List.prefix_append_right_inj done).mpr repliesAfter)

theorem prefix_of_same {before after : List (Callback Fn Data)} (same : after = before) :
    before <+: after := same ▸ List.prefix_rfl

theorem pushCallback_grows (toSubReplies : Bool) (ac : ValkeyAsyncContext Fn Data)
    (cb : Callback Fn Data) : ac.replies <+: (pushCallback toSubReplies ac cb).replies := by
  cases toSubReplies with
  | true => exact List.prefix_rfl
  | false => exact List.prefix_append ac.replies [cb]

theorem registerCommand_prefix {registered : ValkeyAsyncContext Fn Data} {fn : Option Fn}
    {data : Data} {cmd : Bytes} {first : Argument}
    (accepted : registerCommand ac fn data cmd first = some registered) :
    ac.replies <+: registered.replies := by
  have added := replies_beside.addChannels (variantOf first.text) (argumentsOf first.next)
    (newCallback ac.submitted.length fn data) { ac with isSubscribed := true }
  have replies := prefix_of_same added
  cases booked_of_accepted accepted with
  | sharded => exact replies.trans (pushCallback_grows _ _ _)
  | subscribe => exact replies
  | unsubscribe => exact prefix_of_same (replies_beside.sendUnsubscribes _ _ ac)
  | unsubscribeAll => exact prefix_of_same (replies_beside.unsubscribeAll _ ac)
  | monitor => exact pushCallback_grows false _ _
  | regular => exact pushCallback_grows _ ac _

/-- A command leaves the callbacks that wait in front. -/
theorem valkeyAsyncAppendCmdLen_grows (ac : ValkeyAsyncContext Fn Data) (fn : Option Fn)
    (data : Data)
    (cmd : Bytes) : ac.replies <+: (valkeyAsyncAppendCmdLen ac fn data cmd).2.replies := by
  rcases valkeyAsyncAppendCmdLen_accepted ac fn data cmd with
    refused | ⟨_, first, registered, _, accepted, written⟩
  · exact prefix_of_same (congrArg (·.replies) refused)
  · have replies := registerCommand_prefix accepted
    obtain ⟨count, stored⟩ := registered.writeCommand_eq ⟨fn, data, cmd⟩
    rw [written, stored]
    exact replies

/-- The assertion is about a context without an error. -/
theorem ensures_valkeyAsyncDisconnectInternal (clean : ac.cErr = none → ac.replies = []) :
    Ensures (valkeyAsyncDisconnectInternal order ac) (fun _ => False) fun next =>
      next.1.isDraining = false ∧ next.2.served = ac.served ∧ next.2.replies = ac.replies := by
  unfold valkeyAsyncDisconnectInternal
  dsimp only
  split
  · rename_i failed
    exact failed.2 (clean failed.1)
  · split <;> split <;> exact ⟨rfl, rfl, rfl⟩

theorem cancelled_timeoutReplies
    (regular : ∀ cb ∈ ac.replies.head?, cb.fn ≠ some .ssubscribe) :
    Ensures (timeoutReplies order ac) (fun _ => False) (Cancelled (.timeout, ac)) := by
  unfold timeoutReplies
  split
  · rename_i empty
    refine (ensures_valkeyAsyncDisconnectInternal order fun _ => empty).mono
      fun next ⟨_, served, replies⟩ => ?_
    refine cancelled_same served (prefix_of_same replies) fun _ => ?_
    rw [replies, empty]
  · rename_i cb rest queue
    have first : cb ∈ ac.replies.head? := by
      rw [queue]
      rfl
    rw [runCallback_null (regular cb first)]
    have popped : ac.replies <+: [cb] ++ rest := prefix_of_same queue.symm
    unfold ValkeyAsyncContext.cancel
    cases cb.fn with
    | none => exact ⟨⟨[cb], rfl, popped⟩, fun draining => nomatch draining⟩
    | some fn => exact ⟨⟨[cb], rfl, popped⟩, fun draining => nomatch draining⟩

/-- One step of the loop, or of a callback in it. -/
theorem cancelled_asyncStep {state : AsyncState Fn Data} {event : AsyncEvent Fn Data}
    (consistent : Consistent False state) (drains : DrainsRegular state event) :
    Ensures (asyncStep order state event) (fun _ => False) (Cancelled state) := by
  obtain ⟨label, ac⟩ := state
  obtain ⟨draining, regular⟩ := drains
  have stays {next : ValkeyAsyncContext Fn Data} (served : next.served = ac.served)
      (replies : ac.replies <+: next.replies) : Cancelled (label, ac) (label, next) := by
    refine cancelled_same served replies fun ended => ?_
    rw [draining] at ended
    cases ended
  cases label with
  | timeout =>
      cases event with
      | proceed => exact cancelled_timeoutReplies order regular
      | _ => exact stays rfl List.prefix_rfl
  | callback resume =>
      have inside : ¬(¬ac.inCallback = true ∧ ac.replies = []) := fun both => both.1 consistent.1
      cases event with
      | command fn data cmd =>
          have same := sameFlags_valkeyAsyncAppendCmdLen ac fn data cmd
          exact stays same.served (valkeyAsyncAppendCmdLen_grows ac fn data cmd)
      | disconnect =>
          unfold asyncStep valkeyAsyncDisconnect
          dsimp only
          rw [if_neg inside]
          exact stays rfl List.prefix_rfl
      | free =>
          unfold asyncStep valkeyAsyncFree
          dsimp only
          rw [if_pos consistent.1]
          exact stays rfl List.prefix_rfl
      | proceed =>
          cases resume with
          | timeout => exact cancelled_same rfl List.prefix_rfl fun ended => nomatch ended
          | connectTimeout => exact cancelled_same rfl List.prefix_rfl fun ended => nomatch ended
          | _ => cases draining
      | readable outcome input => exact stays rfl List.prefix_rfl
      | writable outcome output => exact stays rfl List.prefix_rfl
      | timer => exact stays rfl List.prefix_rfl
  | _ => cases draining

theorem cancelled_asyncRun {state : AsyncState Fn Data} (events : List (AsyncEvent Fn Data))
    (consistent : Consistent False state) (drains : EveryStep order DrainsRegular state events)
    (draining : state.1.isDraining = true) :
    Ensures (asyncRun order state events) (fun _ => False) (Cancelled state) := by
  induction events generalizing state with
  | nil =>
      refine cancelled_same rfl List.prefix_rfl fun ended => ?_
      rw [draining] at ended
      cases ended
  | cons event events induction =>
      have kept := keepsConsistent_asyncStep order event consistent fun impossible =>
        impossible.elim
      refine (cancelled_asyncStep order consistent drains.1).computed.bind
        fun next ⟨computed, first⟩ => ?_
      have later := drains.2 next computed
      cases events with
      | nil => exact first
      | cons second rest =>
          exact (induction (kept.of_ok computed) later later.1.1).mono fun final after =>
            first.trans after

end Timeout

/-! ## Every step but the handling of replies -/

section Entering

variable (order : IterationOrder) {ac : ValkeyAsyncContext Fn Data}

/-- No assertion fails. -/
def GoesOn (computation : Except AsyncFault (AsyncState Fn Data)) : Prop :=
  ∃ next, computation = .ok next

theorem goesOn_of_ensures {computation : Except AsyncFault (AsyncState Fn Data)}
    {post : AsyncState Fn Data → Prop} (ensures : Ensures computation (fun _ => False) post) :
    GoesOn computation := by
  cases computation with
  | ok next => exact ⟨next, rfl⟩
  | error fault => exact ensures.elim

theorem goesOn_valkeyAsyncDisconnectInternal (clean : ac.cErr = none → ac.replies = []) :
    GoesOn (valkeyAsyncDisconnectInternal order ac) :=
  goesOn_of_ensures (ensures_valkeyAsyncDisconnectInternal order clean)

/-- There is an error. -/
theorem goesOn_failed (failed : ac.cErr ≠ none) : GoesOn (valkeyAsyncDisconnectInternal order ac) :=
  goesOn_valkeyAsyncDisconnectInternal order fun clean => absurd clean failed

theorem goesOn_valkeyAsyncDisconnect (label : AsyncLabel Fn Data)
    (ac : ValkeyAsyncContext Fn Data) : GoesOn (valkeyAsyncDisconnect order label ac) := by
  unfold valkeyAsyncDisconnect
  dsimp only
  split
  · rename_i now
    exact goesOn_valkeyAsyncDisconnectInternal order fun _ => now.2
  · exact ⟨_, rfl⟩

theorem goesOn_transfer (ac : ValkeyAsyncContext Fn Data) (next : Transfer) :
    GoesOn (transfer order ac next) := by
  have broken (err : ContextError) :
      GoesOn (valkeyAsyncDisconnectInternal order { ac with cErr := some (ac.cErr.getD err) }) :=
    goesOn_failed order (Option.some_ne_none _)
  rcases next with (⟨more, failure⟩ | err) | (count | err)
  · unfold transfer valkeyAsyncRead
    dsimp only
    split
    · rename_i failed
      exact goesOn_failed order (Option.isSome_iff_ne_none.mp failed)
    · exact ⟨_, rfl⟩
  · exact broken err
  · unfold transfer valkeyAsyncWrite
    dsimp only
    split
    · rename_i failed
      exact goesOn_failed order (Option.isSome_iff_ne_none.mp failed)
    · exact ⟨_, rfl⟩
  · exact broken err

theorem goesOn_afterConnect (ac : ValkeyAsyncContext Fn Data) (next : Transfer) :
    GoesOn (afterConnect order ac next) := by
  unfold afterConnect
  split
  · exact goesOn_valkeyAsyncDisconnect order .idle ac
  · split
    · exact ⟨_, rfl⟩
    · exact goesOn_transfer order ac next

theorem goesOn_valkeyAsyncHandle (ac : ValkeyAsyncContext Fn Data) (outcome : ConnectOutcome)
    (next : Transfer) : GoesOn (valkeyAsyncHandle order ac outcome next) := by
  unfold valkeyAsyncHandle valkeyAsyncHandleConnect
  split
  · exact goesOn_transfer order ac next
  · cases outcome with
    | pending => exact ⟨_, rfl⟩
    | failed err =>
        dsimp only
        split
        · exact ⟨_, rfl⟩
        · exact goesOn_failed order (Option.some_ne_none err)
    | noDelay err =>
        dsimp only
        split
        · exact ⟨_, rfl⟩
        · exact goesOn_failed order (Option.some_ne_none err)
    | done =>
        dsimp only
        split
        · exact ⟨_, rfl⟩
        · exact goesOn_afterConnect order _ next

theorem goesOn_afterCallback {resume : Resume Fn Data} (fits : ResumeConsistent ac resume) :
    GoesOn (afterCallback order ac resume) := by
  cases resume with
  | connected next => exact goesOn_afterConnect order ac next
  | connectFailed => exact goesOn_failed order fits
  | _ => exact ⟨_, rfl⟩

/-- Nothing is left to read. -/
theorem goesOn_valkeyProcessCallbacks (empty : ac.reader = []) :
    GoesOn (valkeyProcessCallbacks order ac) := by
  unfold valkeyProcessCallbacks
  rw [empty]
  dsimp only
  split
  · exact goesOn_failed order (Option.some_ne_none _)
  · split
    · rename_i done
      exact goesOn_valkeyAsyncDisconnectInternal order fun _ => done.2.2
    · exact ⟨_, rfl⟩

/-- The library handles no reply, is not freeing the context, and is not about to give `NULL`
to a callback that can not be given it. -/
def EntersTeardown : AsyncState Fn Data → Prop
  | (.processing, ac) => ac.reader = []
  | (.timeout, ac) => ∀ cb ∈ ac.replies.head?, cb.fn ≠ some .ssubscribe
  | (.freeing _, _) => False
  | _ => True

theorem goesOn_asyncStep {state : AsyncState Fn Data} (event : AsyncEvent Fn Data)
    (consistent : Consistent False state) (enters : EntersTeardown state) :
    GoesOn (asyncStep order state event) := by
  obtain ⟨label, ac⟩ := state
  have stays : GoesOn (.ok (label, ac)) := ⟨_, rfl⟩
  cases label with
  | idle =>
      cases event with
      | disconnect => exact goesOn_valkeyAsyncDisconnect order .idle ac
      | readable outcome input => exact goesOn_valkeyAsyncHandle order ac outcome _
      | writable outcome output => exact goesOn_valkeyAsyncHandle order ac outcome _
      | _ => exact ⟨_, rfl⟩
  | callback resume =>
      cases event with
      | disconnect => exact goesOn_valkeyAsyncDisconnect order (.callback resume) ac
      | proceed =>
          have fits : ResumeConsistent { ac with inCallback := false } resume := by
            have known := consistent.2
            cases resume <;> exact known
          exact goesOn_afterCallback order fits
      | _ => exact ⟨_, rfl⟩
  | processing =>
      cases event with
      | proceed => exact goesOn_valkeyProcessCallbacks order enters
      | _ => exact stays
  | timeout =>
      cases event with
      | proceed => exact goesOn_of_ensures (cancelled_timeoutReplies order enters)
      | _ => exact stays
  | freeing subscriptions => exact enters.elim
  | gone => cases event <;> exact stays

end Entering

/-! ## Every way of tearing a context down -/

section Teardown

variable (order : IterationOrder) {ac : ValkeyAsyncContext Fn Data}

theorem noSharded_values (plain : PlainEntries ac) (variant : Variant) :
    NoSharded (Dictionary.values (ac.dict variant)) := by
  intro cb member
  obtain ⟨⟨name, value⟩, stored, same⟩ := List.mem_map.mp member
  subst same
  exact plain variant name value (AList.mem_lookup_iff.mpr stored)

theorem leftToFree_perm (ac : ValkeyAsyncContext Fn Data) :
    (leftToFree (valkeyAsyncFreeInternal order ac)).Perm (pendingCallbacks ac) := by
  have channels := order.perm (Dictionary.values ac.channels)
  have patterns := order.perm (Dictionary.values ac.patterns)
  have schannels := order.perm (Dictionary.values ac.schannels)
  exact ((channels.append patterns).append schannels).append_left _

theorem noSharded_leftToFree (plain : PlainEntries ac) :
    NoSharded (leftToFree (valkeyAsyncFreeInternal order ac)) ↔
      NoSharded (ac.replies ++ ac.subReplies) := by
  have perm := leftToFree_perm order ac
  constructor
  · intro regular cb member
    exact regular cb (perm.mem_iff.mpr (List.mem_append_left _ member))
  · intro regular cb member
    have pending := perm.mem_iff.mp member
    rcases List.mem_append.mp pending with queued | subscribed
    · exact regular cb queued
    · rcases List.mem_append.mp subscribed with unsharded | sharded
      · rcases List.mem_append.mp unsharded with channel | pattern
        · exact noSharded_values plain .channel cb channel
        · exact noSharded_values plain .pattern cb pattern
      · exact noSharded_values plain .sharded cb sharded

/-- No step is left for a context that is gone. -/
theorem gone_of_freeSteps {state : AsyncState Fn Data} (freeing : state.1.isFreeing = true)
    (done : freeSteps state = 0) : state.1 = .gone := by
  obtain ⟨label, ac⟩ := state
  cases label with
  | gone => rfl
  | freeing subscriptions => cases done
  | callback resume =>
      cases resume with
      | freeing subscriptions => cases done
      | disconnected => cases done
      | _ => cases freeing
  | _ => cases freeing

theorem leftToFree_gone {state : AsyncState Fn Data} (gone : state.1 = .gone) :
    leftToFree state = [] := by
  obtain ⟨label, ac⟩ := state
  dsimp only at gone
  rw [gone]
  rfl

/-- A context that holds no callback of a sharded subscription is torn down, and no other is. -/
theorem tearsDown_iff (plain : PlainEntries ac)
    (consistent : Consistent False (valkeyAsyncFreeInternal order ac)) :
    TearsDown order ac ↔ NoSharded (ac.replies ++ ac.subReplies) := by
  have perm := leftToFree_perm order ac
  have freed (events : List (AsyncEvent Fn Data)) := freed_asyncRun order events consistent rfl
  rw [← noSharded_leftToFree order plain]
  constructor
  · intro safe
    have enough : 2 * (pendingCallbacks ac).length + 2 ≤
        (List.replicate (2 * (pendingCallbacks ac).length + 2)
          (@AsyncEvent.proceed Fn Data)).countP AsyncEvent.isProceed := by
      rw [List.countP_replicate]
      exact Nat.le_refl _
    obtain ⟨final, _, _, run, _, _, ends⟩ := safe _
    obtain ⟨done, left, regular, _⟩ := ((freed _).of_ok run).callbacks
    rw [leftToFree_gone (ends enough).1, List.append_nil] at left
    rw [left]
    exact regular
  · intro regular events
    have outcome := freed events
    cases run : asyncRun order (valkeyAsyncFreeInternal order ac) events with
    | error fault =>
        rw [run] at outcome
        exact absurd regular outcome
    | ok final =>
        rw [run] at outcome
        obtain ⟨freeing, ⟨done, left, _, served⟩, steps⟩ := outcome
        refine ⟨final, done, leftToFree final, rfl, ?_, served, fun enough => ?_⟩
        · rw [← left]
          exact perm
        · have length : (leftToFree (valkeyAsyncFreeInternal order ac)).length =
              (pendingCallbacks ac).length := perm.length_eq
          have start : freeSteps (valkeyAsyncFreeInternal order ac) =
              2 * (leftToFree (valkeyAsyncFreeInternal order ac)).length + 2 := rfl
          have gone := gone_of_freeSteps freeing (by omega)
          exact ⟨gone, leftToFree_gone gone⟩

end Teardown

/-! ## A sharded subscription that waits for its first reply -/

def subscribeNews : AsyncEvent Nat Nat :=
  .command (some 1) 1 (valkeyFormatCommandArgv [literal "SUBSCRIBE", literal "news"])

def pingEvent : AsyncEvent Nat Nat := .command (some 2) 2 (valkeyFormatCommandArgv [literal "PING"])

/-- A subscription and a command wait. -/
def subscribedAndPing : ValkeyAsyncContext Nat Nat :=
  match asyncRun inOrder (.idle, valkeyAsyncInitialize Nat Nat defaultOptions)
      [subscribeNews, pingEvent] with
  | .ok state => { state.2 with freeing := true }
  | .error _ => valkeyAsyncInitialize Nat Nat defaultOptions

def ssubscribeNews : AsyncEvent Nat Nat :=
  .command (some 1) 1 (valkeyFormatCommandArgv [literal "SSUBSCRIBE", literal "news"])

end Libvalkey
