import Libvalkey.Async.Control
import Libvalkey.Cluster.NoDangling
import Libvalkey.Command.Table

/-! # Freeing a context from a callback

`valkeyAsyncFree` in a callback only sets a flag. Where the library looks at the flag, the
context is gone before the event has been handled, and only `NULL` is given to callbacks. -/

namespace Libvalkey

open Checked

variable {Fn Data : Type}

/-- A step of a context that is to be freed gives `NULL` only, and no pushed message. -/
def GivesNull (order : IterationOrder) (state : AsyncState Fn Data) (event : AsyncEvent Fn Data) :
    Prop :=
  state.2.freeing = true → ∀ next, asyncStep order state event = .ok next →
    (∃ more, next.2.served = state.2.served ++ more ∧ ∀ entry ∈ more, entry.reply = none) ∧
      (next.1 = .callback .push → state.1 = .callback .push)

section Silent

variable (order : IterationOrder) {ac : ValkeyAsyncContext Fn Data}

/-- Only `NULL` was given, and no pushed message. -/
def Silent (ac : ValkeyAsyncContext Fn Data) (next : AsyncState Fn Data) : Prop :=
  (∃ more, next.2.served = ac.served ++ more ∧ ∀ entry ∈ more, entry.reply = none) ∧
    next.1 ≠ .callback .push

theorem silent_same {next : AsyncState Fn Data} (served : next.2.served = ac.served)
    (label : next.1 ≠ .callback .push) : Silent ac next := by
  refine ⟨⟨[], ?_, fun _ member => absurd member List.not_mem_nil⟩, label⟩
  rw [served, List.append_nil]

theorem silent_valkeyAsyncDisconnectInternal (ac : ValkeyAsyncContext Fn Data) :
    Ensures (valkeyAsyncDisconnectInternal order ac) (fun _ => True) (Silent ac) := by
  unfold valkeyAsyncDisconnectInternal
  dsimp only
  split
  · trivial
  · split
    · split
      · exact silent_same rfl (by simp)
      · exact silent_same rfl (by simp [valkeyAsyncFreeInternal])
    · split
      · exact silent_same rfl (by simp)
      · exact silent_same rfl (by simp [valkeyAsyncFreeInternal])

/-- A callback that is given `NULL`. -/
theorem silent_runCallback (ac : ValkeyAsyncContext Fn Data) (cb : Callback Fn Data)
    (labels : Bool → AsyncLabel Fn Data)
    (other : ∀ entered, labels entered ≠ .callback .push) :
    Ensures (do
      let (entered, ac) ← runCallback ac cb none
      (.ok (labels entered, ac) : Except AsyncFault (AsyncState Fn Data))) (fun _ => True)
      (Silent ac) := by
  by_cases sharded : cb.fn = some .ssubscribe
  · rw [runCallback_null_ssubscribe sharded]
    trivial
  · rw [runCallback_null sharded]
    refine ⟨⟨[⟨cb, none⟩], ?_, fun entry member => ?_⟩, other _⟩
    · dsimp only
      split <;> rfl
    · rw [List.mem_singleton.mp member]

theorem silent_timeoutReplies (ac : ValkeyAsyncContext Fn Data) :
    Ensures (timeoutReplies order ac) (fun _ => True) (Silent ac) := by
  unfold timeoutReplies
  split
  · exact silent_valkeyAsyncDisconnectInternal order ac
  · rename_i cb rest _
    refine silent_runCallback { ac with replies := rest } cb
      (fun entered => if entered then .callback .timeout else .timeout)
      fun entered => ?_
    cases entered <;> simp

theorem silent_freeCallbacks (ac : ValkeyAsyncContext Fn Data)
    (subscriptions : List (Callback Fn Data)) :
    Ensures (freeCallbacks ac subscriptions) (fun _ => True) (Silent ac) := by
  have run (ac : ValkeyAsyncContext Fn Data) (cb : Callback Fn Data)
      (rest : List (Callback Fn Data)) :=
    silent_runCallback ac cb
      (fun entered => if entered then .callback (.freeing rest) else .freeing rest)
      fun entered => by cases entered <;> simp
  unfold freeCallbacks
  dsimp only
  split
  · exact run _ _ _
  · exact run _ _ _
  · exact run _ _ _
  · split
    · exact silent_same rfl (by simp)
    · exact silent_same rfl (by simp)

theorem silent_afterCallback {resume : Resume Fn Data} (freeing : ac.freeing = true)
    (looks : missesFree (.callback resume, ac) .proceed = false) :
    Ensures (afterCallback order ac resume) (fun _ => True) (Silent ac) := by
  cases resume with
  | connected next =>
      unfold afterCallback afterConnect
      dsimp only
      split
      · unfold valkeyAsyncDisconnect
        dsimp only
        split
        · exact silent_valkeyAsyncDisconnectInternal order _
        · exact silent_same rfl (by simp)
      · unfold valkeyAsyncFree
        dsimp only
        split
        · exact silent_same rfl (by simp)
        · exact silent_same rfl (by simp [valkeyAsyncFreeInternal])
  | connectFailed => exact silent_valkeyAsyncDisconnectInternal order ac
  | connectTimeout => exact silent_same rfl (by simp)
  | timeout => exact silent_same rfl (by simp)
  | push => cases looks
  | reply cb =>
      unfold afterCallback afterReply
      dsimp only
      rw [if_pos freeing]
      exact silent_same rfl (by simp [valkeyAsyncFreeInternal])
  | freeing subscriptions => exact silent_same rfl (by simp)
  | disconnected => exact silent_same rfl (by simp)

theorem givesNull_of_silent {state : AsyncState Fn Data} {event : AsyncEvent Fn Data}
    (silent : Ensures (asyncStep order state event) (fun _ => True) (Silent state.2)) :
    GivesNull order state event := by
  intro _ next step
  obtain ⟨more, other⟩ := silent.of_ok step
  exact ⟨more, fun push => absurd push other⟩

/-- Nothing was given, and the label stays. -/
theorem givesNull_same {state : AsyncState Fn Data} {event : AsyncEvent Fn Data}
    (same : Ensures (asyncStep order state event) (fun _ => True)
      fun next => next.2.served = state.2.served ∧ next.1 = state.1) :
        GivesNull order state event := by
  intro _ next step
  obtain ⟨served, label⟩ := same.of_ok step
  refine ⟨⟨[], ?_, fun _ member => absurd member List.not_mem_nil⟩, fun push => ?_⟩
  · rw [served, List.append_nil]
  · rw [← label, push]

theorem givesNull_asyncStep {state : AsyncState Fn Data} {event : AsyncEvent Fn Data}
    (consistent : Consistent True state) (inTime : FreesInTime state event) :
    GivesNull order state event := by
  intro freeing
  have looks := inTime freeing
  revert freeing
  obtain ⟨label, ac⟩ := state
  have unchanged {event : AsyncEvent Fn Data}
      (ignored : asyncStep order (label, ac) event = .ok (label, ac)) :
      GivesNull order (label, ac) event := by
    apply givesNull_same
    rw [ignored]
    exact ⟨rfl, rfl⟩
  cases label with
  | idle =>
      intro freeing
      have kept := consistent.2 trivial
      rw [freeing] at kept
      cases kept
  | processing =>
      intro freeing
      have kept := consistent.2 trivial
      rw [freeing] at kept
      cases kept
  | callback resume =>
      cases event with
      | command fn data cmd =>
          apply givesNull_same
          exact ⟨(sameFlags_valkeyAsyncAppendCmdLen ac fn data cmd).served, rfl⟩
      | disconnect =>
          have inside : ¬(¬ac.inCallback = true ∧ ac.replies = []) :=
            fun both => both.1 consistent.1
          apply givesNull_same
          unfold asyncStep valkeyAsyncDisconnect
          dsimp only
          rw [if_neg inside]
          exact ⟨rfl, rfl⟩
      | free =>
          apply givesNull_same
          unfold asyncStep valkeyAsyncFree
          dsimp only
          rw [if_pos consistent.1]
          exact ⟨rfl, rfl⟩
      | proceed =>
          intro freeing
          refine givesNull_of_silent order ?_ freeing
          have silent :=
            @silent_afterCallback _ _ order { ac with inCallback := false } resume freeing
            (by cases resume <;> exact looks)
          exact silent
      | readable outcome input => exact unchanged rfl
      | writable outcome output => exact unchanged rfl
      | timer => exact unchanged rfl
  | timeout =>
      cases event with
      | proceed => exact givesNull_of_silent order (silent_timeoutReplies order ac)
      | _ => exact unchanged rfl
  | freeing subscriptions =>
      cases event with
      | proceed => exact givesNull_of_silent order (silent_freeCallbacks ac subscriptions)
      | _ => exact unchanged rfl
  | gone => cases event <;> exact unchanged rfl

/-- Where the library looks at the flag, the context is gone when an event has been handled,
and until then only `NULL` is given to callbacks. -/
theorem asyncRun_freesInTime (options : AsyncOptions) (events : List (AsyncEvent Fn Data))
    (inTime : EveryStep order FreesInTime (.idle, valkeyAsyncInitialize Fn Data options) events) :
    EveryStep order (GivesNull order) (.idle, valkeyAsyncInitialize Fn Data options) events ∧
      ∀ state, asyncRun order (.idle, valkeyAsyncInitialize Fn Data options) events = .ok state →
        state.1 = .idle → state.2.freeing = false := by
  have initial : Consistent True (.idle, valkeyAsyncInitialize Fn Data options) :=
    consistent_valkeyAsyncInitialize options
  have preserves (state : AsyncState Fn Data) (event : AsyncEvent Fn Data)
      (next : AsyncState Fn Data)
      (consistent : Consistent True state) (inTime : FreesInTime state event)
      (step : asyncStep order state event = .ok next) : Consistent True next :=
    (keepsConsistent_asyncStep order event consistent fun _ => inTime).of_ok step
  obtain ⟨silent, consistent⟩ := EveryStep.invariant order
    (fun _ _ => givesNull_asyncStep order) preserves events initial inTime
  refine ⟨silent, fun state run idle => ?_⟩
  obtain ⟨label, ac⟩ := state
  dsimp only at idle
  subst idle
  exact (consistent _ run).2 trivial

end Silent

/-! ## A function for pushed messages that frees the context -/

def pushOptions : AsyncOptions := { defaultOptions with pushCb := true }

def pingCommand : Bytes := valkeyFormatCommandArgv [literal "PING"]

/-- An invalidation message, and the reply to `PING`. -/
def pushAndPong : Input :=
  .replies [.aggregate .push [.string (literal "invalidate"), .nil .null],
    .status (literal "PONG")] none

/-- The callback of a command frees the context. -/
def freeInReply : List (AsyncEvent Nat Nat) :=
  [.command (some 1) 1 pingCommand, .writable .done (.written 14), .readable .pending pushAndPong,
    .proceed, .proceed, .proceed, .free, .proceed, .proceed]

theorem asyncRun_freesInTime_reply :
    EveryStep inOrder (GivesNull inOrder) (.idle, valkeyAsyncInitialize Nat Nat pushOptions)
        freeInReply ∧
      ∀ state, asyncRun inOrder (.idle, valkeyAsyncInitialize Nat Nat pushOptions) freeInReply =
        .ok state → state.1 = .idle → state.2.freeing = false :=
  asyncRun_freesInTime inOrder pushOptions freeInReply (by decide +kernel)

/-- The function for pushed messages frees the context. -/
def freeInPush : List (AsyncEvent Nat Nat) :=
  [.command (some 1) 1 pingCommand, .writable .done (.written 14), .readable .pending pushAndPong,
    .proceed, .free]

/-- There is nothing after the pushed message. -/
def freeInLastPush : List (AsyncEvent Nat Nat) :=
  [.writable .done (.written 0),
    .readable .pending
      (.replies [.aggregate .push [.string (literal "invalidate"), .nil .null]] none),
    .proceed, .free, .proceed, .proceed]

/-- The callback of the command still gets its reply, and a context with nothing more to read
goes on to wait for events. -/
theorem freeInPush_replies :
    (∃ freed state,
      asyncRun inOrder (.idle, valkeyAsyncInitialize Nat Nat pushOptions) freeInPush = .ok freed ∧
      freed.2.freeing = true ∧ freed.2.served = [] ∧
      asyncRun inOrder freed [.proceed, .proceed] = .ok state ∧
      ∃ entry ∈ state.2.served, entry.reply ≠ none) ∧
    ∃ state,
      asyncRun inOrder (.idle, valkeyAsyncInitialize Nat Nat pushOptions) freeInLastPush =
        .ok state ∧
      state.1 = .idle ∧ state.2.freeing = true := by
  have freed :
      passes (asyncRun inOrder (.idle, valkeyAsyncInitialize Nat Nat pushOptions) freeInPush)
      (fun state => state.2.freeing && state.2.served.isEmpty) = true := by decide +kernel
  have replied : passes (asyncRun inOrder (.idle, valkeyAsyncInitialize Nat Nat pushOptions)
      (freeInPush ++ [.proceed, .proceed]))
      (fun state => state.2.served.any fun entry => entry.reply.isSome) = true := by decide +kernel
  have waiting : passes (asyncRun inOrder (.idle, valkeyAsyncInitialize Nat Nat pushOptions)
      freeInLastPush) (fun state => state.1.isIdle && state.2.freeing) = true := by decide +kernel
  constructor
  · obtain ⟨freed, run, known⟩ := exists_of_passes freed
    simp only [Bool.and_eq_true, List.isEmpty_iff] at known
    rw [asyncRun_append inOrder run] at replied
    obtain ⟨state, runLater, later⟩ := exists_of_passes replied
    obtain ⟨entry, member, replied⟩ := List.any_eq_true.mp later
    exact ⟨freed, state, run, known.1, known.2, runLater, entry, member,
      Option.isSome_iff_ne_none.mp replied⟩
  · obtain ⟨state, run, known⟩ := exists_of_passes waiting
    simp only [Bool.and_eq_true] at known
    exact ⟨state, run, AsyncLabel.eq_idle known.1, known.2⟩

end Libvalkey
