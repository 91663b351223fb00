import Libvalkey.Async.Clock
import Libvalkey.Foundation.Runs
import Libvalkey.Cluster.NoDangling
import Libvalkey.Command.Table

/-! # The timer of a context

A context together with the timer that the event library runs for it. `scheduleTimer` starts the
timer, and it expires once. Whether an expiry is a timeout depends on what has happened since the
timer was started. -/

namespace Libvalkey

open Checked

variable {Fn Data : Type}

/-- A timer that runs: the callbacks that waited when it was started, and how many replies had
been processed. -/
structure ArmedTimer (Fn Data : Type) where
  waiting : List (Callback Fn Data)
  processed : Nat

/-- `started` tells whether a `valkeyAsyncRead` or `valkeyAsyncWrite` has been completed. -/
structure TimedState (Fn Data : Type) where
  state : AsyncState Fn Data
  timer : Option (ArmedTimer Fn Data)
  started : Bool

def AsyncEvent.isTimer : AsyncEvent Fn Data → Bool
  | .timer => true
  | _ => false

/-- The step calls `scheduleTimer` for an established connection: `refreshTimeout` is the only
function that activates the counter, and it starts the timer when it does. -/
def schedules (state : AsyncState Fn Data) (event : AsyncEvent Fn Data)
    (next : AsyncState Fn Data) : Bool :=
  next.2.timeoutReplyCount == some 0 &&
    (state.2.timeoutReplyCount.isNone ||
      (event.isTimer && state.1.isIdle && state.2.timeoutReplyCount != some 0))

def ArmedTimer.now (ac : ValkeyAsyncContext Fn Data) : ArmedTimer Fn Data where
  waiting := ac.waiting
  processed := ac.processed.length

/-- The timer after a step: started, expired, or still running. -/
def timerAfter (timed : TimedState Fn Data) (event : AsyncEvent Fn Data)
    (next : AsyncState Fn Data) : Option (ArmedTimer Fn Data) :=
  if schedules timed.state event next then some (.now next.2)
  else if event.isTimer && timed.state.1.isIdle then none
  else timed.timer

/-- One event. The timer of an established connection expires only if it runs. -/
def timedStep (order : IterationOrder) (timed : TimedState Fn Data) (event : AsyncEvent Fn Data) :
    Except AsyncFault (TimedState Fn Data) :=
  if event.isTimer && timed.state.1.isIdle && timed.state.2.connected && timed.timer.isNone then
    .ok timed
  else do
    let next ← asyncStep order timed.state event
    .ok
      { state := next
        timer := timerAfter timed event next
        started := timed.started || (transfers timed.state event && next.2.cErr.isNone) }

/-- A new context, for which no timer runs. -/
def timedInitialize (Fn Data : Type) (options : AsyncOptions) : TimedState Fn Data where
  state := (.idle, valkeyAsyncInitialize Fn Data options)
  timer := none
  started := false

def timedRun (order : IterationOrder) :
    TimedState Fn Data → List (AsyncEvent Fn Data) → Except AsyncFault (TimedState Fn Data) :=
  Runs.run (timedStep order)

/-! ## The counter and the timer -/

/-- The counter is active if and only if the timer runs, and counts the replies since then. What
waited then still waits if there was none. -/
def ClockedBy (ac : ValkeyAsyncContext Fn Data) : Option (ArmedTimer Fn Data) → Prop
  | none => ac.timeoutReplyCount = none
  | some timer =>
      ac.commandTimeout = true ∧ timer.processed ≤ ac.processed.length ∧
        ac.timeoutReplyCount = some (ac.processed.length - timer.processed) ∧
        (timer.processed = ac.processed.length → ∀ cb ∈ timer.waiting, cb ∈ ac.waiting)

/-- `refreshTimeout` has nothing to do. -/
def Refreshed (ac : ValkeyAsyncContext Fn Data) : Prop :=
  ac.connected = true → ac.hasTimer = true → ac.commandTimeout = true → ac.timeoutReplyCount ≠ none

/-- The invariant, as far as the context goes on. -/
structure Timely (timed : TimedState Fn Data) : Prop where
  clocked : ClockedBy timed.state.2 timed.timer
  started : timed.started = true → timed.state.2.connected = true
  idle : timed.state.1 = .idle → timed.started = true → timed.state.2.waiting ≠ [] →
    Refreshed timed.state.2
  handles : timed.state.1.handlesReplies = true → Refreshed timed.state.2
  replied : ∀ cb, timed.state.1 = .callback (.reply cb) → ∀ timer ∈ timed.timer,
    timer.processed < timed.state.2.processed.length
  connecting : ∀ transfer, timed.state.1 = .callback (.connected transfer) →
    timed.started = false ∧ timed.state.2.connected = true

/-- The invariant. -/
def Timed (timed : TimedState Fn Data) : Prop :=
  Consistent False timed.state ∧ (Over timed.state ∨ Timely timed)

section Clock

variable {ac next : ValkeyAsyncContext Fn Data}

theorem refreshTimeout_active (active : ac.timeoutReplyCount ≠ none) : ac.refreshTimeout = ac := by
  rw [ValkeyAsyncContext.refreshTimeout, if_neg fun fires => active fires.2.1]

theorem refreshed_refreshTimeout (ac : ValkeyAsyncContext Fn Data) :
    Refreshed ac.refreshTimeout := by
  unfold ValkeyAsyncContext.refreshTimeout
  split
  · exact fun _ _ _ => Option.some_ne_none 0
  · rename_i waits
    exact fun connected hasTimer commandTimeout inactive =>
      waits ⟨connected, inactive, hasTimer, commandTimeout⟩

theorem Refreshed.of_same (refreshed : Refreshed ac) (same : SameClock ac next) :
    Refreshed next := by
  intro connected hasTimer commandTimeout
  rw [same.timeoutReplyCount]
  exact refreshed (same.connected.symm.trans connected) (same.hasTimer.symm.trans hasTimer)
    (same.commandTimeout.symm.trans commandTimeout)

/-- Nothing is started where the counter stays as it is. -/
theorem schedules_same {state next : AsyncState Fn Data} {event : AsyncEvent Fn Data}
    (same : next.2.timeoutReplyCount = state.2.timeoutReplyCount) :
    schedules state event next = false := by
  unfold schedules
  rw [same]
  cases state.2.timeoutReplyCount with
  | none => rfl
  | some count => cases count <;> simp

/-- The counter was active already, and the timer did not expire. -/
theorem schedules_active {state next : AsyncState Fn Data} {event : AsyncEvent Fn Data}
    (active : state.2.timeoutReplyCount ≠ none) (runs : (event.isTimer && state.1.isIdle) = false) :
    schedules state event next = false := by
  have counts : state.2.timeoutReplyCount.isNone = false :=
    Option.isNone_eq_false_iff.mpr (Option.isSome_iff_ne_none.mpr active)
  unfold schedules
  rw [counts, runs]
  simp

theorem timerAfter_runs {timed : TimedState Fn Data} {event : AsyncEvent Fn Data}
    {next : AsyncState Fn Data} (quiet : schedules timed.state event next = false)
    (runs : (event.isTimer && timed.state.1.isIdle) = false) :
    timerAfter timed event next = timed.timer := by
  unfold timerAfter
  rw [quiet, runs]
  rfl

theorem clockedBy_same {timer : Option (ArmedTimer Fn Data)} (clocked : ClockedBy ac timer)
    (same : SameClock ac next)
    (kept : ∀ armed ∈ timer, armed.processed = ac.processed.length →
      ∀ cb ∈ ac.waiting, cb ∈ next.waiting) : ClockedBy next timer := by
  cases timer with
  | none => exact same.timeoutReplyCount.trans clocked
  | some armed =>
      obtain ⟨commandTimeout, before, count, waits⟩ := clocked
      unfold ClockedBy
      rw [same.processed, same.timeoutReplyCount, same.commandTimeout]
      exact ⟨commandTimeout, before, count, fun silent cb member =>
        kept armed rfl silent cb (waits silent cb member)⟩

/-- The timer is started by `refreshTimeout`, or was running. -/
theorem clockedBy_refresh {timed : TimedState Fn Data} {event : AsyncEvent Fn Data}
    {next : AsyncState Fn Data} (clocked : ClockedBy timed.state.2 timed.timer)
    (runs : (event.isTimer && timed.state.1.isIdle) = false)
    (count : ac.timeoutReplyCount = timed.state.2.timeoutReplyCount)
    (commandTimeout : ac.commandTimeout = timed.state.2.commandTimeout)
    (processed : ac.processed = timed.state.2.processed)
    (same : SameClock ac.refreshTimeout next.2)
    (kept : ∀ cb ∈ timed.state.2.waiting, cb ∈ next.2.waiting) :
    ClockedBy next.2 (timerAfter timed event next) := by
  cases running : timed.timer with
  | none =>
      rw [running] at clocked
      have inactive : ac.timeoutReplyCount = none := count.trans clocked
      by_cases fires : ac.connected ∧ ac.timeoutReplyCount = none ∧ ac.hasTimer ∧ ac.commandTimeout
      · rw [ValkeyAsyncContext.refreshTimeout, if_pos fires] at same
        have active : next.2.timeoutReplyCount = some 0 := same.timeoutReplyCount
        have starts : schedules timed.state event next = true := by
          unfold schedules
          rw [active, show timed.state.2.timeoutReplyCount = none from clocked]
          rfl
        unfold timerAfter
        rw [if_pos starts]
        refine ⟨same.commandTimeout.trans fires.2.2.2, Nat.le_refl _, ?_, fun _ cb member => member⟩
        rw [active, ArmedTimer.now, Nat.sub_self]
      · rw [ValkeyAsyncContext.refreshTimeout, if_neg fires] at same
        have quiet : next.2.timeoutReplyCount = timed.state.2.timeoutReplyCount :=
          same.timeoutReplyCount.trans count
        rw [timerAfter_runs (schedules_same quiet) runs, running]
        exact quiet.trans clocked
  | some armed =>
      rw [running] at clocked
      have active : timed.state.2.timeoutReplyCount ≠ none := by
        rw [clocked.2.2.1]
        exact Option.some_ne_none _
      rw [refreshTimeout_active (by rw [count]; exact active)] at same
      rw [timerAfter_runs (schedules_active active runs) runs, running]
      obtain ⟨timeout, before, counted, waits⟩ := clocked
      unfold ClockedBy
      rw [same.processed, same.timeoutReplyCount, same.commandTimeout, processed, count,
        commandTimeout]
      exact ⟨timeout, before, counted, fun silent cb member => kept cb (waits silent cb member)⟩

/-- The counter counts the reply. -/
theorem clockedBy_reply {timer : Option (ArmedTimer Fn Data)} {reply : ReplyTree}
    {rest : List ReplyTree} (clocked : ClockedBy ac timer)
    (same : SameClock (receiveReply ac reply rest) next) :
    ClockedBy next timer ∧ ∀ armed ∈ timer, armed.processed < next.processed.length := by
  have length : next.processed.length = ac.processed.length + 1 := by
    rw [same.processed]
    exact List.length_append
  have count : next.timeoutReplyCount = ac.timeoutReplyCount.map (· + 1) := same.timeoutReplyCount
  cases timer with
  | none =>
      have inactive : ac.timeoutReplyCount = none := clocked
      refine ⟨?_, fun armed impossible => nomatch impossible⟩
      rw [ClockedBy, count, inactive]
      rfl
  | some armed =>
      obtain ⟨timeout, before, counted, waits⟩ := clocked
      have later : armed.processed < next.processed.length := by omega
      refine ⟨⟨same.commandTimeout.trans timeout, Nat.le_of_lt later, ?_, fun silent => ?_⟩,
        fun other running => ?_⟩
      · rw [count, counted, length, Option.map_some, Nat.succ_sub before]
      · exact absurd silent (Nat.ne_of_lt later)
      · obtain rfl := Option.some.inj running
        exact later

end Clock

/-! ## One event -/

section Steps

variable (order : IterationOrder)

theorem waiting_untouched {ac next : ValkeyAsyncContext Fn Data} (same : Untouched ac next) :
    next.waiting = ac.waiting := waiting_eq same.replies same.subReplies

/-- The context waits for an event. -/
theorem timely_idle {timed : TimedState Fn Data} (label : timed.state.1 = .idle)
    (clocked : ClockedBy timed.state.2 timed.timer)
    (started : timed.started = true → timed.state.2.connected = true)
    (idle : timed.started = true → timed.state.2.waiting ≠ [] → Refreshed timed.state.2) :
    Timely timed where
  clocked := clocked
  started := started
  idle := fun _ => idle
  handles := by
    rw [label]
    exact fun impossible => nomatch impossible
  replied := by
    rw [label]
    exact fun _ impossible => nomatch impossible
  connecting := by
    rw [label]
    exact fun _ impossible => nomatch impossible

/-- Replies are handled. -/
theorem timely_handles {timed : TimedState Fn Data} (label : timed.state.1.handlesReplies = true)
    (clocked : ClockedBy timed.state.2 timed.timer)
    (started : timed.started = true → timed.state.2.connected = true)
    (refreshed : Refreshed timed.state.2)
    (replied : ∀ cb, timed.state.1 = .callback (.reply cb) → ∀ armed ∈ timed.timer,
      armed.processed < timed.state.2.processed.length) : Timely timed where
  clocked := clocked
  started := started
  idle := fun idle => by
    rw [idle] at label
    cases label
  handles := fun _ => refreshed
  replied := replied
  connecting := fun transfer connecting => by
    rw [connecting] at label
    cases label

theorem timely_processing {timed : TimedState Fn Data} (label : timed.state.1 = .processing)
    (clocked : ClockedBy timed.state.2 timed.timer)
    (started : timed.started = true → timed.state.2.connected = true)
    (refreshed : Refreshed timed.state.2) : Timely timed := by
  apply timely_handles
  · exact congrArg AsyncLabel.handlesReplies label
  · exact clocked
  · exact started
  · exact refreshed
  · intro cb reply
    rw [label] at reply
    cases reply

/-- A step that starts no timer, and is no expiry. -/
theorem clockedBy_step {timed : TimedState Fn Data} {event : AsyncEvent Fn Data}
    {next : AsyncState Fn Data} (timely : Timely timed) (same : SameClock timed.state.2 next.2)
    (kept : ∀ cb ∈ timed.state.2.waiting, cb ∈ next.2.waiting)
    (runs : (event.isTimer && timed.state.1.isIdle) = false) :
    timerAfter timed event next = timed.timer ∧ ClockedBy next.2 (timerAfter timed event next) := by
  have running := timerAfter_runs (@schedules_same _ _ _ _ event same.timeoutReplyCount) runs
  refine ⟨running, ?_⟩
  rw [running]
  exact clockedBy_same timely.clocked same fun _ _ _ => kept

variable {timed : TimedState Fn Data} {event : AsyncEvent Fn Data} {next : AsyncState Fn Data}

/-- The state after a step. -/
def stepped (timed : TimedState Fn Data) (event : AsyncEvent Fn Data) (next : AsyncState Fn Data) :
    TimedState Fn Data where
  state := next
  timer := timerAfter timed event next
  started := timed.started || (transfers timed.state event && next.2.cErr.isNone)

theorem stepped_quiet (quiet : transfers timed.state event = false) :
    (stepped timed event next).started = timed.started := by
  rw [stepped, quiet, Bool.false_and, Bool.or_false]

theorem timely_stays (timely : Timely timed) (label : next.1 = timed.state.1)
    (quiet : transfers timed.state event = false)
    (expiry : event = .timer → timed.state.1 = .idle → timed.state.2.commandTimeout = false)
    (same : Untouched timed.state.2 next.2) : Timely (stepped timed event next) := by
  have kept := waiting_untouched same
  have stopped : schedules timed.state event next = false := schedules_same same.timeoutReplyCount
  have timer : timerAfter timed event next = timed.timer := by
    unfold timerAfter
    rw [stopped, if_neg (by decide)]
    split
    · rename_i expires
      obtain ⟨fires, idle⟩ := Bool.and_eq_true_iff.mp expires
      have unset : timed.state.2.commandTimeout = false := by
        refine expiry ?_ (AsyncLabel.eq_idle idle)
        cases event <;> first | rfl | cases fires
      cases running : timed.timer with
      | none => rfl
      | some armed =>
          have clocked := timely.clocked
          rw [running] at clocked
          exact absurd (unset.symm.trans clocked.1) (by decide)
    · rfl
  have quietly := @stepped_quiet _ _ timed _ next quiet
  refine ⟨?_, ?_, ?_, ?_, ?_, ?_⟩
  · change ClockedBy next.2 (timerAfter timed event next)
    rw [timer]
    refine clockedBy_same timely.clocked same.toSameClock fun _ _ _ cb member => ?_
    rw [kept]
    exact member
  · rw [quietly]
    exact fun started => same.connected.trans (timely.started started)
  · rw [quietly]
    intro idle started waits
    refine (timely.idle (label.symm.trans idle) started ?_).of_same same.toSameClock
    rw [← kept]
    exact waits
  · intro handles
    exact (timely.handles ((congrArg AsyncLabel.handlesReplies label).symm.trans handles)).of_same
      same.toSameClock
  · intro cb reply armed running
    have before : armed ∈ timed.timer := by
      rw [← timer]
      exact running
    have length := timely.replied cb (label.symm.trans reply) armed before
    rw [← same.processed] at length
    exact length
  · intro transfer connecting
    obtain ⟨notStarted, connected⟩ := timely.connecting transfer (label.symm.trans connecting)
    exact ⟨quietly.trans notStarted, same.connected.trans connected⟩

theorem timely_command {fn : Option Fn} {data : Data} {cmd : Bytes} (timely : Timely timed)
    (submits : event = .command fn data cmd) (label : next.1 = timed.state.1)
    (same : SameClock timed.state.2.refreshTimeout next.2)
    (kept : ∀ cb ∈ timed.state.2.waiting, cb ∈ next.2.waiting) :
    Timely (stepped timed event next) := by
  subst submits
  have runs : ((AsyncEvent.command fn data cmd).isTimer && timed.state.1.isIdle) = false := rfl
  have quietly := @stepped_quiet _ _ timed _ next (transfers_command timed.state fn data cmd)
  have refreshed : Refreshed next.2 := (refreshed_refreshTimeout timed.state.2).of_same same
  have connected : next.2.connected = timed.state.2.connected := by
    obtain ⟨count, here⟩ := timed.state.2.refreshTimeout_eq
    rw [same.connected, here]
  refine ⟨clockedBy_refresh timely.clocked runs rfl rfl rfl same kept, ?_, fun _ _ _ => refreshed,
    fun _ => refreshed, ?_, ?_⟩
  · rw [quietly]
    exact fun started => connected.trans (timely.started started)
  · intro cb reply armed running
    have before := label.symm.trans reply
    have active := timely.handles (by rw [before]; rfl)
    have idle : timed.state.2.refreshTimeout = timed.state.2 := by
      rw [ValkeyAsyncContext.refreshTimeout, if_neg]
      exact fun fires => active fires.1 fires.2.2.1 fires.2.2.2 fires.2.1
    rw [idle] at same
    have timer := (clockedBy_step timely same kept runs).1
    change armed ∈ timerAfter timed (.command fn data cmd) next at running
    rw [timer] at running
    have length := timely.replied cb before armed running
    rw [← same.processed] at length
    exact length
  · intro transfer connecting
    obtain ⟨notStarted, established⟩ := timely.connecting transfer (label.symm.trans connecting)
    exact ⟨quietly.trans notStarted, connected.trans established⟩

theorem runs_of_event (noTimer : event ≠ .timer) :
    (event.isTimer && timed.state.1.isIdle) = false := by
  cases event <;> first | rfl | exact absurd rfl noTimer

theorem transfers_handles (handles : timed.state.1.handlesReplies = true) :
    transfers timed.state event = false := by
  obtain ⟨⟨label, ac⟩, _, _⟩ := timed
  cases label with
  | callback resume =>
      cases resume with
      | connected next => cases handles
      | _ => rfl
  | idle => cases handles
  | _ => rfl

/-- The connection is established, and nothing is read or written yet. -/
theorem clocked_connected (timely : Timely timed) (noTimer : event ≠ .timer)
    (same : Untouched { timed.state.2 with connected := true } next.2) :
    ClockedBy next.2 (timerAfter timed event next) := by
  have count : next.2.timeoutReplyCount = timed.state.2.timeoutReplyCount := same.timeoutReplyCount
  rw [timerAfter_runs (schedules_same count) (runs_of_event noTimer)]
  have clocked : ClockedBy { timed.state.2 with connected := true } timed.timer := by
    have before := timely.clocked
    cases running : timed.timer with
    | none =>
        rw [running] at before
        exact before
    | some armed =>
        rw [running] at before
        exact before
  refine clockedBy_same clocked same.toSameClock fun _ _ _ cb member => ?_
  rw [waiting_untouched same]
  exact member

theorem notStarted_of_disconnected (timely : Timely timed)
    (before : timed.state.2.connected = false) : timed.started = false := by
  cases started : timed.started with
  | false => rfl
  | true =>
      have connected := timely.started started
      rw [before] at connected
      cases connected

/-- A read or a write. -/
theorem timely_transfer (timely : Timely timed) (noTimer : event ≠ .timer)
    (label : next.1 = .idle ∨ next.1 = .processing) (connected : next.2.connected = true)
    (same : Untouched ({ timed.state.2 with connected := true }).refreshTimeout next.2) :
    Timely (stepped timed event next) := by
  have refreshed : Refreshed next.2 := (refreshed_refreshTimeout _).of_same same.toSameClock
  have kept : next.2.waiting = timed.state.2.waiting :=
    (waiting_untouched same).trans (waiting_refreshTimeout _)
  have clocked : ClockedBy next.2 (timerAfter timed event next) := by
    refine @clockedBy_refresh Fn Data { timed.state.2 with connected := true } timed event next
      timely.clocked (runs_of_event noTimer) rfl rfl rfl same.toSameClock ?_
    intro cb member
    rw [kept]
    exact member
  rcases label with idle | processing
  · exact timely_idle idle clocked (fun _ => connected) fun _ _ => refreshed
  · exact timely_processing processing clocked (fun _ => connected) refreshed

/-- The timer expires while nothing waits. -/
theorem timely_idleExpiry (timely : Timely timed) (fires : event = .timer)
    (label : timed.state.1 = .idle) (later : next.1 = .idle) (empty : timed.state.2.waiting = [])
    (same : Untouched { timed.state.2 with timeoutReplyCount := none } next.2) :
    Timely (stepped timed event next) := by
  subst fires
  have inactive : next.2.timeoutReplyCount = none := same.timeoutReplyCount
  have timer : timerAfter timed .timer next = none := by
    unfold timerAfter schedules
    rw [inactive, label]
    rfl
  have quiet : transfers timed.state .timer = false := by
    rw [show timed.state = (.idle, timed.state.2) by rw [← label]]
    rfl
  apply timely_idle later
  · change ClockedBy next.2 (timerAfter timed .timer next)
    rw [timer]
    exact inactive
  · rw [stepped_quiet quiet]
    exact fun started => same.connected.trans (timely.started started)
  · intro _ waits
    exact absurd ((waiting_untouched same).trans empty) waits

/-- The timer expires after replies, and is started again. -/
theorem timely_aliveExpiry (timely : Timely timed) (fires : event = .timer)
    (label : timed.state.1 = .idle) (later : next.1 = .idle)
    (alive : 0 < timed.state.2.timeoutReplyCount.getD 0)
    (same : Untouched ({ timed.state.2 with timeoutReplyCount := none }).refreshTimeout next.2) :
    Timely (stepped timed event next) := by
  subst fires
  have refreshed : Refreshed next.2 := (refreshed_refreshTimeout _).of_same same.toSameClock
  have idle : (AsyncEvent.isTimer (.timer : AsyncEvent Fn Data) && timed.state.1.isIdle) =
      true := by
    rw [label]
    rfl
  have quiet : transfers timed.state .timer = false := by
    rw [show timed.state = (.idle, timed.state.2) by rw [← label]]
    rfl
  have connected : next.2.connected = timed.state.2.connected := by
    obtain ⟨count, here⟩ :=
      ValkeyAsyncContext.refreshTimeout_eq { timed.state.2 with timeoutReplyCount := none }
    rw [same.connected, here]
  have clocked : ClockedBy next.2 (timerAfter timed .timer next) := by
    by_cases again : timed.state.2.connected ∧ (none : Option Nat) = none ∧ timed.state.2.hasTimer ∧
        timed.state.2.commandTimeout
    · rw [ValkeyAsyncContext.refreshTimeout, if_pos again] at same
      have active : next.2.timeoutReplyCount = some 0 := same.timeoutReplyCount
      have other : (timed.state.2.timeoutReplyCount != some 0) = true := by
        cases count : timed.state.2.timeoutReplyCount with
        | none => rfl
        | some count =>
            rw [count] at alive
            simpa using Nat.ne_of_gt alive
      have starts : schedules timed.state .timer next = true := by
        unfold schedules
        rw [active, idle, other]
        simp
      unfold timerAfter
      rw [if_pos starts]
      refine ⟨same.commandTimeout.trans again.2.2.2, Nat.le_refl _, ?_, fun _ cb member => member⟩
      rw [active, ArmedTimer.now, Nat.sub_self]
    · rw [ValkeyAsyncContext.refreshTimeout, if_neg again] at same
      have inactive : next.2.timeoutReplyCount = none := same.timeoutReplyCount
      have quietly : schedules timed.state .timer next = false := by
        unfold schedules
        rw [inactive]
        rfl
      unfold timerAfter
      rw [quietly, idle]
      exact inactive
  apply timely_idle later clocked
  · rw [stepped_quiet quiet]
    exact fun started => connected.trans (timely.started started)
  · exact fun _ _ => refreshed

/-- A step of a context that goes on. -/
theorem timely_step (timely : Timely timed) (step : ClockStep timed.state event next)
    (goesOn : ¬Over next) : Timely (stepped timed event next) := by
  have started (quiet : transfers timed.state event = false)
      (same : next.2.connected = timed.state.2.connected) :
      (stepped timed event next).started = true → next.2.connected = true := by
    rw [stepped_quiet quiet]
    exact fun started => same.trans (timely.started started)
  have noTimer (proceeds : event = .proceed) : event ≠ .timer := by
    rw [proceeds]
    exact fun timer => nomatch timer
  have clocked (proceeds : event = .proceed) (same : Untouched timed.state.2 next.2) :
      ClockedBy next.2 (timerAfter timed event next) := by
    refine (clockedBy_step timely same.toSameClock (fun cb member => ?_)
      (runs_of_event (noTimer proceeds))).2
    rw [waiting_untouched same]
    exact member
  cases step with
  | ended ended => exact absurd ended goesOn
  | stays label quiet expiry same => exact timely_stays timely label quiet expiry same
  | command fn data cmd submits label same kept waits =>
      exact timely_command timely submits label same kept
  | connects transfer label later before noTimer quiet same =>
      have waits : (stepped timed event next).started = false :=
        (stepped_quiet quiet).trans (notStarted_of_disconnected timely before)
      have next_ : (stepped timed event next).state.1 = .callback (.connected transfer) := later
      refine ⟨clocked_connected timely noTimer same, ?_, ?_, ?_, ?_, fun _ _ =>
        ⟨waits, same.connected⟩⟩
      · exact fun _ => same.connected
      · rw [next_]
        exact fun impossible => nomatch impossible
      · rw [next_]
        exact fun impossible => nomatch impossible
      · rw [next_]
        exact fun _ impossible => nomatch impossible
  | transfer noTimer before label connected same =>
      exact timely_transfer timely noTimer label connected same
  | idleExpiry fires label later empty same =>
      exact timely_idleExpiry timely fires label later empty same
  | aliveExpiry fires label later alive same =>
      exact timely_aliveExpiry timely fires label later alive same
  | reply reply rest label proceeds later same =>
      obtain ⟨clocked, replied⟩ := clockedBy_reply timely.clocked same
      have handles : timed.state.1.handlesReplies = true := congrArg AsyncLabel.handlesReplies label
      have refreshed := timely.handles handles
      have active : next.2.timeoutReplyCount = timed.state.2.timeoutReplyCount.map (· + 1) :=
        same.timeoutReplyCount
      have timer : timerAfter timed event next = timed.timer := by
        refine timerAfter_runs ?_ (runs_of_event (noTimer proceeds))
        unfold schedules
        rw [active]
        cases timed.state.2.timeoutReplyCount <;> simp
      have running : ClockedBy next.2 (timerAfter timed event next) ∧
          ∀ armed ∈ timerAfter timed event next, armed.processed < next.2.processed.length := by
        rw [timer]
        exact ⟨clocked, replied⟩
      apply timely_handles later running.1 (started (transfers_handles handles) same.connected)
      · intro connected hasTimer commandTimeout inactive
        have before := refreshed (same.connected.symm.trans connected)
          (same.hasTimer.symm.trans hasTimer)
          (same.commandTimeout.symm.trans commandTimeout)
        exact before (Option.map_eq_none_iff.mp (active.symm.trans inactive))
      · exact fun _ _ => running.2
  | rests label proceeds later same =>
      have handles : timed.state.1.handlesReplies = true := congrArg AsyncLabel.handlesReplies label
      exact timely_idle later (clocked proceeds same)
        (started (transfers_handles handles) same.connected) fun _ _ =>
        (timely.handles handles).of_same same.toSameClock
  | pushed label proceeds later same =>
      have handles : timed.state.1.handlesReplies = true := congrArg AsyncLabel.handlesReplies label
      exact timely_processing later (clocked proceeds same)
        (started (transfers_handles handles) same.connected)
        ((timely.handles handles).of_same same.toSameClock)
  | replied cb label proceeds later same =>
      have handles : timed.state.1.handlesReplies = true := congrArg AsyncLabel.handlesReplies label
      have timer : timerAfter timed event next = timed.timer :=
        timerAfter_runs (schedules_same same.timeoutReplyCount)
          (runs_of_event (noTimer proceeds))
      have clocked : ClockedBy next.2 (timerAfter timed event next) := by
        rw [timer]
        exact clockedBy_same timely.clocked same fun armed running silent =>
          absurd silent (Nat.ne_of_lt (timely.replied cb label armed running))
      exact timely_processing later clocked (started (transfers_handles handles) same.connected)
        ((timely.handles handles).of_same same)
  | established here label before noTimer quiet same =>
      have waits : (stepped timed event next).started = false :=
        (stepped_quiet quiet).trans (notStarted_of_disconnected timely before)
      apply timely_idle label (clocked_connected timely noTimer same) (fun _ => same.connected)
      intro now
      rw [waits] at now
      cases now
  | notConnected label proceeds before quiet same =>
      obtain ⟨transfer, connecting⟩ := before
      have waits : (stepped timed event next).started = false :=
        (stepped_quiet quiet).trans (timely.connecting transfer connecting).1
      apply timely_idle label (clocked proceeds same) (started quiet same.connected)
      intro now
      rw [waits] at now
      cases now

/-- Nothing happens, or the context makes a step: it is over, or it goes on as it did before. -/
theorem timedStep_cases {final : TimedState Fn Data} (invariant : Timed timed)
    (step : timedStep order timed event = .ok final) :
    final = timed ∨ ∃ next, final = stepped timed event next ∧ Consistent False next ∧
      (Over next ∨ Timely timed ∧ ClockStep timed.state event next ∧ ¬Over next ∧
        ¬Over timed.state) := by
  unfold timedStep at step
  split at step
  · exact .inl (Except.ok.inj step).symm
  · obtain ⟨consistent, live⟩ := invariant
    right
    cases taken : asyncStep order timed.state event with
    | error fault =>
        rw [taken] at step
        cases step
    | ok next =>
        rw [taken] at step
        have kept := (keepsConsistent_asyncStep order event consistent fun impossible =>
          impossible.elim).of_ok taken
        refine ⟨next, (Except.ok.inj step).symm, kept, ?_⟩
        by_cases goesOn : Over next
        · exact .inl goesOn
        · have moves := (clock_asyncStep order event consistent fun transfer connecting clean => by
            rcases live with (failed | freeing) | timely
            · exact absurd clean failed
            · rw [connecting] at freeing
              exact freeing.elim
            · exact (timely.connecting transfer connecting).2).of_ok taken
          have lives : ¬Over timed.state := fun ended => goesOn (over_of_over moves ended)
          exact .inr ⟨live.resolve_left lives, moves, goesOn, lives⟩

/-- The invariant is kept. -/
theorem timed_step {final : TimedState Fn Data} (invariant : Timed timed)
    (step : timedStep order timed event = .ok final) : Timed final := by
  rcases timedStep_cases order invariant step with
    rfl | ⟨next, rfl, consistent, ended | ⟨timely, moves, goesOn, _⟩⟩
  · exact invariant
  · exact ⟨consistent, .inl ended⟩
  · exact ⟨consistent, .inr (timely_step timely moves goesOn)⟩

theorem timed_initial (options : AsyncOptions) : Timed (timedInitialize Fn Data options) := by
  refine ⟨consistent_valkeyAsyncInitialize options, .inr (timely_idle rfl rfl ?_ ?_)⟩
  · exact fun impossible => nomatch impossible
  · exact fun impossible => nomatch impossible

theorem timedRun_timed (options : AsyncOptions) {events : List (AsyncEvent Fn Data)}
    {timed : TimedState Fn Data}
    (reached : timedRun order (timedInitialize Fn Data options) events = .ok timed) :
    Timed timed := by
  have preserves (state : TimedState Fn Data) (event : AsyncEvent Fn Data)
      (next : TimedState Fn Data)
      (invariant : Timed state) (step : timedStep order state event = .ok next) : Timed next :=
    timed_step order invariant step
  exact Runs.run_invariant (timedStep order) preserves (timed_initial options) reached

/-- The context waits for an event and goes on. -/
theorem Timed.timely {timed : TimedState Fn Data} (invariant : Timed timed)
    (label : timed.state.1 = .idle) (clean : timed.state.2.cErr = none) : Timely timed := by
  rcases invariant.2 with (failed | freeing) | timely
  · exact absurd clean failed
  · rw [label] at freeing
    exact freeing.elim
  · exact timely

end Steps

/-! ## Timeouts -/

/-- No command whose callback waits in a queue is submitted while a timer runs that was started
when nothing waited, and since when no reply has been processed. -/
def OpensNoWindow (timed : TimedState Fn Data) (event : AsyncEvent Fn Data) : Prop :=
  match event with
  | .command _ _ cmd =>
      ∀ timer ∈ timed.timer, timer.waiting = [] →
        timer.processed = timed.state.2.processed.length → timed.state.2.disconnecting = false →
        timed.state.2.freeing = false → waitsInQueue cmd = false
  | _ => True

/-- If the expiry of the timer is a timeout of an established connection, then some callback that
waits has waited when the timer was started, and no reply has been processed since. -/
def RaisesJustly (order : IterationOrder) (timed : TimedState Fn Data)
    (event : AsyncEvent Fn Data) : Prop :=
  event = .timer → timed.state.1 = .idle → timed.state.2.connected = true →
    timed.state.2.cErr = none →
    ∀ next, timedStep order timed event = .ok next → next.state.2.cErr ≠ none →
      ∃ timer, timed.timer = some timer ∧ timer.processed = timed.state.2.processed.length ∧
        ∃ cb ∈ timer.waiting, cb ∈ timed.state.2.waiting

/-- No callback has come to a context whose timer was started when nothing waited. -/
def NoWindow (timed : TimedState Fn Data) : Prop :=
  ∀ timer ∈ timed.timer, timer.waiting = [] → timer.processed = timed.state.2.processed.length →
    timed.state.2.waiting = []

section Timeouts

variable (order : IterationOrder) {timed : TimedState Fn Data} {event : AsyncEvent Fn Data}

/-- A timeout is raised only where a callback waits and no reply was counted. -/
theorem timeout_raised {ac : ValkeyAsyncContext Fn Data} (connected : ac.connected = true)
    (clean : ac.cErr = none) (raised : (valkeyAsyncHandleTimeout ac).2.cErr ≠ none) :
    ac.waiting ≠ [] ∧ ac.timeoutReplyCount.getD 0 = 0 := by
  have refreshed (ac : ValkeyAsyncContext Fn Data) : ac.refreshTimeout.cErr = ac.cErr := by
    obtain ⟨count, same⟩ := ac.refreshTimeout_eq
    rw [same]
  unfold valkeyAsyncHandleTimeout at raised
  split at raised
  · exact absurd clean raised
  · rename_i waits
    split at raised
    · exact absurd clean raised
    · split at raised
      · rw [refreshed] at raised
        exact absurd clean raised
      · rename_i silent
        constructor
        · intro empty
          obtain ⟨replies, subReplies⟩ := List.append_eq_nil_iff.mp empty
          exact waits ⟨connected, replies, subReplies⟩
        · by_contra count
          exact silent ⟨connected, Nat.pos_of_ne_zero count⟩

theorem raisesJustly_of_noWindow (invariant : Timed timed)
    (live : Over timed.state ∨ NoWindow timed) : RaisesJustly order timed event := by
  intro fires label connected clean next step raised
  subst fires
  have timely := invariant.timely label clean
  have same : timed.state = (.idle, timed.state.2) := by rw [← label]
  have quiet : NoWindow timed := by
    rcases live with (failed | freeing) | quiet
    · exact absurd clean failed
    · rw [label] at freeing
      exact freeing.elim
    · exact quiet
  unfold timedStep at step
  split at step
  · obtain rfl := Except.ok.inj step
    exact absurd clean raised
  · rename_i runs
    have taken : asyncStep order timed.state .timer = .ok
        (valkeyAsyncHandleTimeout timed.state.2) := by
      rw [same]
      rfl
    rw [taken] at step
    obtain rfl := Except.ok.inj step
    obtain ⟨waits, silent⟩ := timeout_raised connected clean raised
    have clocked := timely.clocked
    cases running : timed.timer with
    | none =>
        refine absurd ?_ runs
        rw [running, connected, label]
        rfl
    | some armed =>
        rw [running] at clocked
        obtain ⟨_, before, count, kept⟩ := clocked
        rw [count, Option.getD_some] at silent
        have now : armed.processed = timed.state.2.processed.length := by omega
        have waited : armed.waiting ≠ [] := fun empty => waits (quiet armed running empty now)
        obtain ⟨cb, member⟩ := List.exists_mem_of_ne_nil _ waited
        exact ⟨armed, rfl, now, cb, member, kept now cb member⟩

/-- What has to be shown about a timer that goes on. -/
theorem noWindow_stepped {next : AsyncState Fn Data}
    (kept : ∀ armed ∈ timed.timer, armed.waiting = [] → armed.processed = next.2.processed.length →
      next.2.waiting = []) : NoWindow (stepped timed event next) := by
  intro armed running empty silent
  change armed ∈ timerAfter timed event next at running
  unfold timerAfter at running
  split at running
  · obtain rfl := Option.some.inj running
    exact empty
  · split at running
    · cases running
    · exact kept armed running empty silent

theorem noWindow_step {next : AsyncState Fn Data} (timely : Timely timed) (quiet : NoWindow timed)
    (condition : OpensNoWindow timed event) (step : ClockStep timed.state event next)
    (goesOn : ¬Over next) : NoWindow (stepped timed event next) := by
  have same (processed : next.2.processed = timed.state.2.processed)
      (waiting : next.2.waiting = timed.state.2.waiting) : NoWindow (stepped timed event next) := by
    apply noWindow_stepped
    intro armed running empty silent
    rw [waiting]
    apply quiet armed running empty
    rw [← processed]
    exact silent
  have refreshed (ac : ValkeyAsyncContext Fn Data) : ac.refreshTimeout.processed =
      ac.processed := by
    obtain ⟨count, here⟩ := ac.refreshTimeout_eq
    rw [here]
  cases step with
  | ended ended => exact absurd ended goesOn
  | stays label quiet expiry untouched =>
        exact same untouched.processed (waiting_untouched untouched)
  | command fn data cmd submits label clock kept waits =>
      subst submits
      have processed := clock.processed.trans (refreshed _)
      apply noWindow_stepped
      intro armed running empty silent
      rw [processed] at silent
      by_cases waiting : next.2.waiting = timed.state.2.waiting
      · rw [waiting]
        exact quiet armed running empty silent
      · obtain ⟨⟨connected, kept⟩, queued⟩ := waits waiting
        have passes := condition armed running empty silent connected kept
        rw [queued] at passes
        cases passes
  | connects transfer label later before noTimer quiet untouched =>
      exact same untouched.processed (waiting_eq untouched.replies untouched.subReplies)
  | transfer noTimer before label connected untouched =>
      exact same (untouched.processed.trans (refreshed _))
        ((waiting_untouched untouched).trans (waiting_refreshTimeout _))
  | idleExpiry fires label later empty untouched =>
      exact same untouched.processed (waiting_eq untouched.replies untouched.subReplies)
  | aliveExpiry fires label later alive untouched =>
      exact same (untouched.processed.trans (refreshed _))
        ((waiting_untouched untouched).trans (waiting_refreshTimeout _))
  | reply reply rest label proceeds later clock =>
      obtain ⟨_, replied⟩ := clockedBy_reply timely.clocked clock
      apply noWindow_stepped
      intro armed running _ silent
      exact absurd silent (Nat.ne_of_lt (replied armed running))
  | rests label proceeds later untouched =>
        exact same untouched.processed (waiting_untouched untouched)
  | pushed label proceeds later untouched =>
        exact same untouched.processed (waiting_untouched untouched)
  | replied cb label proceeds later clock =>
      apply noWindow_stepped
      intro armed running _ silent
      rw [clock.processed] at silent
      exact absurd silent (Nat.ne_of_lt (timely.replied cb label armed running))
  | established here label before noTimer quiet untouched =>
      exact same untouched.processed (waiting_eq untouched.replies untouched.subReplies)
  | notConnected label proceeds before quiet untouched =>
      exact same untouched.processed (waiting_untouched untouched)

end Timeouts

/-! ## A timer that was started by a write -/

instance [DecidableEq Fn] [DecidableEq Data] (timed : TimedState Fn Data)
    (event : AsyncEvent Fn Data) : Decidable (OpensNoWindow timed event) :=
  match event with
  | .command _ _ cmd =>
      inferInstanceAs (Decidable (∀ timer ∈ timed.timer, timer.waiting = [] →
        timer.processed = timed.state.2.processed.length → timed.state.2.disconnecting = false →
        timed.state.2.freeing = false → waitsInQueue cmd = false))
  | .disconnect | .free | .readable _ _ | .writable _ _ | .timer | .proceed => .isTrue trivial

/-- A command waits when the connection is established. -/
def pingFirst : List (AsyncEvent Nat Nat) := [pingAgain, .writable .done (.written 14)]

/-- The write of an empty buffer starts the timer, and the command comes later. -/
def pingLate : List (AsyncEvent Nat Nat) := [.writable .done (.written 0), pingAgain]

end Libvalkey
