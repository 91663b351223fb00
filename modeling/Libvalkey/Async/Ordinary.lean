import Libvalkey.Async.Control
import Libvalkey.Async.Ledger

/-! # Contexts with regular commands

Whatever the server answers, a step of the library runs the callback that waits first, or
none. The callbacks that still wait when the context goes away are run with `NULL`. -/

namespace Libvalkey

open Checked

variable {Fn Data : Type}

/-- A callback that was registered with a command runs before the library goes on here. -/
def Resume.isServed : Resume Fn Data → Bool
  | .reply _ | .timeout | .freeing _ => true
  | .connected _ | .connectFailed | .connectTimeout | .push | .disconnected => false

def AsyncLabel.isServed : AsyncLabel Fn Data → Bool
  | .callback resume => resume.isServed
  | _ => false

/-- What the event library reports, or a step of the library. -/
def AsyncEvent.isCall : AsyncEvent Fn Data → Bool
  | .command _ _ _ | .disconnect | .free => true
  | .readable _ _ | .writable _ _ | .timer | .proceed => false

/-- No callback of a subscription is left to be run. -/
def AsyncLabel.NoSubscriptions : AsyncLabel Fn Data → Prop
  | .freeing subscriptions | .callback (.freeing subscriptions) => subscriptions = []
  | _ => True

/-- All callbacks that wait were registered with regular commands. -/
structure Ordinary (state : AsyncState Fn Data) : Prop where
  consistent : Consistent False state
  only : OnlyRegular state.2
  callbacks : ∀ cb ∈ state.2.replies, cb.fn ≠ some .ssubscribe
  label : state.1.NoSubscriptions

/-- The callbacks that wait and those that were run, after a step. -/
inductive Serves (replies : List (Callback Fn Data)) (served : List (Served Fn Data)) :
    AsyncState Fn Data → Prop
  | none {label : AsyncLabel Fn Data} {next : ValkeyAsyncContext Fn Data}
      (waiting : next.replies = replies) (run : next.served = served)
      (quiet : label.isServed = false) : Serves replies served (label, next)
  | first {label : AsyncLabel Fn Data} {next : ValkeyAsyncContext Fn Data} {cb : Callback Fn Data}
      (reply : Option ReplyTree) (waiting : replies = cb :: next.replies)
      (run : next.served = served ++ [⟨cb, reply⟩]) (runs : label.isServed = cb.fn.isSome) :
      Serves replies served (label, next)

/-- A step of the library on a context with regular commands. -/
structure Goes (replies : List (Callback Fn Data)) (served : List (Served Fn Data))
    (state : AsyncState Fn Data) : Prop where
  only : OnlyRegular state.2
  label : state.1.NoSubscriptions
  serves : Serves replies served state

/-- A callback is run. -/
def ValkeyAsyncContext.answer (ac : ValkeyAsyncContext Fn Data) (cb : Callback Fn Data)
    (reply : Option ReplyTree) : Bool × ValkeyAsyncContext Fn Data :=
  (cb.fn.isSome, if cb.fn.isSome then (ac.serve cb reply).enter else ac.serve cb reply)

theorem runCallback_answer {cb : Callback Fn Data} (regular : cb.fn ≠ some .ssubscribe)
    (ac : ValkeyAsyncContext Fn Data) (reply : Option ReplyTree) :
    runCallback ac cb reply = .ok (ac.answer cb reply) := by
  obtain ⟨fn, _⟩ := cb
  rcases fn with _ | (fn | _)
  · rfl
  · rfl
  · exact absurd rfl regular

section Library

variable (order : IterationOrder) {ac : ValkeyAsyncContext Fn Data}

/-- A computation that ends in a step. -/
abbrev KeepsGoing (replies : List (Callback Fn Data)) (served : List (Served Fn Data))
    (computation : Except AsyncFault (AsyncState Fn Data)) : Prop :=
  Ensures computation (fun _ => True) (Goes replies served)

theorem goes_none (only : OnlyRegular ac) {label : AsyncLabel Fn Data}
    (subscriptions : label.NoSubscriptions) (quiet : label.isServed = false) :
    Goes ac.replies ac.served (label, ac) :=
  ⟨only, subscriptions, .none rfl rfl quiet⟩

/-- A disconnect or a free: the label stays, or the library waits, or it is about to run the
callbacks that wait. -/
structure Closes (label : AsyncLabel Fn Data) (ac : ValkeyAsyncContext Fn Data)
    (next : AsyncState Fn Data) : Prop where
  only : OnlyRegular next.2
  waiting : next.2.replies = ac.replies
  run : next.2.served = ac.served
  label : next.1 = label ∨ next.1 = .idle ∨ next.1 = .freeing []

theorem Closes.subscriptions {label : AsyncLabel Fn Data} {next : AsyncState Fn Data}
    (closes : Closes label ac next) (subscriptions : label.NoSubscriptions) :
    next.1.NoSubscriptions := by
  rcases closes.label with same | idle | freeing
  · exact same ▸ subscriptions
  · rw [idle]
    trivial
  · rw [freeing]
    rfl

theorem Closes.present {label : AsyncLabel Fn Data} {next : AsyncState Fn Data}
    (closes : Closes label ac next) (present : label ≠ .gone) : next.1 ≠ .gone := by
  rcases closes.label with same | idle | freeing
  · rw [same]
    exact present
  · simp [idle]
  · simp [freeing]

theorem Closes.goes {next : AsyncState Fn Data} (closes : Closes .idle ac next) :
    Goes ac.replies ac.served next := by
  refine ⟨closes.only, closes.subscriptions trivial, .none closes.waiting closes.run ?_⟩
  rcases closes.label with idle | idle | freeing
  · rw [idle]
    rfl
  · rw [idle]
    rfl
  · rw [freeing]
    rfl

theorem closes_freeInternal (only : OnlyRegular ac) (label : AsyncLabel Fn Data) :
    Closes label ac (valkeyAsyncFreeInternal order ac) := by
  refine ⟨only, rfl, rfl, .inr (.inr ?_)⟩
  obtain ⟨_, _, _, channels, patterns, schannels⟩ := only
  simp [valkeyAsyncFreeInternal, Dictionary.values, channels, patterns, schannels, order_nil]

theorem closes_disconnectInternal (only : OnlyRegular ac) (label : AsyncLabel Fn Data) :
    Ensures (valkeyAsyncDisconnectInternal order ac) (fun _ => True) (Closes label ac) := by
  have clean : OnlyRegular { ac with err := ac.cErr } := only
  have failed : OnlyRegular { ac with err := ac.cErr, disconnecting := true } := only
  have freed {ac : ValkeyAsyncContext Fn Data} (only : OnlyRegular ac) :=
    closes_freeInternal order only label
  unfold valkeyAsyncDisconnectInternal
  dsimp only
  split
  · trivial
  split
  · split
    · exact ⟨clean, rfl, rfl, .inr (.inl rfl)⟩
    · obtain ⟨only, waiting, run, label⟩ := freed clean
      exact ⟨only, waiting, run, label⟩
  · split
    · exact ⟨failed, rfl, rfl, .inr (.inl rfl)⟩
    · obtain ⟨only, waiting, run, label⟩ := freed failed
      exact ⟨only, waiting, run, label⟩

theorem closes_disconnect (only : OnlyRegular ac) (label : AsyncLabel Fn Data) :
    Ensures (valkeyAsyncDisconnect order label ac) (fun _ => True) (Closes label ac) := by
  have disconnecting : OnlyRegular { ac with disconnecting := true, noAutoFree := false } := only
  unfold valkeyAsyncDisconnect
  dsimp only
  split
  · apply (closes_disconnectInternal order disconnecting label).mono
    rintro next ⟨only, waiting, run, label⟩
    exact ⟨only, waiting, run, label⟩
  · exact ⟨disconnecting, rfl, rfl, .inl rfl⟩

theorem closes_free (only : OnlyRegular ac) (label : AsyncLabel Fn Data) :
    Closes label ac (valkeyAsyncFree order label ac) := by
  have freeing : OnlyRegular { ac with freeing := true } := only
  unfold valkeyAsyncFree
  dsimp only
  split
  · exact ⟨freeing, rfl, rfl, .inl rfl⟩
  · obtain ⟨only, waiting, run, label⟩ := closes_freeInternal order freeing label
    exact ⟨only, waiting, run, label⟩

theorem goes_freeInternal (only : OnlyRegular ac) :
    Goes ac.replies ac.served (valkeyAsyncFreeInternal order ac) :=
  (closes_freeInternal order only .idle).goes

theorem keepsGoing_disconnectInternal (only : OnlyRegular ac) :
    KeepsGoing ac.replies ac.served (valkeyAsyncDisconnectInternal order ac) :=
  (closes_disconnectInternal order only .idle).mono fun _ closes => closes.goes

/-! ## Replies -/

theorem goes_afterReply (only : OnlyRegular ac) (cb : Callback Fn Data) :
    Goes ac.replies ac.served (afterReply order cb ac) := by
  unfold afterReply
  split
  · exact goes_freeInternal order only
  · rw [repush_unmonitored only.2.1]
    exact goes_none only trivial rfl

theorem keepsGoing_deliverReply (only : OnlyRegular ac) {cb : Callback Fn Data}
    (regular : cb.fn ≠ some .ssubscribe) (reply : ReplyTree) :
    KeepsGoing (cb :: ac.replies) ac.served (deliverReply order ac cb reply) := by
  have served : OnlyRegular (ac.serve cb (some reply)) := only
  unfold deliverReply
  cases fn : cb.fn with
  | none =>
      rw [if_pos Option.isNone_none, repush_unmonitored served.2.1]
      exact ⟨served, trivial, .first (some reply) rfl rfl (by rw [fn]; rfl)⟩
  | some callback =>
      have entered : OnlyRegular (ac.serve cb (some reply)).enter := only
      rw [if_neg (by simp), runCallback_answer regular]
      simp only [ValkeyAsyncContext.answer, fn, Option.isSome_some, if_true]
      exact ⟨entered, trivial, .first (some reply) rfl rfl (by rw [fn]; rfl)⟩

/-- No callback waits for the reply. -/
theorem keepsGoing_unexpectedReply (only : OnlyRegular ac) (reply : ReplyTree) :
    KeepsGoing ac.replies ac.served (unexpectedReply order ac reply) := by
  have noSubReplies : ac.subReplies = [] := only.2.2.1
  have notSubscribed : ac.isSubscribed = false := only.1
  unfold unexpectedReply
  split
  · rename_i str
    have failed : OnlyRegular { ac with cErr := some ⟨.other, str⟩ } := only
    split
    · rename_i cb rest waiting
      rw [noSubReplies] at waiting
      cases waiting
    · exact keepsGoing_disconnectInternal order failed
  · rw [if_pos (by simp [notSubscribed])]
    trivial

theorem keepsGoing_processReply (only : OnlyRegular ac)
    (callbacks : ∀ cb ∈ ac.replies, cb.fn ≠ some .ssubscribe) (reply : ReplyTree) :
    KeepsGoing ac.replies ac.served (processReply order ac reply) := by
  unfold processReply
  split
  · split
    · exact ⟨only, trivial, .none rfl rfl rfl⟩
    · exact goes_none only trivial rfl
  split
  · rename_i cb rest waiting
    have left : OnlyRegular { ac with replies := rest } := only
    rw [waiting] at callbacks ⊢
    exact keepsGoing_deliverReply order left (callbacks cb List.mem_cons_self) reply
  · exact keepsGoing_unexpectedReply order only reply

theorem keepsGoing_processCallbacks (only : OnlyRegular ac)
    (callbacks : ∀ cb ∈ ac.replies, cb.fn ≠ some .ssubscribe) :
    KeepsGoing ac.replies ac.served (valkeyProcessCallbacks order ac) := by
  unfold valkeyProcessCallbacks
  split
  · rename_i reply rest _
    have received : OnlyRegular (receiveReply ac reply rest) := only
    exact keepsGoing_processReply order received callbacks reply
  split
  · rename_i err _
    have failed : OnlyRegular { ac with cErr := some err } := only
    exact keepsGoing_disconnectInternal order failed
  split
  · exact keepsGoing_disconnectInternal order only
  · exact goes_none only trivial rfl

/-! ## Events -/

theorem goes_refreshed {label : AsyncLabel Fn Data} (only : OnlyRegular ac)
    (subscriptions : label.NoSubscriptions) (quiet : label.isServed = false) :
    Goes ac.replies ac.served (label, ac.refreshTimeout) := by
  obtain ⟨count, refreshed⟩ := ac.refreshTimeout_eq
  rw [refreshed]
  exact ⟨only, subscriptions, .none rfl rfl quiet⟩

theorem keepsGoing_transfer (only : OnlyRegular ac) (next : Transfer) :
    KeepsGoing ac.replies ac.served (transfer order ac next) := by
  have broken (err : ContextError) : KeepsGoing ac.replies ac.served
      (valkeyAsyncDisconnectInternal order { ac with cErr := some (ac.cErr.getD err) }) := by
    have failed : OnlyRegular { ac with cErr := some (ac.cErr.getD err) } := only
    exact keepsGoing_disconnectInternal order failed
  rcases next with (⟨more, failure⟩ | err) | (count | err)
  · unfold transfer valkeyAsyncRead
    dsimp only
    split
    · exact keepsGoing_disconnectInternal order only
    · have read : OnlyRegular { ac with reader := ac.reader ++ more, readerErr := failure } := only
      exact goes_refreshed read trivial rfl
  · exact broken err
  · unfold transfer valkeyAsyncWrite
    dsimp only
    split
    · exact keepsGoing_disconnectInternal order only
    · have written : OnlyRegular { ac with obuf := ac.obuf.drop count } := only
      exact goes_refreshed written trivial rfl
  · exact broken err

theorem keepsGoing_afterConnect (only : OnlyRegular ac) (next : Transfer) :
    KeepsGoing ac.replies ac.served (afterConnect order ac next) := by
  unfold afterConnect
  split
  · exact (closes_disconnect order only .idle).mono fun _ closes => closes.goes
  split
  · exact (closes_free order only .idle).goes
  · exact keepsGoing_transfer order only next

theorem keepsGoing_handle (only : OnlyRegular ac) (outcome : ConnectOutcome) (next : Transfer) :
    KeepsGoing ac.replies ac.served (valkeyAsyncHandle order ac outcome next) := by
  unfold valkeyAsyncHandle valkeyAsyncHandleConnect
  split
  · exact keepsGoing_transfer order only next
  cases outcome with
  | pending => exact goes_none only trivial rfl
  | failed err =>
      have failed : OnlyRegular { ac with cErr := some err, err := some err } := only
      dsimp only
      split
      · exact ⟨only, trivial, .none rfl rfl rfl⟩
      · exact keepsGoing_disconnectInternal order failed
  | noDelay err =>
      have failed : OnlyRegular { ac with cErr := some err } := only
      dsimp only
      split
      · exact ⟨only, trivial, .none rfl rfl rfl⟩
      · exact keepsGoing_disconnectInternal order failed
  | done =>
      have connected : OnlyRegular { ac with connected := true } := only
      dsimp only
      split
      · exact ⟨only, trivial, .none rfl rfl rfl⟩
      · exact keepsGoing_afterConnect order connected next

theorem goes_handleTimeout (only : OnlyRegular ac) :
    Goes ac.replies ac.served (valkeyAsyncHandleTimeout ac) := by
  unfold valkeyAsyncHandleTimeout
  split
  · exact ⟨only, trivial, .none rfl rfl rfl⟩
  split
  · exact goes_none only trivial rfl
  split
  · have idle : OnlyRegular { ac with timeoutReplyCount := none } := only
    exact goes_refreshed idle trivial rfl
  · obtain ⟨failure, err, same⟩ := setTimeoutError_spec ac
    dsimp only
    rw [same]
    split
    · exact ⟨only, trivial, .none rfl rfl rfl⟩
    · exact ⟨only, trivial, .none rfl rfl rfl⟩

/-! ## The loops -/

/-- The callback that waits first is run with `NULL`. -/
theorem goes_cancel {rest : List (Callback Fn Data)} {cb : Callback Fn Data} (only : OnlyRegular ac)
    (waiting : ac.replies = cb :: rest) (resume : Resume Fn Data) (label : AsyncLabel Fn Data)
    (served : resume.isServed = true) (quiet : label.isServed = false)
    (noneLeft : (AsyncLabel.callback resume).NoSubscriptions ∧ label.NoSubscriptions) :
    Goes ac.replies ac.served
      (if ({ ac with replies := rest }.answer cb none).1 then .callback resume else label,
        ({ ac with replies := rest }.answer cb none).2) := by
  unfold ValkeyAsyncContext.answer
  dsimp only
  cases fn : cb.fn with
  | none => exact ⟨only, noneLeft.2, .first none waiting rfl (by rw [fn]; exact quiet)⟩
  | some callback => exact ⟨only, noneLeft.1, .first none waiting rfl (by rw [fn]; exact served)⟩

theorem keepsGoing_timeoutReplies (only : OnlyRegular ac)
    (callbacks : ∀ cb ∈ ac.replies, cb.fn ≠ some .ssubscribe) :
    KeepsGoing ac.replies ac.served (timeoutReplies order ac) := by
  unfold timeoutReplies
  split
  · exact keepsGoing_disconnectInternal order only
  · rename_i cb rest waiting
    have regular := callbacks cb (waiting ▸ List.mem_cons_self)
    rw [runCallback_answer regular]
    exact goes_cancel only waiting .timeout .timeout rfl rfl ⟨trivial, trivial⟩

theorem keepsGoing_freeCallbacks (only : OnlyRegular ac)
    (callbacks : ∀ cb ∈ ac.replies, cb.fn ≠ some .ssubscribe) :
    KeepsGoing ac.replies ac.served (freeCallbacks ac []) := by
  have noSubReplies : ac.subReplies = [] := only.2.2.1
  unfold freeCallbacks
  dsimp only
  split
  · rename_i cb rest waiting
    have regular := callbacks cb (waiting ▸ List.mem_cons_self)
    rw [runCallback_answer regular]
    exact goes_cancel only waiting (.freeing []) (.freeing []) rfl rfl ⟨rfl, rfl⟩
  · rename_i cb rest _ waiting
    rw [noSubReplies] at waiting
    cases waiting
  · contradiction
  · split
    · exact ⟨only, trivial, .none rfl rfl rfl⟩
    · exact goes_none only trivial rfl

theorem keepsGoing_afterCallback (only : OnlyRegular ac) {resume : Resume Fn Data}
    (subscriptions : (AsyncLabel.callback resume).NoSubscriptions) :
    KeepsGoing ac.replies ac.served (afterCallback order ac resume) := by
  cases resume with
  | connected next => exact keepsGoing_afterConnect order only next
  | connectFailed => exact keepsGoing_disconnectInternal order only
  | connectTimeout => exact goes_none only trivial rfl
  | timeout => exact goes_none only trivial rfl
  | push => exact goes_none only trivial rfl
  | reply cb => exact goes_afterReply order only cb
  | freeing left => exact goes_none only subscriptions rfl
  | disconnected => exact goes_none only trivial rfl

/-- A step of the library, at a place where it waits for the event. -/
theorem keepsGoing_asyncStep {state : AsyncState Fn Data} (ordinary : Ordinary state)
    {event : AsyncEvent Fn Data} (library : event.isCall = false)
    (waits : state.1.isIdle = true ∨ event = .proceed) :
    KeepsGoing state.2.replies state.2.served (asyncStep order state event) := by
  obtain ⟨label, ac⟩ := state
  obtain ⟨_, only, callbacks, subscriptions⟩ := ordinary
  rcases waits with idle | rfl
  · obtain rfl := AsyncLabel.eq_idle idle
    cases event with
    | command fn data cmd => cases library
    | disconnect => cases library
    | free => cases library
    | readable outcome input => exact keepsGoing_handle order only outcome _
    | writable outcome output => exact keepsGoing_handle order only outcome _
    | timer => exact goes_handleTimeout only
    | proceed => exact goes_none only trivial rfl
  · cases label with
    | idle => exact goes_none only trivial rfl
    | callback resume =>
        have outside : OnlyRegular { ac with inCallback := false } := only
        exact keepsGoing_afterCallback order outside subscriptions
    | processing => exact keepsGoing_processCallbacks order only callbacks
    | timeout => exact keepsGoing_timeoutReplies order only callbacks
    | freeing left =>
        obtain rfl : left = [] := subscriptions
        exact keepsGoing_freeCallbacks only callbacks
    | gone => exact goes_none only trivial rfl

/-- The context stays ordinary. -/
theorem Ordinary.asyncStep {state : AsyncState Fn Data} (ordinary : Ordinary state)
    {event : AsyncEvent Fn Data} (library : event.isCall = false)
    (waits : state.1.isIdle = true ∨ event = .proceed) :
    Ensures (asyncStep order state event) (fun _ => True) fun next =>
      Ordinary next ∧ Serves state.2.replies state.2.served next := by
  have consistent := keepsConsistent_asyncStep order event ordinary.consistent
    fun impossible => impossible.elim
  apply (consistent.and (keepsGoing_asyncStep order ordinary library waits)).mono
  rintro ⟨label, next⟩ ⟨consistent, only, subscriptions, serves⟩
  refine ⟨⟨consistent, only, ?_, subscriptions⟩, serves⟩
  cases serves with
  | none waiting run quiet => exact waiting ▸ ordinary.callbacks
  | first reply waiting run runs =>
      intro cb member
      exact ordinary.callbacks cb (waiting ▸ List.mem_cons_of_mem _ member)

/-! ## Calls -/

/-- What is known at a label is still known when no command is accepted any more. -/
theorem consistent_closed {label : AsyncLabel Fn Data} {ac next : ValkeyAsyncContext Fn Data}
    (consistent : Consistent False (label, ac)) (inCallback : next.inCallback = ac.inCallback)
    (cErr : next.cErr = ac.cErr) (replies : next.replies = ac.replies)
    (subReplies : next.subReplies = ac.subReplies) (closed : next.Closed) :
    Consistent False (label, next) := by
  cases label with
  | idle => exact ⟨inCallback.trans consistent.1, fun impossible => impossible.elim⟩
  | callback resume =>
        exact consistent_closing_callback consistent inCallback cErr replies subReplies closed
  | processing => exact ⟨inCallback.trans consistent.1, fun impossible => impossible.elim⟩
  | timeout =>
        exact ⟨inCallback.trans consistent.1, fun clean => consistent.2 (cErr.symm.trans clean)⟩
  | freeing subscriptions => exact ⟨inCallback.trans consistent.1, closed⟩
  | gone => exact ⟨replies.trans consistent.1, subReplies.trans consistent.2⟩

theorem Ordinary.closes {state next : AsyncState Fn Data} (ordinary : Ordinary state)
    (closes : Closes state.1 state.2 next) (consistent : Consistent False next) :
    Ordinary next := by
  refine ⟨consistent, closes.only, ?_, closes.subscriptions ordinary.label⟩
  rw [closes.waiting]
  exact ordinary.callbacks

theorem Ordinary.disconnect {label : AsyncLabel Fn Data} (ordinary : Ordinary (label, ac)) :
    Ensures (valkeyAsyncDisconnect order label ac) (fun _ => True) fun next =>
      Ordinary next ∧ Closes label ac next := by
  have consistent : KeepsConsistent False (valkeyAsyncDisconnect order label ac) := by
    unfold valkeyAsyncDisconnect
    dsimp only
    split
    · rename_i quiet
      have outside : ac.inCallback = false := by simpa using quiet.1
      exact keepsConsistent_valkeyAsyncDisconnectInternal order outside (fun _ => rfl)
        fun impossible => impossible.elim
    · exact consistent_closed ordinary.consistent rfl rfl rfl rfl (.inl rfl)
  apply (consistent.and (closes_disconnect order ordinary.only label)).mono
  rintro next ⟨consistent, closes⟩
  exact ⟨ordinary.closes closes consistent, closes⟩

theorem Ordinary.free {label : AsyncLabel Fn Data} (ordinary : Ordinary (label, ac)) :
    Ordinary (valkeyAsyncFree order label ac) ∧ Closes label ac
      (valkeyAsyncFree order label ac) := by
  have closes := closes_free order ordinary.only label
  refine ⟨ordinary.closes closes ?_, closes⟩
  unfold valkeyAsyncFree
  dsimp only
  split
  · exact consistent_closed ordinary.consistent rfl rfl rfl rfl (.inr rfl)
  · rename_i outside
    exact consistent_valkeyAsyncFreeInternal order (by simpa using outside) (.inr rfl)

/-- The command is one that is not treated in a special way. -/
def RegularCommand (cmd : Bytes) : Prop :=
  ∀ first, nextArgument cmd = some first → commandKind first = .regular

theorem appended_regular {fn : Option Fn} {data : Data} {cmd : Bytes}
    {next : ValkeyAsyncContext Fn Data} (regular : RegularCommand cmd)
    (unsubscribed : ac.isSubscribed = false)
    (accepted : valkeyAsyncAppendCmdLen ac fn data cmd = (.ok, next)) :
    ¬ac.Closed ∧ next =
      ({ ac with replies := ac.replies ++ [newCallback ac.submitted.length fn data] }).writeCommand
        ⟨fn, data, cmd⟩ := by
  unfold valkeyAsyncAppendCmdLen at accepted
  split at accepted
  · cases accepted
  rename_i accepts
  refine ⟨accepts, ?_⟩
  cases found : nextArgument cmd with
  | none =>
      rw [found] at accepted
      cases accepted
  | some first =>
      have registered : registerCommand ac fn data cmd first =
          some (pushCallback ac.isSubscribed ac (newCallback ac.submitted.length fn data)) := by
        unfold registerCommand
        dsimp only
        rw [regular first found]
      rw [found] at accepted
      dsimp only at accepted
      rw [registered, unsubscribed] at accepted
      cases accepted
      rfl

theorem consistent_appended {label : AsyncLabel Fn Data} (present : label ≠ .gone)
    (consistent : Consistent False (label, ac)) (fn : Option Fn) (data : Data) (cmd : Bytes) :
    Consistent False (label, (valkeyAsyncAppendCmdLen ac fn data cmd).2) := by
  have same := sameFlags_valkeyAsyncAppendCmdLen ac fn data cmd
  cases label with
  | idle => exact consistent_command_idle fn data cmd consistent
  | callback resume => exact consistent_command_callback fn data cmd consistent
  | processing => exact ⟨same.inCallback.trans consistent.1, fun impossible => impossible.elim⟩
  | timeout =>
      exact ⟨same.inCallback.trans consistent.1, fun clean =>
        consistent.2 (same.cErr.symm.trans clean)⟩
  | freeing subscriptions =>
      rw [valkeyAsyncAppendCmdLen_closed consistent.2]
      exact consistent
  | gone => exact absurd rfl present

/-- The callback of a regular command that is accepted waits behind the others. -/
theorem Ordinary.append {label : AsyncLabel Fn Data} (ordinary : Ordinary (label, ac))
    (present : label ≠ .gone) {fn : Option Fn} {data : Data} {cmd : Bytes}
    {next : ValkeyAsyncContext Fn Data} (regular : RegularCommand cmd)
    (accepted : valkeyAsyncAppendCmdLen ac fn data cmd = (.ok, next)) :
    Ordinary (label, next) ∧ next.served = ac.served ∧
      next.replies = ac.replies ++ [newCallback ac.submitted.length fn data] := by
  have consistent := consistent_appended present ordinary.consistent fn data cmd
  rw [accepted] at consistent
  obtain ⟨_, appended⟩ := appended_regular regular ordinary.only.1 accepted
  obtain ⟨count, written⟩ := ValkeyAsyncContext.writeCommand_eq
    { ac with replies := ac.replies ++ [newCallback ac.submitted.length fn data] } ⟨fn, data, cmd⟩
  rw [written] at appended
  subst appended
  refine ⟨⟨consistent, ordinary.only, ?_, ordinary.label⟩, rfl, rfl⟩
  intro cb member
  rcases List.mem_append.mp member with old | new
  · exact ordinary.callbacks cb old
  · rw [List.mem_singleton.mp new]
    cases fn <;> simp [newCallback]

theorem ordinary_valkeyAsyncInitialize (options : AsyncOptions) :
    Ordinary (.idle, valkeyAsyncInitialize Fn Data options) where
  consistent := consistent_valkeyAsyncInitialize options
  only := ⟨rfl, rfl, rfl, rfl, rfl, rfl⟩
  callbacks := fun _ impossible => nomatch impossible
  label := trivial

end Library

end Libvalkey
