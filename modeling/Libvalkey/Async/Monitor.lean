import Libvalkey.Async.Ledger
import Libvalkey.Async.Control

/-! # Regular commands and `MONITOR`

In monitor mode the callback that was run waits again, whichever it is. Where `MONITOR` is
submitted while nothing waits, and is the last command, this is always the callback of
`MONITOR`. -/

namespace Libvalkey

open Checked

variable {Fn Data : Type}

/-- The callback of `MONITOR`, which is submitted after some commands. -/
def monitorCallback (before : List (Submission Fn Data)) (last : Submission Fn Data) :
    Callback Fn Data := newCallback before.length last.fn last.data

/-- The commands before `MONITOR` were answered once, and only its callback waits. After the
replies some callbacks may have got `NULL`. -/
structure MonitorLedger (before : List (Submission Fn Data)) (last : Submission Fn Data)
    (ac : ValkeyAsyncContext Fn Data) (nulls : Nat) : Prop where
  submitted : ac.submitted = before ++ [last]
  callbacks : ∃ times, ac.served.map (·.callback) =
    acceptedCallbacks before ++ List.replicate times (monitorCallback before last)
  given : ac.served.map (·.reply) = (inBand ac.processed).map some ++ List.replicate nulls none
  waiting : ∀ cb ∈ ac.replies, cb = monitorCallback before last
  pushes : ∀ reply ∈ ac.reader, valkeyIsPushReply reply = true →
    valkeyIsSubscribeReply reply = false
  monitoring : ac.monitoring = true
  unsubscribed : ac.isSubscribed = false ∧ ac.subReplies = [] ∧ ac.channels.entries = [] ∧
    ac.patterns.entries = [] ∧ ac.schannels.entries = []

/-- Lines can be processed. -/
def Listens (before : List (Submission Fn Data)) (last : Submission Fn Data)
    (ac : ValkeyAsyncContext Fn Data) (nulls : Nat) : Prop :=
  nulls = 0 ∧ ac.replies = [monitorCallback before last]

/-- The messages that are read are not those of subscriptions. -/
def PushesLines : Transfer → Prop
  | .read (.replies more _) =>
      ∀ reply ∈ more, valkeyIsPushReply reply = true → valkeyIsSubscribeReply reply = false
  | _ => True

/-- What is known at a label, besides what is always known there. -/
def MonitorFits (before : List (Submission Fn Data)) (last : Submission Fn Data)
    (ac : ValkeyAsyncContext Fn Data) (nulls : Nat) : AsyncLabel Fn Data → Prop
  | .idle => ac.cErr = none → Listens before last ac nulls
  | .processing | .callback .push => ac.cErr = none ∧ Listens before last ac nulls
  | .callback (.connected next) =>
      PushesLines next ∧ (ac.cErr = none → Listens before last ac nulls)
  | .callback (.reply cb) =>
      ac.cErr = none ∧ nulls = 0 ∧ ac.replies = [] ∧ cb = monitorCallback before last
  | .freeing subscriptions | .callback (.freeing subscriptions) =>
      subscriptions = [] ∧ (ac.cErr ≠ none ∨ ac.freeing = true)
  | _ => True

/-- The invariant after `MONITOR`. -/
def Monitored (before : List (Submission Fn Data)) (last : Submission Fn Data)
    (state : AsyncState Fn Data) : Prop :=
  ∃ nulls, MonitorLedger before last state.2 nulls ∧ MonitorFits before last state.2 nulls state.1 ∧
    (0 < nulls → state.2.cErr ≠ none ∨ state.2.freeing = true)

def KeepsMonitored (before : List (Submission Fn Data)) (last : Submission Fn Data)
    (computation : Except AsyncFault (AsyncState Fn Data)) : Prop :=
  Ensures computation (fun _ => False) (Monitored before last)

/-! ## What the library does -/

section Library

variable (order : IterationOrder) {before : List (Submission Fn Data)} {last : Submission Fn Data}
  {ac : ValkeyAsyncContext Fn Data} {nulls : Nat}

namespace MonitorLedger

theorem push {reply : ReplyTree} {rest : List ReplyTree}
    (ledger : MonitorLedger before last ac nulls) (reader : ac.reader = reply :: rest)
    (pushed : valkeyIsPushReply reply = true) :
    MonitorLedger before last (receiveReply ac reply rest) nulls := by
  have same : inBand (ac.processed ++ [reply]) = inBand ac.processed := by
    rw [inBand_append, inBand_push pushed]
    simp [inBand]
  refine ⟨ledger.submitted, ledger.callbacks, ?_, ledger.waiting, fun other member => ?_,
    ledger.monitoring, ledger.unsubscribed⟩
  · exact ledger.given.trans (by rw [receiveReply, same])
  · apply ledger.pushes other
    rw [reader]
    exact List.mem_cons_of_mem _ member

/-- A line is given to the callback of `MONITOR`. -/
theorem answer {reply : ReplyTree} {rest : List ReplyTree} (ledger : MonitorLedger before last ac 0)
    (reader : ac.reader = reply :: rest) (regular : valkeyIsPushReply reply = false) :
    MonitorLedger before last
      ({ receiveReply ac reply rest with replies := [] }.serve (monitorCallback before last)
        (some reply)) 0 := by
  have more : inBand (ac.processed ++ [reply]) = inBand ac.processed ++ [reply] := by
    rw [inBand_append, inBand_reply regular]
    rfl
  obtain ⟨times, callbacks⟩ := ledger.callbacks
  refine ⟨ledger.submitted, ⟨times + 1, ?_⟩, ?_, (fun cb member => nomatch member),
    fun other member => ?_, ledger.monitoring, ledger.unsubscribed⟩
  · change (ac.served ++ [(⟨monitorCallback before last, some reply⟩ : Served Fn Data)]).map
      (·.callback) = _
    rw [List.map_append, callbacks, List.replicate_succ', List.append_assoc]
    rfl
  · change (ac.served ++ [(⟨monitorCallback before last, some reply⟩ : Served Fn Data)]).map
      (·.reply) =
      (inBand (ac.processed ++ [reply])).map some ++ _
    rw [List.map_append, ledger.given, more, List.map_append]
    simp
  · apply ledger.pushes other
    rw [reader]
    exact List.mem_cons_of_mem _ member

/-- `NULL` is given to the callback of `MONITOR`. -/
theorem null {rest : List (Callback Fn Data)} (ledger : MonitorLedger before last ac nulls)
    (replies : ac.replies = monitorCallback before last :: rest) :
    MonitorLedger before last
      ({ ac with replies := rest }.serve (monitorCallback before last) none) (nulls + 1) := by
  obtain ⟨times, callbacks⟩ := ledger.callbacks
  refine ⟨ledger.submitted, ⟨times + 1, ?_⟩, ?_, fun cb member => ?_, ledger.pushes,
    ledger.monitoring, ledger.unsubscribed⟩
  · change (ac.served ++ [(⟨monitorCallback before last, none⟩ : Served Fn Data)]).map
      (·.callback) = _
    rw [List.map_append, callbacks, List.replicate_succ', List.append_assoc]
    rfl
  · change (ac.served ++ [(⟨monitorCallback before last, none⟩ : Served Fn Data)]).map (·.reply) = _
    rw [List.map_append, ledger.given, List.replicate_succ', List.append_assoc]
    rfl
  · apply ledger.waiting
    rw [replies]
    exact List.mem_cons_of_mem _ member

theorem read {more : List ReplyTree} (ledger : MonitorLedger before last ac nulls)
    (failure : Option ContextError)
    (pushes : ∀ reply ∈ more, valkeyIsPushReply reply = true →
      valkeyIsSubscribeReply reply = false) :
    MonitorLedger before last
      { ac with reader := ac.reader ++ more, readerErr := failure } nulls := by
  refine ⟨ledger.submitted, ledger.callbacks, ledger.given, ledger.waiting, fun reply member => ?_,
    ledger.monitoring, ledger.unsubscribed⟩
  rcases List.mem_append.mp member with old | new
  · exact ledger.pushes reply old
  · exact pushes reply new

/-- What the ledger is not about can change. -/
theorem of_same {next : ValkeyAsyncContext Fn Data} (ledger : MonitorLedger before last ac nulls)
    (submitted : next.submitted = ac.submitted) (served : next.served = ac.served)
    (processed : next.processed = ac.processed) (replies : next.replies = ac.replies)
    (reader : next.reader = ac.reader) (monitoring : next.monitoring = ac.monitoring)
    (isSubscribed : next.isSubscribed = ac.isSubscribed)
    (subReplies : next.subReplies = ac.subReplies) (channels : next.channels = ac.channels)
    (patterns : next.patterns = ac.patterns)
    (schannels : next.schannels = ac.schannels) : MonitorLedger before last next nulls := by
  obtain ⟨times, callbacks⟩ := ledger.callbacks
  refine ⟨submitted.trans ledger.submitted, ⟨times, ?_⟩, ?_, ?_, ?_,
    monitoring.trans ledger.monitoring, ?_⟩
  · rw [served]
    exact callbacks
  · rw [served, processed]
    exact ledger.given
  · rw [replies]
    exact ledger.waiting
  · rw [reader]
    exact ledger.pushes
  · rw [isSubscribed, subReplies, channels, patterns, schannels]
    exact ledger.unsubscribed

end MonitorLedger

/-- The function of the user, or none. -/
theorem runCallback_monitor (ac : ValkeyAsyncContext Fn Data) (reply : Option ReplyTree) :
    runCallback ac (monitorCallback before last) reply = .ok (match last.fn with
      | none => (false, ac.serve (monitorCallback before last) reply)
      | some _ => (true, (ac.serve (monitorCallback before last) reply).enter)) :=
  runCallback_regular ac before.length last.fn last.data reply

theorem monitored_valkeyAsyncFreeInternal (ledger : MonitorLedger before last ac nulls)
    (ending : ac.cErr ≠ none ∨ ac.freeing = true) :
    Monitored before last (valkeyAsyncFreeInternal order ac) := by
  obtain ⟨_, _, channels, patterns, schannels⟩ := ledger.unsubscribed
  refine ⟨nulls, ledger, ⟨?_, ending⟩, fun _ => ending⟩
  simp [Dictionary.values, channels, patterns, schannels, order_nil]

/-- A context with an error is freed, or stays. -/
theorem keepsMonitored_broken (ledger : MonitorLedger before last ac nulls)
    (failed : ac.cErr ≠ none) :
    KeepsMonitored before last (valkeyAsyncDisconnectInternal order ac) := by
  unfold valkeyAsyncDisconnectInternal
  dsimp only
  rw [if_neg fun both => failed both.1, if_neg failed]
  split
  · refine ⟨nulls, ?_, fun clean => absurd clean failed, fun _ => .inl failed⟩
    exact ledger.of_same rfl rfl rfl rfl rfl rfl rfl rfl rfl rfl rfl
  · refine @monitored_valkeyAsyncFreeInternal Fn Data order before last
      { ac with err := ac.cErr, disconnecting := true } nulls ?_ (.inl failed)
    exact ledger.of_same rfl rfl rfl rfl rfl rfl rfl rfl rfl rfl rfl

/-- The callback waits again. -/
theorem monitored_afterReply (ledger : MonitorLedger before last ac 0) (replies : ac.replies = [])
    (clean : ac.cErr = none) :
    Monitored before last (afterReply order (monitorCallback before last) ac) := by
  unfold afterReply
  split
  · rename_i freeing
    exact monitored_valkeyAsyncFreeInternal order ledger (.inr freeing)
  · have pushed : repush (monitorCallback before last) ac =
        { ac with replies := [monitorCallback before last] } := by
      rw [repush, if_pos ledger.monitoring, pushCallback, replies]
      rfl
    rw [pushed]
    refine ⟨0, ?_, ⟨clean, rfl, rfl⟩, fun impossible => absurd impossible (by decide)⟩
    obtain ⟨times, callbacks⟩ := ledger.callbacks
    exact ⟨ledger.submitted, ⟨times, callbacks⟩, ledger.given, fun cb member =>
      List.mem_singleton.mp member,
      ledger.pushes, ledger.monitoring, ledger.unsubscribed⟩

theorem keepsMonitored_deliverReply {reply : ReplyTree} (replies : ac.replies = [])
    (ledger : MonitorLedger before last (ac.serve (monitorCallback before last) (some reply)) 0)
    (clean : ac.cErr = none) :
    KeepsMonitored before last (deliverReply order ac (monitorCallback before last) reply) := by
  unfold deliverReply
  split
  · have pushed : repush (monitorCallback before last)
        (ac.serve (monitorCallback before last) (some reply)) =
        { ac.serve (monitorCallback before last) (some reply) with
          replies := [monitorCallback before last] } := by
      have monitoring : (ac.serve (monitorCallback before last) (some reply)).monitoring = true :=
        ledger.monitoring
      rw [repush, if_pos monitoring, pushCallback]
      simp [ValkeyAsyncContext.serve, replies]
    rw [pushed]
    obtain ⟨times, callbacks⟩ := ledger.callbacks
    refine ⟨0, ?_, ⟨clean, rfl, rfl⟩, fun impossible => absurd impossible (by decide)⟩
    exact ⟨ledger.submitted, ⟨times, callbacks⟩, ledger.given, fun cb member =>
      List.mem_singleton.mp member,
      ledger.pushes, ledger.monitoring, ledger.unsubscribed⟩
  · rename_i function
    rw [runCallback_monitor]
    cases known : last.fn with
    | none =>
        refine absurd ?_ function
        rw [monitorCallback, newCallback, known]
        rfl
    | some fn =>
        refine ⟨0, ?_, ⟨clean, rfl, replies, rfl⟩, fun impossible => absurd impossible (by decide)⟩
        exact ledger.of_same rfl rfl rfl rfl rfl rfl rfl rfl rfl rfl rfl

theorem keepsMonitored_processReply {reply : ReplyTree} {rest : List ReplyTree}
    (ledger : MonitorLedger before last ac nulls) (listens : Listens before last ac nulls)
    (clean : ac.cErr = none) (reader : ac.reader = reply :: rest) :
    KeepsMonitored before last (processReply order (receiveReply ac reply rest) reply) := by
  obtain ⟨rfl, replies⟩ := listens
  have received : (receiveReply ac reply rest).replies = [monitorCallback before last] := replies
  unfold processReply
  cases pushed : valkeyIsPushReply reply with
  | true =>
      have first : reply ∈ ac.reader := by
        rw [reader]
        exact List.mem_cons_self
      have spontaneous : valkeyIsSpontaneousPushReply reply = true := by
        rw [valkeyIsSpontaneousPushReply, pushed, ledger.pushes reply first pushed]
        rfl
      have after := ledger.push reader pushed
      rw [if_pos spontaneous]
      split
      · refine ⟨0, ?_, ⟨clean, rfl, replies⟩, fun impossible => absurd impossible (by decide)⟩
        exact after.of_same rfl rfl rfl rfl rfl rfl rfl rfl rfl rfl rfl
      · exact ⟨0, after, ⟨clean, rfl, replies⟩, fun impossible => absurd impossible (by decide)⟩
  | false =>
      have inBand : ¬valkeyIsSpontaneousPushReply reply = true := by
        simp [valkeyIsSpontaneousPushReply, pushed]
      rw [if_neg inBand, received]
      exact keepsMonitored_deliverReply order rfl (ledger.answer reader pushed) clean

theorem keepsMonitored_valkeyProcessCallbacks (ledger : MonitorLedger before last ac nulls)
    (listens : Listens before last ac nulls) (clean : ac.cErr = none) :
    KeepsMonitored before last (valkeyProcessCallbacks order ac) := by
  unfold valkeyProcessCallbacks
  split
  · rename_i reply rest reader
    exact keepsMonitored_processReply order ledger listens clean reader
  · split
    · rename_i err _
      have failed : MonitorLedger before last { ac with cErr := some err } nulls :=
        ledger.of_same rfl rfl rfl rfl rfl rfl rfl rfl rfl rfl rfl
      exact keepsMonitored_broken order failed (Option.some_ne_none err)
    · split
      · rename_i done
        rw [listens.2] at done
        exact nomatch done.2.2
      · refine ⟨nulls, ledger, fun _ => listens, fun positive => ?_⟩
        rw [listens.1] at positive
        exact absurd positive (by decide)

theorem keepsMonitored_transfer {next : Transfer} (ledger : MonitorLedger before last ac nulls)
    (listens : ac.cErr = none → Listens before last ac nulls) (pushes : PushesLines next)
    (silent : 0 < nulls → ac.cErr ≠ none ∨ ac.freeing = true) :
    KeepsMonitored before last (transfer order ac next) := by
  have broken (err : ContextError) : KeepsMonitored before last
      (valkeyAsyncDisconnectInternal order { ac with cErr := some (ac.cErr.getD err) }) := by
    have failed : MonitorLedger before last { ac with cErr := some (ac.cErr.getD err) } nulls :=
      ledger.of_same rfl rfl rfl rfl rfl rfl rfl rfl rfl rfl rfl
    exact keepsMonitored_broken order failed (Option.some_ne_none _)
  rcases next with (⟨more, failure⟩ | err) | (count | err)
  · unfold transfer valkeyAsyncRead
    dsimp only
    split
    · rename_i failed
      exact keepsMonitored_broken order ledger (Option.isSome_iff_ne_none.mp failed)
    · rename_i healthy
      have clean : ac.cErr = none := by simpa using healthy
      obtain ⟨count, refreshed⟩ := ValkeyAsyncContext.refreshTimeout_eq
        { ac with reader := ac.reader ++ more, readerErr := failure }
      rw [refreshed]
      have read := ledger.read failure pushes
      refine ⟨nulls, ?_, ⟨clean, listens clean⟩, silent⟩
      exact read.of_same rfl rfl rfl rfl rfl rfl rfl rfl rfl rfl rfl
  · exact broken err
  · unfold transfer valkeyAsyncWrite
    dsimp only
    split
    · rename_i failed
      exact keepsMonitored_broken order ledger (Option.isSome_iff_ne_none.mp failed)
    · obtain ⟨count', refreshed⟩ := ValkeyAsyncContext.refreshTimeout_eq
        { ac with obuf := ac.obuf.drop count }
      rw [refreshed]
      refine ⟨nulls, ?_, listens, silent⟩
      exact ledger.of_same rfl rfl rfl rfl rfl rfl rfl rfl rfl rfl rfl
  · exact broken err

/-- The callback of `MONITOR` waits, unless there is an error. -/
theorem keepsMonitored_disconnect_idle (ledger : MonitorLedger before last ac nulls)
    (listens : ac.cErr = none → Listens before last ac nulls)
    (silent : 0 < nulls → ac.cErr ≠ none ∨ ac.freeing = true) :
    KeepsMonitored before last (valkeyAsyncDisconnect order .idle ac) := by
  have disconnecting : MonitorLedger before last
      { ac with disconnecting := true, noAutoFree := false } nulls :=
    ledger.of_same rfl rfl rfl rfl rfl rfl rfl rfl rfl rfl rfl
  unfold valkeyAsyncDisconnect
  dsimp only
  split
  · rename_i now
    refine keepsMonitored_broken order disconnecting fun clean => ?_
    rw [(listens clean).2] at now
    exact nomatch now.2
  · exact ⟨nulls, disconnecting, listens, silent⟩

theorem monitored_free_idle (ledger : MonitorLedger before last ac nulls)
    (outside : ac.inCallback = false) : Monitored before last (valkeyAsyncFree order .idle ac) := by
  have inside : ¬ac.inCallback = true := by simp [outside]
  have freeing : MonitorLedger before last { ac with freeing := true } nulls :=
    ledger.of_same rfl rfl rfl rfl rfl rfl rfl rfl rfl rfl rfl
  unfold valkeyAsyncFree
  dsimp only
  rw [if_neg inside]
  exact monitored_valkeyAsyncFreeInternal order freeing (.inr rfl)

theorem keepsMonitored_afterConnect {next : Transfer} (ledger : MonitorLedger before last ac nulls)
    (outside : ac.inCallback = false) (pushes : PushesLines next)
    (listens : ac.cErr = none → Listens before last ac nulls)
    (silent : 0 < nulls → ac.cErr ≠ none ∨ ac.freeing = true) :
    KeepsMonitored before last (afterConnect order ac next) := by
  unfold afterConnect
  split
  · exact keepsMonitored_disconnect_idle order ledger listens silent
  · split
    · exact monitored_free_idle order ledger outside
    · exact keepsMonitored_transfer order ledger listens pushes silent

theorem keepsMonitored_valkeyAsyncHandle {next : Transfer} {outcome : ConnectOutcome}
    (ledger : MonitorLedger before last ac nulls) (outside : ac.inCallback = false)
    (pushes : PushesLines next) (listens : ac.cErr = none → Listens before last ac nulls)
    (silent : 0 < nulls → ac.cErr ≠ none ∨ ac.freeing = true) :
    KeepsMonitored before last (valkeyAsyncHandle order ac outcome next) := by
  unfold valkeyAsyncHandle valkeyAsyncHandleConnect
  split
  · exact keepsMonitored_transfer order ledger listens pushes silent
  · cases outcome with
    | pending => exact ⟨nulls, ledger, listens, silent⟩
    | failed err =>
        have error : some err ≠ none := Option.some_ne_none err
        have failed : MonitorLedger before last
            { ac with cErr := some err, err := some err } nulls :=
          ledger.of_same rfl rfl rfl rfl rfl rfl rfl rfl rfl rfl rfl
        dsimp only
        split
        · refine ⟨nulls, ?_, trivial, fun _ => .inl error⟩
          exact failed.of_same rfl rfl rfl rfl rfl rfl rfl rfl rfl rfl rfl
        · exact keepsMonitored_broken order failed error
    | noDelay err =>
        have error : some err ≠ none := Option.some_ne_none err
        have failed : MonitorLedger before last { ac with cErr := some err } nulls :=
          ledger.of_same rfl rfl rfl rfl rfl rfl rfl rfl rfl rfl rfl
        dsimp only
        split
        · refine ⟨nulls, ?_, trivial, fun _ => .inl error⟩
          exact failed.of_same rfl rfl rfl rfl rfl rfl rfl rfl rfl rfl rfl
        · exact keepsMonitored_broken order failed error
    | done =>
        have connected : MonitorLedger before last { ac with connected := true } nulls :=
          ledger.of_same rfl rfl rfl rfl rfl rfl rfl rfl rfl rfl rfl
        dsimp only
        split
        · refine ⟨nulls, ?_, ⟨pushes, listens⟩, silent⟩
          exact connected.of_same rfl rfl rfl rfl rfl rfl rfl rfl rfl rfl rfl
        · exact keepsMonitored_afterConnect order connected outside pushes listens silent

theorem monitored_valkeyAsyncHandleTimeout (ledger : MonitorLedger before last ac nulls)
    (listens : ac.cErr = none → Listens before last ac nulls)
    (silent : 0 < nulls → ac.cErr ≠ none ∨ ac.freeing = true) :
    Monitored before last (valkeyAsyncHandleTimeout ac) := by
  unfold valkeyAsyncHandleTimeout
  split
  · refine ⟨nulls, ?_, listens, silent⟩
    exact ledger.of_same rfl rfl rfl rfl rfl rfl rfl rfl rfl rfl rfl
  · split
    · exact ⟨nulls, ledger, listens, silent⟩
    · split
      · obtain ⟨count, refreshed⟩ := ValkeyAsyncContext.refreshTimeout_eq
          { ac with timeoutReplyCount := none }
        rw [refreshed]
        refine ⟨nulls, ?_, listens, silent⟩
        exact ledger.of_same rfl rfl rfl rfl rfl rfl rfl rfl rfl rfl rfl
      · obtain ⟨failure, err, same⟩ := setTimeoutError_spec ac
        have error : some failure ≠ none := Option.some_ne_none failure
        dsimp only
        rw [same]
        split
        · refine ⟨nulls, ?_, trivial, fun _ => .inl error⟩
          exact ledger.of_same rfl rfl rfl rfl rfl rfl rfl rfl rfl rfl rfl
        · refine ⟨nulls, ?_, trivial, fun _ => .inl error⟩
          exact ledger.of_same rfl rfl rfl rfl rfl rfl rfl rfl rfl rfl rfl

theorem keepsMonitored_timeoutReplies (ledger : MonitorLedger before last ac nulls)
    (failed : ac.cErr ≠ none) : KeepsMonitored before last (timeoutReplies order ac) := by
  unfold timeoutReplies
  split
  · exact keepsMonitored_broken order ledger failed
  · rename_i cb rest queue
    have member : cb ∈ ac.replies := by
      rw [queue]
      exact List.mem_cons_self
    obtain rfl := ledger.waiting cb member
    have after := ledger.null queue
    rw [runCallback_monitor]
    cases last.fn with
    | none => exact ⟨nulls + 1, after, trivial, fun _ => .inl failed⟩
    | some fn =>
        refine ⟨nulls + 1, ?_, trivial, fun _ => .inl failed⟩
        exact after.of_same rfl rfl rfl rfl rfl rfl rfl rfl rfl rfl rfl

theorem keepsMonitored_freeCallbacks (ledger : MonitorLedger before last ac nulls)
    (ending : ac.cErr ≠ none ∨ ac.freeing = true) :
    KeepsMonitored before last (freeCallbacks ac []) := by
  unfold freeCallbacks
  dsimp only
  split
  · rename_i cb rest queue
    have member : cb ∈ ac.replies := by
      rw [queue]
      exact List.mem_cons_self
    obtain rfl := ledger.waiting cb member
    have after := ledger.null queue
    rw [runCallback_monitor]
    cases last.fn with
    | none => exact ⟨nulls + 1, after, ⟨rfl, ending⟩, fun _ => ending⟩
    | some fn =>
        refine ⟨nulls + 1, ?_, ⟨rfl, ending⟩, fun _ => ending⟩
        exact after.of_same rfl rfl rfl rfl rfl rfl rfl rfl rfl rfl rfl
  · rename_i cb rest _ queue
    rw [ledger.unsubscribed.2.1] at queue
    cases queue
  · contradiction
  · split
    · refine ⟨nulls, ?_, trivial, fun _ => ending⟩
      exact ledger.of_same rfl rfl rfl rfl rfl rfl rfl rfl rfl rfl rfl
    · exact ⟨nulls, ledger, trivial, fun _ => ending⟩

theorem keepsMonitored_afterCallback {resume : Resume Fn Data}
    (ledger : MonitorLedger before last ac nulls) (outside : ac.inCallback = false)
    (consistent : ResumeConsistent ac resume)
    (fits : MonitorFits before last ac nulls (.callback resume))
    (silent : 0 < nulls → ac.cErr ≠ none ∨ ac.freeing = true) :
    KeepsMonitored before last (afterCallback order ac resume) := by
  cases resume with
  | connected next => exact keepsMonitored_afterConnect order ledger outside fits.1 fits.2 silent
  | connectFailed => exact keepsMonitored_broken order ledger consistent
  | connectTimeout => exact ⟨nulls, ledger, trivial, silent⟩
  | timeout => exact ⟨nulls, ledger, trivial, silent⟩
  | push => exact ⟨nulls, ledger, fits, silent⟩
  | reply cb =>
      obtain ⟨clean, rfl, replies, rfl⟩ := fits
      exact monitored_afterReply order ledger replies clean
  | freeing subscriptions => exact ⟨nulls, ledger, fits, silent⟩
  | disconnected => exact ⟨nulls, ledger, trivial, silent⟩

/-- Both calls only set flags while a callback runs. -/
theorem monitorFits_ending {resume : Resume Fn Data} (disconnecting freeing noAutoFree : Bool)
    (moreFreeing : ac.freeing = true → freeing = true)
    (fits : MonitorFits before last ac nulls (.callback resume)) :
    MonitorFits before last { ac with
      disconnecting := disconnecting, freeing := freeing, noAutoFree := noAutoFree } nulls
      (.callback resume) := by
  cases resume with
  | freeing subscriptions => exact ⟨fits.1, fits.2.imp_right moreFreeing⟩
  | connected next => exact fits
  | push => exact fits
  | reply cb => exact fits
  | _ => trivial

/-- One event, none of them a command. -/
theorem keepsMonitored_asyncStep {state : AsyncState Fn Data} {event : AsyncEvent Fn Data}
    (consistent : Consistent False state) (monitored : Monitored before last state)
    (refused : ∀ fn data cmd, event = .command fn data cmd →
      (valkeyAsyncAppendCmdLen state.2 fn data cmd).2 = state.2)
    (pushes : ∀ outcome input, event = .readable outcome input → PushesLines (.read input)) :
    KeepsMonitored before last (asyncStep order state event) := by
  obtain ⟨label, ac⟩ := state
  obtain ⟨nulls, ledger, fits, silent⟩ := monitored
  have unchanged : KeepsMonitored before last (.ok (label, ac)) := ⟨nulls, ledger, fits, silent⟩
  cases label with
  | idle =>
      cases event with
      | command fn data cmd =>
          unfold asyncStep
          dsimp only
          rw [refused fn data cmd rfl]
          exact unchanged
      | disconnect => exact keepsMonitored_disconnect_idle order ledger fits silent
      | free => exact monitored_free_idle order ledger consistent.1
      | readable outcome input =>
          exact keepsMonitored_valkeyAsyncHandle order ledger consistent.1
            (pushes outcome input rfl) fits
            silent
      | writable outcome output =>
          exact keepsMonitored_valkeyAsyncHandle order ledger consistent.1 trivial fits silent
      | timer => exact monitored_valkeyAsyncHandleTimeout ledger fits silent
      | proceed => exact unchanged
  | callback resume =>
      cases event with
      | command fn data cmd =>
          unfold asyncStep
          dsimp only
          rw [refused fn data cmd rfl]
          exact unchanged
      | disconnect =>
          unfold asyncStep valkeyAsyncDisconnect
          dsimp only
          rw [if_neg fun both => both.1 consistent.1]
          refine ⟨nulls, ?_, monitorFits_ending true ac.freeing false id fits, silent⟩
          exact ledger.of_same rfl rfl rfl rfl rfl rfl rfl rfl rfl rfl rfl
      | free =>
          unfold asyncStep valkeyAsyncFree
          dsimp only
          rw [if_pos consistent.1]
          refine ⟨nulls, ?_, monitorFits_ending ac.disconnecting true ac.noAutoFree
            (fun _ => rfl) fits,
            fun _ => .inr rfl⟩
          exact ledger.of_same rfl rfl rfl rfl rfl rfl rfl rfl rfl rfl rfl
      | proceed =>
          have returned : MonitorLedger before last { ac with inCallback := false } nulls :=
            ledger.of_same rfl rfl rfl rfl rfl rfl rfl rfl rfl rfl rfl
          have known : ResumeConsistent { ac with inCallback := false } resume := by
            have known := consistent.2
            cases resume <;> exact known
          refine keepsMonitored_afterCallback order returned rfl known ?_ silent
          cases resume <;> exact fits
      | readable outcome input => exact unchanged
      | writable outcome output => exact unchanged
      | timer => exact unchanged
  | processing =>
      cases event with
      | proceed => exact keepsMonitored_valkeyProcessCallbacks order ledger fits.2 fits.1
      | _ => exact unchanged
  | timeout =>
      cases event with
      | proceed => exact keepsMonitored_timeoutReplies order ledger consistent.2
      | _ => exact unchanged
  | freeing subscriptions =>
      cases event with
      | proceed =>
          obtain ⟨rfl, ending⟩ := fits
          exact keepsMonitored_freeCallbacks ledger ending
      | _ => exact unchanged
  | gone => cases event <;> exact unchanged

end Library

/-! ## Every run -/

/-- A callback of a command runs. -/
def AsyncLabel.answers : AsyncLabel Fn Data → Bool
  | .callback (.reply _) => true
  | _ => false

/-- Only regular commands and one `MONITOR`, which is submitted while nothing waits, not in the
callback of a command, and after which no command is submitted. The server answers the commands
in order, without messages of subscriptions, and sends lines only in monitor mode. -/
def MonitorsLast (state : AsyncState Fn Data) : AsyncEvent Fn Data → Prop
  | .command _ _ cmd =>
      state.2.disconnecting = false → state.2.freeing = false →
        ∀ first, nextArgument cmd = some first →
          state.2.monitoring = false ∧
            (commandKind first = .regular ∨
              commandKind first = .monitor ∧ state.2.replies = [] ∧ state.1.answers = false)
  | .readable _ (.replies more _) =>
      (∀ reply ∈ more, valkeyIsPushReply reply = true → valkeyIsSubscribeReply reply = false) ∧
        (state.2.monitoring = false →
          (inBand state.2.processed).length + (inBand state.2.reader).length +
            (inBand more).length ≤
            state.2.submitted.length)
  | _ => True

/-- Only regular commands so far, or `MONITOR` after them. -/
def MonitorInvariant (state : AsyncState Fn Data) : Prop :=
  Consistent False state ∧
    (InOrder state ∨ ∃ before last first, Monitored before last state ∧
      nextArgument last.cmd = some first ∧ commandKind first = .monitor)

/-- `MONITOR` is submitted. -/
theorem monitored_of_inOrder {label : AsyncLabel Fn Data} {ac : ValkeyAsyncContext Fn Data}
    {nulls : Nat} (balanced : Balanced ac nulls) (fits : LabelFits ac nulls label)
    (silent : nulls > 0 → ac.cErr ≠ none ∨ ac.freeing = true) (replies : ac.replies = [])
    (answers : label.answers = false) (connected : ac.disconnecting = false)
    (kept : ac.freeing = false) (calls : label = .idle ∨ ∃ resume, label = .callback resume)
    (last : Submission Fn Data) (count : Option Nat) :
    Monitored ac.submitted last
      (label, { ac with
        monitoring := true
        replies := [monitorCallback ac.submitted last]
        obuf := ac.obuf ++ last.cmd
        submitted := ac.submitted ++ [last]
        timeoutReplyCount := count }) := by
  obtain ⟨ledger, isSubscribed, _, subReplies, channels, patterns, schannels⟩ := balanced
  have notEnding : ¬Ending ac := by
    rintro ⟨disconnecting | freeing, _⟩
    · exact absurd (disconnecting.symm.trans connected) (by decide)
    · exact absurd (freeing.symm.trans kept) (by decide)
  refine ⟨nulls, ⟨rfl, ⟨0, ?_⟩, ledger.given, fun cb member => List.mem_singleton.mp member,
    ledger.pushes,
    rfl, isSubscribed, subReplies, channels, patterns, schannels⟩, ?_, silent⟩
  · have callbacks := ledger.callbacks
    rw [replies, List.append_nil] at callbacks
    exact callbacks.trans (List.append_nil _).symm
  · rcases calls with rfl | ⟨resume, rfl⟩
    · exact fun clean => ⟨fits.2 clean, rfl⟩
    · cases resume with
      | connected next =>
          refine ⟨?_, fun clean => ⟨fits.2.2 clean, rfl⟩⟩
          have conforms := fits.2.1
          rcases next with (⟨more, failure⟩ | _) | (_ | _)
          · exact conforms.2
          · trivial
          · trivial
          · trivial
      | push => exact ⟨fits.2.1, fits.2.2, rfl⟩
      | reply cb => cases answers
      | freeing subscriptions => exact absurd fits.2.2 notEnding
      | disconnected => trivial
      | connectFailed => trivial
      | connectTimeout => trivial
      | timeout => trivial

/-- The command is `MONITOR`, and is accepted. -/
theorem valkeyAsyncAppendCmdLen_monitor {ac : ValkeyAsyncContext Fn Data} (fn : Option Fn)
    (data : Data) {cmd : Bytes} {first : Argument} (found : nextArgument cmd = some first)
    (monitor : commandKind first = .monitor) (connected : ac.disconnecting = false)
    (kept : ac.freeing = false) (replies : ac.replies = []) :
    ∃ count, (valkeyAsyncAppendCmdLen ac fn data cmd).2 = { ac with
      monitoring := true
      replies := [monitorCallback ac.submitted ⟨fn, data, cmd⟩]
      obuf := ac.obuf ++ cmd
      submitted := ac.submitted ++ [⟨fn, data, cmd⟩]
      timeoutReplyCount := count } := by
  have open_ : ¬(ac.disconnecting = true ∨ ac.freeing = true) := by simp [connected, kept]
  obtain ⟨count, written⟩ := ValkeyAsyncContext.writeCommand_eq
    { ac with monitoring := true, replies := [monitorCallback ac.submitted ⟨fn, data, cmd⟩] }
    ⟨fn, data, cmd⟩
  refine ⟨count, ?_⟩
  rw [← written]
  unfold valkeyAsyncAppendCmdLen
  rw [if_neg open_, found]
  simp only [registerCommand, monitor, pushCallback, replies]
  rfl

section Runs

variable (order : IterationOrder) {state : AsyncState Fn Data} {event : AsyncEvent Fn Data}

/-- A context that has only seen regular commands, or has seen `MONITOR` after them. -/
def RegularOrMonitor (state : AsyncState Fn Data) : Prop :=
  InOrder state ∨ ∃ before last first, Monitored before last state ∧
    nextArgument last.cmd = some first ∧ commandKind first = .monitor

/-- A command to a context that has only seen regular ones. -/
theorem regularOrMonitor_command {label : AsyncLabel Fn Data} {ac : ValkeyAsyncContext Fn Data}
    {fn : Option Fn} {data : Data} {cmd : Bytes} (inOrder : InOrder (label, ac))
    (condition : MonitorsLast (label, ac) (.command fn data cmd))
    (calls : label = .idle ∨ ∃ resume, label = .callback resume) :
    RegularOrMonitor (label, (valkeyAsyncAppendCmdLen ac fn data cmd).2) := by
  by_cases closed : ac.Closed
  · rw [valkeyAsyncAppendCmdLen_closed closed]
    exact .inl inOrder
  · obtain ⟨connected, kept⟩ := not_or.mp closed
    rw [Bool.not_eq_true] at connected kept
    have known := condition connected kept
    obtain ⟨nulls, balanced, fits, silent⟩ := inOrder
    by_cases monitors : ∃ first, nextArgument cmd = some first ∧ commandKind first = .monitor
    · obtain ⟨first, found, monitor⟩ := monitors
      obtain ⟨_, regular | ⟨_, replies, answers⟩⟩ := known first found
      · rw [monitor] at regular
        cases regular
      · obtain ⟨count, written⟩ :=
          valkeyAsyncAppendCmdLen_monitor fn data found monitor connected kept replies
        rw [written]
        exact .inr ⟨ac.submitted, ⟨fn, data, cmd⟩, first,
          monitored_of_inOrder balanced fits silent replies answers connected kept calls
            ⟨fn, data, cmd⟩
            count, found, monitor⟩
    · left
      refine inOrder_command balanced fits silent calls fn data fun first found => ?_
      obtain ⟨_, regular | ⟨monitor, _⟩⟩ := known first found
      · exact regular
      · exact absurd ⟨first, found, monitor⟩ monitors

theorem regularOrMonitor_inOrder (inOrder : InOrder state) (condition : MonitorsLast state event) :
    Ensures (asyncStep order state event) (fun _ => False) RegularOrMonitor := by
  have regular (event : AsyncEvent Fn Data) (known : RegularEvent state event) :
      Ensures (asyncStep order state event) (fun _ => False) RegularOrMonitor :=
    (keepsOrder_step order inOrder known).mono fun _ => .inl
  cases event with
  | command fn data cmd =>
      obtain ⟨label, ac⟩ := state
      cases label with
      | idle => exact regularOrMonitor_command inOrder condition (.inl rfl)
      | callback resume => exact regularOrMonitor_command inOrder condition (.inr ⟨resume, rfl⟩)
      | _ => exact .inl inOrder
  | readable outcome input =>
      refine regular _ ?_
      cases input with
      | failed err => trivial
      | replies more failure =>
          obtain ⟨nulls, balanced, _⟩ := inOrder
          exact ⟨condition.2 balanced.2.2.1, condition.1⟩
  | disconnect => exact regular _ trivial
  | free => exact regular _ trivial
  | writable outcome output => exact regular _ trivial
  | timer => exact regular _ trivial
  | proceed => exact regular _ trivial

theorem regularOrMonitor_step (consistent : Consistent False state) (kept : RegularOrMonitor state)
    (condition : MonitorsLast state event) :
    Ensures (asyncStep order state event) (fun _ => False) RegularOrMonitor := by
  rcases kept with inOrder | ⟨before, last, first, monitored, found, monitor⟩
  · exact regularOrMonitor_inOrder order inOrder condition
  · have monitoring : state.2.monitoring = true := by
      obtain ⟨_, ledger, _⟩ := monitored
      exact ledger.monitoring
    refine (keepsMonitored_asyncStep order consistent monitored ?_ ?_).mono fun next kept =>
      .inr ⟨before, last, first, kept, found, monitor⟩
    · intro fn data cmd submits
      subst submits
      rcases valkeyAsyncAppendCmdLen_accepted state.2 fn data cmd with
        refused | ⟨⟨connected, free⟩, other, registered, parsed, _⟩
      · exact refused
      · have quiet := (condition connected free other parsed).1
        rw [monitoring] at quiet
        cases quiet
    · intro outcome input reads
      subst reads
      cases input with
      | failed err => trivial
      | replies more failure => exact condition.1

theorem monitorInvariant_step (kept : MonitorInvariant state)
    (condition : MonitorsLast state event) :
    Ensures (asyncStep order state event) (fun _ => False) MonitorInvariant := by
  have keeps := regularOrMonitor_step order kept.1 kept.2 condition
  have goesOn := keepsConsistent_asyncStep order event kept.1 fun impossible => impossible.elim
  cases step : asyncStep order state event with
  | error fault => exact (keeps.of_error step).elim
  | ok next => exact ⟨goesOn.of_ok step, keeps.of_ok step⟩

theorem asyncRun_monitorInvariant {start : AsyncState Fn Data} {events : List (AsyncEvent Fn Data)}
    (kept : MonitorInvariant start) (condition : EveryStep order MonitorsLast start events) :
    ∃ state, asyncRun order start events = .ok state ∧ MonitorInvariant state := by
  induction events generalizing start with
  | nil => exact ⟨start, rfl, kept⟩
  | cons event events induction =>
      obtain ⟨now, later⟩ := condition
      have keeps := monitorInvariant_step order kept now
      unfold asyncRun
      cases step : asyncStep order start event with
      | error fault => exact (keeps.of_error step).elim
      | ok next => exact induction (keeps.of_ok step) (later next step)

end Runs

/-- The reply of each number is given to the callback of the command of the number, or to the last
one, that of `MONITOR`, after it. `NULL` comes only after an error or a call of `valkeyAsyncFree`. -/
structure MonitoredInOrder (state : AsyncState Fn Data) : Prop where
  callbacks : ∀ (number : Nat) (served : Served Fn Data), state.2.served[number]? = some served →
    (acceptedCallbacks state.2.submitted)[min number (state.2.submitted.length - 1)]? =
      some served.callback
  replies : ∀ (number : Nat) (served : Served Fn Data), state.2.served[number]? = some served →
    served.reply ≠ none ∧ served.reply = state.2.stream[number]? ∨
      served.reply = none ∧ (state.2.cErr ≠ none ∨ state.2.freeing = true)
  processed : (inBand state.2.processed).length ≤ state.2.served.length
  once : state.2.monitoring = false → state.2.served.length ≤ state.2.submitted.length
  monitor : state.2.monitoring = true → ∃ before last first, state.2.submitted = before ++ [last] ∧
    nextArgument last.cmd = some first ∧ commandKind first = .monitor ∧
    before.length ≤ state.2.served.length

theorem length_acceptedCallbacks (submitted : List (Submission Fn Data)) :
    (acceptedCallbacks submitted).length = submitted.length := List.length_mapIdx

/-- A callback that was run is that of its number, or of the last command. -/
theorem callbacks_of_monitored {before : List (Submission Fn Data)} {last : Submission Fn Data}
    {served : List (Served Fn Data)} {times : Nat}
    (callbacks : served.map (·.callback) =
      acceptedCallbacks before ++ List.replicate times (monitorCallback before last))
    {number : Nat} {entry : Served Fn Data} (found : served[number]? = some entry) :
    (acceptedCallbacks (before ++ [last]))[min number ((before ++ [last]).length - 1)]? =
      some entry.callback := by
  have given : (served.map (·.callback))[number]? = some entry.callback := by
    rw [List.getElem?_map, found]
    rfl
  have count : (before ++ [last]).length - 1 = before.length := by simp
  rw [callbacks] at given
  rw [acceptedCallbacks_append, count]
  by_cases earlier : number < before.length
  · rw [Nat.min_eq_left (Nat.le_of_lt earlier),
      List.getElem?_append_left (by rw [length_acceptedCallbacks]; exact earlier)]
    rwa [List.getElem?_append_left (by rw [length_acceptedCallbacks]; exact earlier)] at given
  · have later := Nat.le_of_not_lt earlier
    rw [Nat.min_eq_right later,
      List.getElem?_append_right (by rw [length_acceptedCallbacks]), length_acceptedCallbacks,
        Nat.sub_self]
    rw [List.getElem?_append_right (by rw [length_acceptedCallbacks]; exact later)] at given
    have same := (List.mem_replicate.mp (List.mem_of_getElem? given)).2
    rw [same]
    rfl

theorem MonitorLedger.inOrder {before : List (Submission Fn Data)} {last : Submission Fn Data}
    {ac : ValkeyAsyncContext Fn Data} {nulls : Nat} {label : AsyncLabel Fn Data} {first : Argument}
    (ledger : MonitorLedger before last ac nulls) (found : nextArgument last.cmd = some first)
    (monitor : commandKind first = .monitor)
    (silent : 0 < nulls → ac.cErr ≠ none ∨ ac.freeing = true) :
    MonitoredInOrder (label, ac) := by
  obtain ⟨times, callbacks⟩ := ledger.callbacks
  have served := congrArg List.length callbacks
  have given := congrArg List.length ledger.given
  rw [List.length_map, List.length_append, length_acceptedCallbacks,
    List.length_replicate] at served
  rw [List.length_map, List.length_append, List.length_map, List.length_replicate] at given
  refine ⟨fun number entry known => ?_, fun number entry known =>
    replies_of_given ledger.given silent number known,
    ?_, fun quiet => ?_, fun _ => ⟨before, last, first, ledger.submitted, found, monitor, ?_⟩⟩
  · dsimp only
    rw [ledger.submitted]
    exact callbacks_of_monitored callbacks known
  · exact given ▸ Nat.le_add_right _ _
  · rw [ledger.monitoring] at quiet
    cases quiet
  · exact served ▸ Nat.le_add_right _ _

theorem InOrder.monitored {state : AsyncState Fn Data} (inOrder : InOrder state) :
    MonitoredInOrder state := by
  obtain ⟨label, ac⟩ := state
  obtain ⟨nulls, ⟨ledger, regular⟩, _, silent⟩ := inOrder
  have counted := ledger.counted
  have length := ledger.served_length
  refine ⟨fun number entry known => ?_, fun number entry known =>
    replies_of_given ledger.given silent number known,
    ?_, fun _ => ?_, fun monitoring => ?_⟩
  · have earlier : number < ac.served.length := (List.getElem?_eq_some_iff.mp known).1
    have given : (ac.served.map (·.callback))[number]? = some entry.callback := by
      rw [List.getElem?_map, show ac.served[number]? = some entry from known]
      rfl
    dsimp only at counted ⊢
    rw [Nat.min_eq_left (by omega), ← ledger.callbacks, List.getElem?_append_left
      (by simpa using earlier)]
    exact given
  · exact length ▸ Nat.le_add_right _ _
  · exact counted ▸ Nat.le_add_right _ _
  · rw [show ac.monitoring = false from regular.2.1] at monitoring
    cases monitoring

def getCommand : Bytes := valkeyFormatCommandArgv [literal "GET", literal "x"]

def monitorCommand : Bytes := valkeyFormatCommandArgv [literal "MONITOR"]

/-- A line that the server sends in monitor mode. -/
def monitorLine : ReplyTree := .status (literal "1 [0 127.0.0.1:1] \"GET\" \"y\"")

/-- `MONITOR` is sent after the reply to `GET x`. -/
def monitorAfterReply : List (AsyncEvent Nat Nat) :=
  [.command (some 1) 1 getCommand, .writable .done (.written 20),
    .readable .pending (.replies [.string (literal "value")] none), .proceed, .proceed, .proceed,
    .command (some 2) 2 monitorCommand, .writable .done (.written 17),
    .readable .pending (.replies [.status (literal "OK"), monitorLine, monitorLine] none),
    .proceed, .proceed, .proceed, .proceed, .proceed, .proceed]

/-- `MONITOR` is sent together with `GET x`. -/
def monitorPipelined : List (AsyncEvent Nat Nat) :=
  [.command (some 1) 1 getCommand, .command (some 2) 2 monitorCommand,
    .writable .done (.written 37),
    .readable .pending
      (.replies [.string (literal "value"), .status (literal "OK"), monitorLine] none),
    .proceed, .proceed, .proceed, .proceed, .proceed, .proceed]

theorem monitorsLast_command {state : AsyncState Fn Data} {fn : Option Fn} {data : Data}
    {cmd : Bytes} {first : Argument} (found : nextArgument cmd = some first) :
    (state.2.disconnecting = false → state.2.freeing = false →
      state.2.monitoring = false ∧ (commandKind first = .regular ∨
        commandKind first = .monitor ∧ state.2.replies = [] ∧ state.1.answers = false)) ↔
      MonitorsLast state (.command fn data cmd) := by
  simp [MonitorsLast, found]

instance [DecidableEq Fn] [DecidableEq Data] (state : AsyncState Fn Data)
    (event : AsyncEvent Fn Data) : Decidable (MonitorsLast state event) :=
  match event with
  | .command _ _ cmd =>
      match found : nextArgument cmd with
      | none => .isTrue fun _ _ _ impossible => nomatch found.symm.trans impossible
      | some first =>
          decidable_of_iff (state.2.disconnecting = false → state.2.freeing = false →
            state.2.monitoring = false ∧ (commandKind first = .regular ∨
              commandKind first = .monitor ∧ state.2.replies = [] ∧ state.1.answers = false))
            (monitorsLast_command found)
  | .readable _ (.replies _ _) => instDecidableAnd
  | .readable _ (.failed _) | .disconnect | .free | .writable _ _ | .timer | .proceed =>
      .isTrue trivial

end Libvalkey
