import Libvalkey.Async.Control

/-! # Functions in subscriptions

The entries of the dictionaries hold functions of the user, or none. The one that waits for the
first reply to a sharded subscription is never put there. -/

namespace Libvalkey

open Checked

variable {Fn Data : Type}

/-- No entry holds the function that waits for the first reply. -/
def PlainEntries (ac : ValkeyAsyncContext Fn Data) : Prop :=
  ∀ variant name cb, (ac.dict variant).lookup name = some cb → cb.fn ≠ some .ssubscribe

def KeepsEntries (computation : Except AsyncFault (AsyncState Fn Data)) : Prop :=
  Ensures computation (fun _ => True) fun state => PlainEntries state.2

namespace PlainEntries

variable {ac next : ValkeyAsyncContext Fn Data}

theorem of_same (plain : PlainEntries ac) (channels : next.channels = ac.channels)
    (patterns : next.patterns = ac.patterns) (schannels : next.schannels = ac.schannels) :
    PlainEntries next := by
  intro variant name cb found
  cases variant with
  | channel =>
      rw [ValkeyAsyncContext.dict, channels] at found
      exact plain .channel name cb found
  | pattern =>
      rw [ValkeyAsyncContext.dict, patterns] at found
      exact plain .pattern name cb found
  | sharded =>
      rw [ValkeyAsyncContext.dict, schannels] at found
      exact plain .sharded name cb found

theorem replace (plain : PlainEntries ac) (variant : Variant) (name : Bytes) {cb : Callback Fn Data}
    (regular : cb.fn ≠ some .ssubscribe) : PlainEntries (ac.replace variant name cb) := by
  intro other key entry found
  rw [ValkeyAsyncContext.lookup_replace] at found
  split at found
  · obtain rfl := Option.some.inj found
    exact regular
  · exact plain other key entry found

theorem delete (plain : PlainEntries ac) (variant : Variant) (name : Bytes) :
    PlainEntries (ac.delete variant name) := by
  intro other key entry found
  rw [ValkeyAsyncContext.lookup_delete] at found
  split at found
  · cases found
  · exact plain other key entry found

theorem dropSubscription (plain : PlainEntries ac) (variant : Variant)
    (found : Option (Bytes × Callback Fn Data)) :
    PlainEntries (dropSubscription ac variant found) := by
  rcases found with _ | ⟨name, cb⟩
  · exact plain.of_same rfl rfl rfl
  · rw [Libvalkey.dropSubscription]
    split
    · exact plain.delete variant name
    · exact plain

theorem confirmUnsubscribe (plain : PlainEntries ac) (variant : Variant)
    (found : Option (Bytes × Callback Fn Data)) (left : Int) :
    PlainEntries (confirmUnsubscribe ac variant found left) := by
  have dropped := plain.dropSubscription variant found
  unfold Libvalkey.confirmUnsubscribe
  dsimp only
  split
  · exact dropped.of_same rfl rfl rfl
  · exact dropped

theorem subscriptionMessage (plain : PlainEntries ac) (elements : List ReplyTree) :
    Ensures (subscriptionMessage ac elements) (fun _ => True) fun result =>
      PlainEntries result.2 := by
  unfold Libvalkey.subscriptionMessage
  split
  · rename_i stype second rest
    dsimp only
    split
    · split
      · trivial
      · rename_i name cb found
        unfold findSubscription at found
        split at found
        · obtain ⟨entry, known, same⟩ := Option.map_eq_some_iff.mp found
          cases same
          have regular := plain (variantOf stype) name cb known
          exact plain.replace _ _ regular
        · cases found
    · split
      · split
        · exact plain.confirmUnsubscribe _ _ _
        · trivial
        · trivial
      · exact plain
  · trivial
  · trivial
  · trivial

theorem shiftSubReplies (plain : PlainEntries ac) : PlainEntries (shiftSubReplies ac).2 := by
  unfold Libvalkey.shiftSubReplies
  split
  · exact plain
  · exact plain.of_same rfl rfl rfl

theorem valkeyGetSubscribeCallback (plain : PlainEntries ac) (reply : ReplyTree) :
    Ensures (valkeyGetSubscribeCallback ac reply) (fun _ => True)
      fun result => PlainEntries result.2 := by
  unfold Libvalkey.valkeyGetSubscribeCallback
  split
  · exact plain.subscriptionMessage _
  · split
    · exact plain.subscriptionMessage _
    · exact plain.shiftSubReplies
  · exact plain.shiftSubReplies

theorem subscriptionFailed (names : List Bytes) (plain : PlainEntries ac) :
    PlainEntries (subscriptionFailed ac names) := by
  induction names generalizing ac with
  | nil => exact plain
  | cons name rest induction =>
      unfold Libvalkey.subscriptionFailed
      split
      · exact induction plain
      · rename_i cb found
        dsimp only
        split
        · exact induction (plain.delete .sharded name)
        · exact induction (plain.replace .sharded name (plain .sharded name cb found))

theorem assignCallback (fn : Option Fn) (names : List Bytes) (plain : PlainEntries ac) :
    PlainEntries (assignCallback fn ac names) := by
  induction names generalizing ac with
  | nil => exact plain
  | cons name rest induction =>
      unfold Libvalkey.assignCallback
      split
      · exact induction plain
      · refine induction (plain.replace .sharded name ?_)
        cases fn <;> simp

theorem markSubscribed (plain : PlainEntries ac) (data : SsubscribeCallbackData Fn Data)
    (reply : ReplyTree) :
    Ensures (markSubscribed ac data reply) (fun _ => True) PlainEntries := by
  unfold Libvalkey.markSubscribed
  split
  · split
    all_goals first
      | trivial
      | (split
         · exact plain.assignCallback _ _
         · exact plain)
  · split
    all_goals first
      | trivial
      | (split
         · exact plain.assignCallback _ _
         · exact plain)
  · exact plain

theorem valkeyRunCallback (fuel : Nat) (plain : PlainEntries ac) (cb : Callback Fn Data)
    (reply : Option ReplyTree) :
    Ensures (valkeyRunCallback fuel ac cb reply) (fun _ => True)
      fun result => PlainEntries result.2 := by
  have served : PlainEntries (ac.serve cb reply) := plain.of_same rfl rfl rfl
  induction fuel generalizing ac cb with
  | zero =>
      unfold Libvalkey.valkeyRunCallback
      dsimp only
      split
      · exact served
      · exact plain.of_same rfl rfl rfl
      · split
        · split
          · trivial
          · exact (served.subscriptionFailed _).of_same rfl rfl rfl
        · refine (served.markSubscribed _ _).bind fun marked plain => ?_
          exact (plain.valkeyGetSubscribeCallback _).bind fun result _ => trivial
        · trivial
  | succ fuel induction =>
      unfold Libvalkey.valkeyRunCallback
      dsimp only
      split
      · exact served
      · exact plain.of_same rfl rfl rfl
      · split
        · split
          · trivial
          · exact (served.subscriptionFailed _).of_same rfl rfl rfl
        · refine (served.markSubscribed _ _).bind fun marked plain => ?_
          refine (plain.valkeyGetSubscribeCallback _).bind fun result plain => ?_
          exact induction plain _ (plain.of_same rfl rfl rfl)
        · trivial

theorem runCallback (plain : PlainEntries ac) (cb : Callback Fn Data) (reply : Option ReplyTree) :
    Ensures (runCallback ac cb reply) (fun _ => True) fun result => PlainEntries result.2 :=
  plain.valkeyRunCallback _ cb reply

theorem repush (plain : PlainEntries ac) (cb : Callback Fn Data) : PlainEntries (repush cb ac) := by
  unfold Libvalkey.repush
  split
  · exact plain.of_same rfl rfl rfl
  · exact plain

end PlainEntries

section Steps

variable (order : IterationOrder) {ac : ValkeyAsyncContext Fn Data}

theorem keepsEntries_valkeyAsyncDisconnectInternal (plain : PlainEntries ac) :
    KeepsEntries (valkeyAsyncDisconnectInternal order ac) := by
  unfold valkeyAsyncDisconnectInternal
  dsimp only
  split
  · trivial
  · split <;> split <;> exact plain.of_same rfl rfl rfl

theorem keepsEntries_broken (plain : PlainEntries ac) (err : ContextError) :
    KeepsEntries (valkeyAsyncDisconnectInternal order { ac with cErr := some err }) :=
  keepsEntries_valkeyAsyncDisconnectInternal order (plain.of_same rfl rfl rfl)

theorem plainEntries_afterReply (plain : PlainEntries ac) (cb : Callback Fn Data) :
    PlainEntries (afterReply order cb ac).2 := by
  unfold afterReply
  split
  · exact plain
  · exact plain.repush cb

theorem keepsEntries_deliverReply (plain : PlainEntries ac) (cb : Callback Fn Data)
    (reply : ReplyTree) : KeepsEntries (deliverReply order ac cb reply) := by
  have served : PlainEntries (ac.serve cb (some reply)) := plain.of_same rfl rfl rfl
  unfold deliverReply
  split
  · exact served.repush cb
  · refine (plain.runCallback cb (some reply)).bind fun result plain => ?_
    dsimp only
    split
    · exact plain
    · exact plainEntries_afterReply order plain cb

theorem keepsEntries_unexpectedReply (plain : PlainEntries ac) (reply : ReplyTree) :
    KeepsEntries (unexpectedReply order ac reply) := by
  unfold unexpectedReply
  split
  · split
    · rename_i cb rest _
      have popped : PlainEntries { ac with subReplies := rest } := plain.of_same rfl rfl rfl
      split
      · exact keepsEntries_deliverReply order popped _ _
      · exact keepsEntries_broken order plain _
    · exact keepsEntries_broken order plain _
  · split
    · trivial
    · refine (plain.valkeyGetSubscribeCallback reply).bind fun result plain => ?_
      exact keepsEntries_deliverReply order plain _ _

theorem keepsEntries_processReply (plain : PlainEntries ac) (reply : ReplyTree) :
    KeepsEntries (processReply order ac reply) := by
  unfold processReply
  split
  · split
    · exact plain.of_same rfl rfl rfl
    · exact plain
  · split
    · rename_i cb rest _
      have popped : PlainEntries { ac with replies := rest } := plain.of_same rfl rfl rfl
      exact keepsEntries_deliverReply order popped _ _
    · exact keepsEntries_unexpectedReply order plain reply

theorem keepsEntries_valkeyProcessCallbacks (plain : PlainEntries ac) :
    KeepsEntries (valkeyProcessCallbacks order ac) := by
  unfold valkeyProcessCallbacks
  split
  · rename_i reply rest _
    have received : PlainEntries (receiveReply ac reply rest) := plain.of_same rfl rfl rfl
    exact keepsEntries_processReply order received _
  · split
    · exact keepsEntries_broken order plain _
    · split
      · exact keepsEntries_valkeyAsyncDisconnectInternal order plain
      · exact plain

theorem plainEntries_refreshTimeout (plain : PlainEntries ac) : PlainEntries ac.refreshTimeout := by
  obtain ⟨count, same⟩ := ac.refreshTimeout_eq
  rw [same]
  exact plain.of_same rfl rfl rfl

theorem keepsEntries_transfer (plain : PlainEntries ac) (next : Transfer) :
    KeepsEntries (transfer order ac next) := by
  rcases next with (⟨more, failure⟩ | err) | (count | err)
  · unfold transfer valkeyAsyncRead
    dsimp only
    split
    · exact keepsEntries_valkeyAsyncDisconnectInternal order plain
    · exact plainEntries_refreshTimeout (plain.of_same rfl rfl rfl)
  · exact keepsEntries_broken order plain _
  · unfold transfer valkeyAsyncWrite
    dsimp only
    split
    · exact keepsEntries_valkeyAsyncDisconnectInternal order plain
    · exact plainEntries_refreshTimeout (plain.of_same rfl rfl rfl)
  · exact keepsEntries_broken order plain _

theorem keepsEntries_valkeyAsyncDisconnect (plain : PlainEntries ac) (label : AsyncLabel Fn Data) :
    KeepsEntries (valkeyAsyncDisconnect order label ac) := by
  have disconnecting : PlainEntries { ac with disconnecting := true, noAutoFree := false } :=
    plain.of_same rfl rfl rfl
  unfold valkeyAsyncDisconnect
  dsimp only
  split
  · exact keepsEntries_valkeyAsyncDisconnectInternal order disconnecting
  · exact disconnecting

theorem plainEntries_valkeyAsyncFree (plain : PlainEntries ac) (label : AsyncLabel Fn Data) :
    PlainEntries (valkeyAsyncFree order label ac).2 := by
  unfold valkeyAsyncFree
  dsimp only
  split <;> exact plain.of_same rfl rfl rfl

theorem keepsEntries_afterConnect (plain : PlainEntries ac) (next : Transfer) :
    KeepsEntries (afterConnect order ac next) := by
  unfold afterConnect
  split
  · exact keepsEntries_valkeyAsyncDisconnect order plain .idle
  · split
    · exact plainEntries_valkeyAsyncFree order plain .idle
    · exact keepsEntries_transfer order plain next

theorem keepsEntries_valkeyAsyncHandle (plain : PlainEntries ac) (outcome : ConnectOutcome)
    (next : Transfer) : KeepsEntries (valkeyAsyncHandle order ac outcome next) := by
  unfold valkeyAsyncHandle valkeyAsyncHandleConnect
  split
  · exact keepsEntries_transfer order plain next
  · cases outcome with
    | pending => exact plain
    | failed err =>
        dsimp only
        split
        · exact plain.of_same rfl rfl rfl
        · exact keepsEntries_valkeyAsyncDisconnectInternal order (plain.of_same rfl rfl rfl)
    | noDelay err =>
        dsimp only
        split
        · exact plain.of_same rfl rfl rfl
        · exact keepsEntries_broken order plain err
    | done =>
        dsimp only
        split
        · exact plain.of_same rfl rfl rfl
        · have connected : PlainEntries { ac with connected := true } := plain.of_same rfl rfl rfl
          exact keepsEntries_afterConnect order connected next

theorem plainEntries_valkeyAsyncHandleTimeout (plain : PlainEntries ac) :
    PlainEntries (valkeyAsyncHandleTimeout ac).2 := by
  unfold valkeyAsyncHandleTimeout
  split
  · exact plain.of_same rfl rfl rfl
  · split
    · exact plain
    · split
      · exact plainEntries_refreshTimeout (plain.of_same rfl rfl rfl)
      · obtain ⟨failure, err, same⟩ := setTimeoutError_spec ac
        dsimp only
        rw [same]
        split <;> exact plain.of_same rfl rfl rfl

theorem keepsEntries_timeoutReplies (plain : PlainEntries ac) :
    KeepsEntries (timeoutReplies order ac) := by
  unfold timeoutReplies
  split
  · exact keepsEntries_valkeyAsyncDisconnectInternal order plain
  · rename_i cb rest _
    have popped : PlainEntries { ac with replies := rest } := plain.of_same rfl rfl rfl
    exact (popped.runCallback cb none).bind fun result plain => plain

theorem keepsEntries_freeCallbacks (plain : PlainEntries ac)
    (subscriptions : List (Callback Fn Data)) : KeepsEntries (freeCallbacks ac subscriptions) := by
  unfold freeCallbacks
  dsimp only
  split
  · rename_i cb rest _
    have popped : PlainEntries { ac with replies := rest } := plain.of_same rfl rfl rfl
    exact (popped.runCallback cb none).bind fun result plain => plain
  · rename_i cb rest _ _
    have popped : PlainEntries { ac with subReplies := rest } := plain.of_same rfl rfl rfl
    exact (popped.runCallback cb none).bind fun result plain => plain
  · rename_i cb rest _ _
    exact (plain.runCallback cb none).bind fun result plain => plain
  · split
    · exact plain.of_same rfl rfl rfl
    · exact plain

theorem keepsEntries_afterCallback (plain : PlainEntries ac) (resume : Resume Fn Data) :
    KeepsEntries (afterCallback order ac resume) := by
  cases resume with
  | connected next => exact keepsEntries_afterConnect order plain next
  | connectFailed => exact keepsEntries_valkeyAsyncDisconnectInternal order plain
  | reply cb => exact plainEntries_afterReply order plain cb
  | connectTimeout => exact plain
  | push => exact plain
  | timeout => exact plain
  | freeing subscriptions => exact plain
  | disconnected => exact plain

end Steps

/-! ## Commands -/

section Commands

variable {ac : ValkeyAsyncContext Fn Data}

theorem newCallback_plain (number : Nat) (fn : Option Fn) (data : Data) :
    (newCallback number fn data).fn ≠ some .ssubscribe := by
  cases fn <;> simp [newCallback]

theorem plainEntries_addChannels (variant : Variant) (names : List Bytes) {cb : Callback Fn Data}
    (regular : cb.fn ≠ some .ssubscribe) (plain : PlainEntries ac) :
    PlainEntries (addChannels variant cb ac names) := by
  induction names generalizing cb ac with
  | nil => exact plain
  | cons name rest induction =>
      have merged : (mergeCallback variant cb ((ac.dict variant).lookup name)).fn ≠
          some .ssubscribe := by
        cases found : (ac.dict variant).lookup name with
        | none =>
            rw [mergeCallback]
            split
            · simp
            · exact regular
        | some existing => exact plain variant name existing found
      exact induction merged (plain.replace variant name merged)

theorem plainEntries_mapValues (plain : PlainEntries ac) (variant : Variant)
    (change : Callback Fn Data → Callback Fn Data) (fn : ∀ cb, (change cb).fn = cb.fn) :
    PlainEntries (ac.setDict variant (Dictionary.mapValues change (ac.dict variant))) := by
  intro other name cb found
  rw [ValkeyAsyncContext.dict_setDict] at found
  split at found
  · rename_i same
    subst same
    rw [Dictionary.lookup_mapValues] at found
    obtain ⟨old, known, changed⟩ := Option.map_eq_some_iff.mp found
    subst changed
    rw [fn]
    exact plain other name old known
  · exact plain other name cb found

theorem plainEntries_sendUnsubscribes (variant : Variant) (names : List Bytes)
    (plain : PlainEntries ac) : PlainEntries (sendUnsubscribes variant ac names) := by
  induction names generalizing ac with
  | nil => exact plain
  | cons name rest induction =>
      have ignored : PlainEntries { ac with pendingUnsubs := ac.pendingUnsubs + 1 } :=
        plain.of_same rfl rfl rfl
      unfold sendUnsubscribes
      split
      · rename_i entry found
        split
        · exact induction ignored
        · exact induction (plain.replace variant name (plain variant name entry found))
      · exact induction ignored

theorem plainEntries_unsubscribeAll (variant : Variant) (plain : PlainEntries ac) :
    PlainEntries (unsubscribeAll variant ac) := by
  have marked := plainEntries_mapValues plain variant
    (fun cb => { cb with unsubscribeSent := true }) fun _ => rfl
  unfold unsubscribeAll
  dsimp only
  split
  · exact marked.of_same rfl rfl rfl
  · exact marked

theorem plainEntries_pushCallback (plain : PlainEntries ac) (toSubReplies : Bool)
    (cb : Callback Fn Data) : PlainEntries (pushCallback toSubReplies ac cb) := by
  cases toSubReplies <;> exact plain.of_same rfl rfl rfl

theorem plainEntries_registerCommand (plain : PlainEntries ac)
    {registered : ValkeyAsyncContext Fn Data} {fn : Option Fn} {data : Data} {cmd : Bytes}
    {first : Argument} (accepted : registerCommand ac fn data cmd first = some registered) :
    PlainEntries registered := by
  have subscribed : PlainEntries { ac with isSubscribed := true } := plain.of_same rfl rfl rfl
  have added := plainEntries_addChannels (variantOf first.text) (argumentsOf first.next)
    (newCallback_plain ac.submitted.length fn data) subscribed
  cases booked_of_accepted accepted with
  | sharded => exact plainEntries_pushCallback added _ _
  | subscribe => exact added
  | unsubscribe => exact plainEntries_sendUnsubscribes _ _ plain
  | unsubscribeAll => exact plainEntries_unsubscribeAll _ plain
  | monitor => exact plain.of_same rfl rfl rfl
  | regular => exact plainEntries_pushCallback plain _ _

theorem plainEntries_valkeyAsyncAppendCmdLen (plain : PlainEntries ac) (fn : Option Fn)
    (data : Data) (cmd : Bytes) : PlainEntries (valkeyAsyncAppendCmdLen ac fn data cmd).2 := by
  rcases valkeyAsyncAppendCmdLen_accepted ac fn data cmd with
    refused | ⟨_, first, registered, _, accepted, written⟩
  · rw [refused]
    exact plain
  · obtain ⟨count, stored⟩ := registered.writeCommand_eq ⟨fn, data, cmd⟩
    rw [written, stored]
    exact (plainEntries_registerCommand plain accepted).of_same rfl rfl rfl

variable (order : IterationOrder)

theorem keepsEntries_asyncStep {state : AsyncState Fn Data} (plain : PlainEntries state.2)
    (event : AsyncEvent Fn Data) : KeepsEntries (asyncStep order state event) := by
  obtain ⟨label, ac⟩ := state
  have unchanged : KeepsEntries (.ok (label, ac)) := plain
  have returned : PlainEntries { ac with inCallback := false } := plain.of_same rfl rfl rfl
  cases label with
  | idle =>
      cases event with
      | command fn data cmd => exact plainEntries_valkeyAsyncAppendCmdLen plain fn data cmd
      | disconnect => exact keepsEntries_valkeyAsyncDisconnect order plain .idle
      | free => exact plainEntries_valkeyAsyncFree order plain .idle
      | readable outcome input => exact keepsEntries_valkeyAsyncHandle order plain outcome _
      | writable outcome output => exact keepsEntries_valkeyAsyncHandle order plain outcome _
      | timer => exact plainEntries_valkeyAsyncHandleTimeout plain
      | proceed => exact unchanged
  | callback resume =>
      cases event with
      | command fn data cmd => exact plainEntries_valkeyAsyncAppendCmdLen plain fn data cmd
      | disconnect => exact keepsEntries_valkeyAsyncDisconnect order plain (.callback resume)
      | free => exact plainEntries_valkeyAsyncFree order plain (.callback resume)
      | proceed => exact keepsEntries_afterCallback order returned resume
      | _ => exact unchanged
  | processing =>
      cases event with
      | proceed => exact keepsEntries_valkeyProcessCallbacks order plain
      | _ => exact unchanged
  | timeout =>
      cases event with
      | proceed => exact keepsEntries_timeoutReplies order plain
      | _ => exact unchanged
  | freeing subscriptions =>
      cases event with
      | proceed => exact keepsEntries_freeCallbacks plain subscriptions
      | _ => exact unchanged
  | gone => cases event <;> exact unchanged

theorem asyncRun_plainEntries (options : AsyncOptions) (events : List (AsyncEvent Fn Data))
    {state : AsyncState Fn Data}
    (run : asyncRun order (.idle, valkeyAsyncInitialize Fn Data options) events = .ok state) :
    PlainEntries state.2 := by
  have initial : PlainEntries (valkeyAsyncInitialize Fn Data options) := by
    intro variant name cb found
    cases variant <;> cases found
  have preserves (state : AsyncState Fn Data) (event : AsyncEvent Fn Data)
      (next : AsyncState Fn Data)
      (plain : PlainEntries state.2) (step : asyncStep order state event = .ok next) :
      PlainEntries next.2 := (keepsEntries_asyncStep order plain event).of_ok step
  exact asyncRun_invariant order preserves events initial run

end Commands

end Libvalkey
