import Libvalkey.Async.Machine
import Libvalkey.Foundation.Checked

/-! # Where the library can be

What the handling of replies leaves alone, and what is known of a context at every
point where the library can stop. -/

namespace Libvalkey

open Checked

variable {Fn Data : Type}

/-- The part of a context that the handling of replies leaves alone. -/
def ValkeyAsyncContext.control (ac : ValkeyAsyncContext Fn Data) : ValkeyAsyncContext Fn Data :=
  { ac with
    inCallback := false
    isSubscribed := false
    monitoring := false
    replies := []
    subReplies := []
    channels := ∅
    patterns := ∅
    schannels := ∅
    pendingUnsubs := 0
    served := [] }

/-! ## What is left alone -/

section Frame

theorem control_setDict (ac : ValkeyAsyncContext Fn Data) (variant : Variant)
    (dict : CallbackDict Fn Data) : (ac.setDict variant dict).control = ac.control := by
  cases variant <;> rfl

theorem inCallback_setDict (ac : ValkeyAsyncContext Fn Data) (variant : Variant)
    (dict : CallbackDict Fn Data) : (ac.setDict variant dict).inCallback = ac.inCallback := by
  cases variant <;> rfl

/-- The flag is left alone, too. -/
structure SameControl (ac next : ValkeyAsyncContext Fn Data) : Prop where
  control : next.control = ac.control
  inCallback : next.inCallback = ac.inCallback

namespace SameControl

variable {ac next final : ValkeyAsyncContext Fn Data}

theorem refl (ac : ValkeyAsyncContext Fn Data) : SameControl ac ac := ⟨rfl, rfl⟩

theorem trans (first : SameControl ac next) (second : SameControl next final) :
    SameControl ac final :=
  ⟨second.control.trans first.control, second.inCallback.trans first.inCallback⟩

theorem setDict (ac : ValkeyAsyncContext Fn Data) (variant : Variant)
    (dict : CallbackDict Fn Data) : SameControl ac (ac.setDict variant dict) :=
  ⟨control_setDict ac variant dict, inCallback_setDict ac variant dict⟩

theorem replace (ac : ValkeyAsyncContext Fn Data) (variant : Variant) (name : Bytes)
    (cb : Callback Fn Data) : SameControl ac (ac.replace variant name cb) :=
  setDict ac variant _

theorem delete (ac : ValkeyAsyncContext Fn Data) (variant : Variant) (name : Bytes) :
    SameControl ac (ac.delete variant name) :=
  setDict ac variant _

end SameControl

theorem sameControl_dropSubscription (ac : ValkeyAsyncContext Fn Data) (variant : Variant)
    (found : Option (Bytes × Callback Fn Data)) :
    SameControl ac (dropSubscription ac variant found) := by
  rcases found with _ | ⟨name, cb⟩
  · exact ⟨rfl, rfl⟩
  · rw [dropSubscription]
    split
    · exact .delete ac variant name
    · exact .refl ac

theorem sameControl_confirmUnsubscribe (ac : ValkeyAsyncContext Fn Data) (variant : Variant)
    (found : Option (Bytes × Callback Fn Data)) (left : Int) :
    SameControl ac (confirmUnsubscribe ac variant found left) := by
  have dropped := sameControl_dropSubscription ac variant found
  unfold confirmUnsubscribe
  dsimp only
  split
  · exact dropped.trans ⟨rfl, rfl⟩
  · exact dropped

theorem sameControl_subscriptionMessage (ac : ValkeyAsyncContext Fn Data)
    (elements : List ReplyTree) :
    Ensures (subscriptionMessage ac elements) (fun _ => True)
      fun result => SameControl ac result.2 := by
  unfold subscriptionMessage
  split
  · dsimp only
    split
    · split
      · trivial
      · exact .replace ac _ _ _
    · split
      · split
        · exact sameControl_confirmUnsubscribe ac _ _ _
        · trivial
        · trivial
      · exact .refl ac
  · trivial
  · trivial
  · trivial

theorem sameControl_shiftSubReplies (ac : ValkeyAsyncContext Fn Data) :
    SameControl ac (shiftSubReplies ac).2 := by
  unfold shiftSubReplies
  split
  · exact .refl ac
  · exact ⟨rfl, rfl⟩

theorem sameControl_valkeyGetSubscribeCallback (ac : ValkeyAsyncContext Fn Data)
    (reply : ReplyTree) :
    Ensures (valkeyGetSubscribeCallback ac reply) (fun _ => True)
      fun result => SameControl ac result.2 := by
  unfold valkeyGetSubscribeCallback
  split
  · exact sameControl_subscriptionMessage ac _
  · split
    · exact sameControl_subscriptionMessage ac _
    · exact sameControl_shiftSubReplies ac
  · exact sameControl_shiftSubReplies ac

theorem sameControl_subscriptionFailed (names : List Bytes) (ac : ValkeyAsyncContext Fn Data) :
    SameControl ac (subscriptionFailed ac names) := by
  induction names generalizing ac with
  | nil => exact .refl ac
  | cons name rest induction =>
      unfold subscriptionFailed
      split
      · exact induction ac
      · dsimp only
        split
        · exact (SameControl.delete ac .sharded name).trans (induction _)
        · exact (SameControl.replace ac .sharded name _).trans (induction _)

theorem sameControl_assignCallback (fn : Option Fn) (names : List Bytes)
    (ac : ValkeyAsyncContext Fn Data) : SameControl ac (assignCallback fn ac names) := by
  induction names generalizing ac with
  | nil => exact .refl ac
  | cons name rest induction =>
      unfold assignCallback
      split
      · exact induction ac
      · exact (SameControl.replace ac .sharded name _).trans (induction _)

theorem sameControl_markSubscribed (ac : ValkeyAsyncContext Fn Data)
    (data : SsubscribeCallbackData Fn Data) (reply : ReplyTree) :
    Ensures (markSubscribed ac data reply) (fun _ => True) fun next => SameControl ac next := by
  unfold markSubscribed
  split
  · split
    all_goals first
      | trivial
      | (split
         · exact sameControl_assignCallback _ _ ac
         · exact .refl ac)
  · split
    all_goals first
      | trivial
      | (split
         · exact sameControl_assignCallback _ _ ac
         · exact .refl ac)
  · exact .refl ac

/-- The control is left alone, and the flag tells whether a function of the user runs. -/
def RunsFrom (ac : ValkeyAsyncContext Fn Data) (result : Bool × ValkeyAsyncContext Fn Data) :
    Prop :=
  result.2.control = ac.control ∧ result.2.inCallback = (result.1 || ac.inCallback)

theorem runsFrom_callFailed (ac : ValkeyAsyncContext Fn Data) (cb second : Callback Fn Data)
    (reply : Option ReplyTree) (names : List Bytes) :
    RunsFrom ac
      (true, ((subscriptionFailed (ac.serve cb reply) names).serve second reply).enter) := by
  have failed := sameControl_subscriptionFailed names (ac.serve cb reply)
  exact ⟨failed.control, rfl⟩

theorem runsFrom_valkeyRunCallback (fuel : Nat) (ac : ValkeyAsyncContext Fn Data)
    (cb : Callback Fn Data) (reply : Option ReplyTree) :
    Ensures (valkeyRunCallback fuel ac cb reply) (fun _ => True) (RunsFrom ac) := by
  induction fuel generalizing ac cb with
  | zero =>
      unfold valkeyRunCallback
      dsimp only
      split
      · exact ⟨rfl, rfl⟩
      · exact ⟨rfl, rfl⟩
      · split
        · split
          · trivial
          · exact runsFrom_callFailed ac cb _ _ _
        · refine (sameControl_markSubscribed _ _ _).bind fun marked _ => ?_
          exact (sameControl_valkeyGetSubscribeCallback marked _).bind fun result _ => trivial
        · trivial
  | succ fuel induction =>
      unfold valkeyRunCallback
      dsimp only
      split
      · exact ⟨rfl, rfl⟩
      · exact ⟨rfl, rfl⟩
      · split
        · split
          · trivial
          · exact runsFrom_callFailed ac cb _ _ _
        · refine (sameControl_markSubscribed _ _ _).bind fun marked first => ?_
          refine (sameControl_valkeyGetSubscribeCallback marked _).bind fun result second => ?_
          refine (induction _ _).mono fun final third => ?_
          have before := first.trans second
          constructor
          · exact third.1.trans before.control
          · exact third.2.trans (congrArg _ before.inCallback)
        · trivial

theorem runsFrom_runCallback (ac : ValkeyAsyncContext Fn Data) (cb : Callback Fn Data)
    (reply : Option ReplyTree) :
    Ensures (runCallback ac cb reply) (fun _ => True) (RunsFrom ac) :=
  runsFrom_valkeyRunCallback _ ac cb reply

/-- A callback is given `NULL`, and whether a function of the user runs now. -/
def ValkeyAsyncContext.cancel (ac : ValkeyAsyncContext Fn Data) (cb : Callback Fn Data) :
    Bool × ValkeyAsyncContext Fn Data :=
  (cb.fn.isSome, if cb.fn.isSome then (ac.serve cb none).enter else ac.serve cb none)

theorem runCallback_null {cb : Callback Fn Data} (regular : cb.fn ≠ some .ssubscribe)
    (ac : ValkeyAsyncContext Fn Data) : runCallback ac cb none = .ok (ac.cancel cb) := by
  obtain ⟨fn, _⟩ := cb
  rcases fn with _ | (fn | _)
  · rfl
  · rfl
  · exact absurd rfl regular

/-- The callback of a sharded subscription can not be given `NULL`. -/
theorem runCallback_null_ssubscribe {cb : Callback Fn Data} (sharded : cb.fn = some .ssubscribe)
    (ac : ValkeyAsyncContext Fn Data) : runCallback ac cb none = .error .assertion := by
  obtain ⟨fn, privdata⟩ := cb
  dsimp only at sharded
  subst sharded
  cases privdata <;> rfl

theorem sameControl_pushCallback (toSubReplies : Bool) (ac : ValkeyAsyncContext Fn Data)
    (cb : Callback Fn Data) : SameControl ac (pushCallback toSubReplies ac cb) := by
  cases toSubReplies <;> exact ⟨rfl, rfl⟩

theorem sameControl_repush (cb : Callback Fn Data) (ac : ValkeyAsyncContext Fn Data) :
    SameControl ac (repush cb ac) := by
  unfold repush
  split
  · exact sameControl_pushCallback false ac cb
  · exact .refl ac

theorem sameControl_addChannels (variant : Variant) (names : List Bytes) (cb : Callback Fn Data)
    (ac : ValkeyAsyncContext Fn Data) : SameControl ac (addChannels variant cb ac names) := by
  induction names generalizing cb ac with
  | nil => exact .refl ac
  | cons name rest induction =>
      exact (SameControl.replace ac variant name _).trans (induction _ _)

theorem sameControl_sendUnsubscribes (variant : Variant) (names : List Bytes)
    (ac : ValkeyAsyncContext Fn Data) : SameControl ac (sendUnsubscribes variant ac names) := by
  induction names generalizing ac with
  | nil => exact .refl ac
  | cons name rest induction =>
      have ignored : SameControl ac { ac with pendingUnsubs := ac.pendingUnsubs + 1 } := ⟨rfl, rfl⟩
      unfold sendUnsubscribes
      split
      · split
        · exact ignored.trans (induction _)
        · exact (SameControl.replace ac variant name _).trans (induction _)
      · exact ignored.trans (induction _)

theorem sameControl_unsubscribeAll (variant : Variant) (ac : ValkeyAsyncContext Fn Data) :
    SameControl ac (unsubscribeAll variant ac) := by
  have marked := SameControl.setDict ac variant
    (Dictionary.mapValues (fun cb => { cb with unsubscribeSent := true }) (ac.dict variant))
  unfold unsubscribeAll
  dsimp only
  split
  · exact marked.trans ⟨rfl, rfl⟩
  · exact marked

theorem sameControl_registerCommand {ac registered : ValkeyAsyncContext Fn Data} {fn : Option Fn}
    {data : Data} {cmd : Bytes} {first : Argument}
    (accepted : registerCommand ac fn data cmd first = some registered) :
    SameControl ac registered := by
  have added := sameControl_addChannels (variantOf first.text) (argumentsOf first.next)
    (newCallback ac.submitted.length fn data) { ac with isSubscribed := true }
  have subscribed : SameControl ac { ac with isSubscribed := true } := ⟨rfl, rfl⟩
  cases booked_of_accepted accepted with
  | sharded => exact (subscribed.trans added).trans (sameControl_pushCallback _ _ _)
  | subscribe => exact subscribed.trans added
  | unsubscribe => exact sameControl_sendUnsubscribes _ _ ac
  | unsubscribeAll => exact sameControl_unsubscribeAll _ ac
  | monitor => exact ⟨rfl, rfl⟩
  | regular => exact sameControl_pushCallback _ ac _

/-- A command is refused, and then nothing changes, or it is written. -/
theorem valkeyAsyncAppendCmdLen_accepted (ac : ValkeyAsyncContext Fn Data) (fn : Option Fn)
    (data : Data) (cmd : Bytes) :
    (valkeyAsyncAppendCmdLen ac fn data cmd).2 = ac ∨
      (ac.disconnecting = false ∧ ac.freeing = false) ∧
        ∃ first registered, nextArgument cmd = some first ∧
          registerCommand ac fn data cmd first = some registered ∧
          (valkeyAsyncAppendCmdLen ac fn data cmd).2 = registered.writeCommand ⟨fn, data, cmd⟩ := by
  unfold valkeyAsyncAppendCmdLen
  split
  · exact .inl rfl
  · rename_i accepts
    rw [not_or, Bool.not_eq_true, Bool.not_eq_true] at accepts
    cases found : nextArgument cmd with
    | none => exact .inl rfl
    | some first =>
        dsimp only
        cases accepted : registerCommand ac fn data cmd first with
        | none => exact .inl rfl
        | some registered => exact .inr ⟨accepts, first, registered, rfl, accepted, rfl⟩

end Frame

/-! ## Labels -/

/-- No command is accepted any more. -/
def ValkeyAsyncContext.Closed (ac : ValkeyAsyncContext Fn Data) : Prop :=
  ac.disconnecting = true ∨ ac.freeing = true

/-- What is known of a context in a callback. -/
def ResumeConsistent (ac : ValkeyAsyncContext Fn Data) : Resume Fn Data → Prop
  | .connected _ | .push | .reply _ => True
  | .connectFailed | .connectTimeout | .timeout => ac.cErr ≠ none
  | .freeing _ => ac.Closed
  | .disconnected => ac.Closed ∧ ac.replies = [] ∧ ac.subReplies = []

/-- What is known of a context at a label. The context is not being freed where `strict` holds
and the library waits for an event or goes on with replies. -/
def LabelConsistent (strict : Prop) (ac : ValkeyAsyncContext Fn Data) : AsyncLabel Fn Data → Prop
  | .idle | .processing => ac.inCallback = false ∧ (strict → ac.freeing = false)
  | .callback resume => ac.inCallback = true ∧ ResumeConsistent ac resume
  | .timeout => ac.inCallback = false ∧ ac.cErr ≠ none
  | .freeing _ => ac.inCallback = false ∧ ac.Closed
  | .gone => ac.replies = [] ∧ ac.subReplies = []

def Consistent (strict : Prop) (state : AsyncState Fn Data) : Prop :=
  LabelConsistent strict state.2 state.1

def KeepsConsistent (strict : Prop) (computation : Except AsyncFault (AsyncState Fn Data)) : Prop :=
  Ensures computation (fun _ => True) (Consistent strict)

/-- The steps that do not look whether the context is to be freed: those after the function for
pushed messages, after one that also disconnects a context that was just connected and waits for
replies, and after an error on a context that stays. -/
def missesFree : AsyncState Fn Data → AsyncEvent Fn Data → Bool
  | (.callback .push, _), .proceed => true
  | (.callback (.connected _), ac), .proceed => ac.disconnecting && !ac.replies.isEmpty
  | (.callback .connectFailed, ac), .proceed => ac.noAutoFree
  | (.timeout, ac), .proceed => ac.replies.isEmpty && ac.noAutoFree
  | _, _ => false

/-- A context that is to be freed does not meet a step that would miss it. -/
def FreesInTime (state : AsyncState Fn Data) (event : AsyncEvent Fn Data) : Prop :=
  state.2.freeing = true → missesFree state event = false

instance (state : AsyncState Fn Data) (event : AsyncEvent Fn Data) :
    Decidable (FreesInTime state event) :=
  inferInstanceAs (Decidable (state.2.freeing = true → missesFree state event = false))

section Labels

variable (order : IterationOrder) {strict : Prop} {ac : ValkeyAsyncContext Fn Data}

theorem consistent_valkeyAsyncFreeInternal (outside : ac.inCallback = false) (closed : ac.Closed) :
    Consistent strict (valkeyAsyncFreeInternal order ac) := by
  constructor
  · exact outside
  · exact closed

/-- The context stays only if it is not being freed. -/
theorem keepsConsistent_valkeyAsyncDisconnectInternal (outside : ac.inCallback = false)
    (closing : ac.cErr = none → ac.disconnecting = true)
    (inTime : strict → ac.freeing = true → ac.noAutoFree = false) :
    KeepsConsistent strict (valkeyAsyncDisconnectInternal order ac) := by
  have stays (kept : ac.noAutoFree = true) : strict → ac.freeing = false := by
    intro strictly
    by_contra freeing
    rw [Bool.not_eq_false] at freeing
    rw [inTime strictly freeing] at kept
    cases kept
  unfold valkeyAsyncDisconnectInternal
  dsimp only
  split
  · trivial
  · by_cases clean : ac.cErr = none
    · rw [if_pos clean]
      split
      · rename_i kept
        exact ⟨outside, stays kept⟩
      · exact ⟨outside, .inl (closing clean)⟩
    · rw [if_neg clean]
      split
      · rename_i kept
        exact ⟨outside, stays kept⟩
      · exact ⟨outside, .inl rfl⟩

theorem keepsConsistent_valkeyAsyncDisconnect_idle (outside : ac.inCallback = false)
    (inTime : strict → ac.freeing = true → ac.replies = []) :
    KeepsConsistent strict (valkeyAsyncDisconnect order .idle ac) := by
  unfold valkeyAsyncDisconnect
  dsimp only
  split
  · exact keepsConsistent_valkeyAsyncDisconnectInternal order outside (fun _ => rfl) fun _ _ => rfl
  · rename_i waits
    refine ⟨outside, fun strictly => ?_⟩
    by_contra freeing
    rw [Bool.not_eq_false] at freeing
    exact waits ⟨by simp [outside], inTime strictly freeing⟩

theorem consistent_valkeyAsyncFree_idle (outside : ac.inCallback = false) :
    Consistent strict (valkeyAsyncFree order .idle ac) := by
  have inside : ¬ac.inCallback = true := by simp [outside]
  unfold valkeyAsyncFree
  dsimp only
  rw [if_neg inside]
  exact consistent_valkeyAsyncFreeInternal order outside (.inr rfl)

theorem SameControl.freeing {next : ValkeyAsyncContext Fn Data} (same : SameControl ac next) :
    next.freeing = ac.freeing := congrArg (·.freeing) same.control

theorem consistent_afterReply (cb : Callback Fn Data) (outside : ac.inCallback = false) :
    Consistent strict (afterReply order cb ac) := by
  unfold afterReply
  split
  · rename_i freeing
    exact consistent_valkeyAsyncFreeInternal order outside (.inr freeing)
  · rename_i kept
    have same := sameControl_repush cb ac
    refine ⟨same.inCallback.trans outside, fun _ => ?_⟩
    rw [same.freeing]
    simpa using kept

theorem keepsConsistent_deliverReply (cb : Callback Fn Data) (reply : ReplyTree)
    (outside : ac.inCallback = false) (kept : strict → ac.freeing = false) :
    KeepsConsistent strict (deliverReply order ac cb reply) := by
  unfold deliverReply
  split
  · have same := sameControl_repush cb (ac.serve cb (some reply))
    exact ⟨same.inCallback.trans outside, fun strictly => same.freeing.trans (kept strictly)⟩
  · refine (runsFrom_runCallback ac cb (some reply)).bind fun result runs => ?_
    obtain ⟨entered, next⟩ := result
    cases entered with
    | true => exact ⟨runs.2, trivial⟩
    | false => exact consistent_afterReply order cb (runs.2.trans outside)

theorem keepsConsistent_failed (outside : ac.inCallback = false) (failed : ac.cErr ≠ none)
    (kept : strict → ac.freeing = false) :
    KeepsConsistent strict (valkeyAsyncDisconnectInternal order ac) := by
  refine keepsConsistent_valkeyAsyncDisconnectInternal order outside
    (fun clean => absurd clean failed)
    fun strictly freeing => ?_
  rw [kept strictly] at freeing
  cases freeing

theorem keepsConsistent_unexpectedReply (reply : ReplyTree) (outside : ac.inCallback = false)
    (kept : strict → ac.freeing = false) :
    KeepsConsistent strict (unexpectedReply order ac reply) := by
  unfold unexpectedReply
  split
  · rename_i str
    have failed : KeepsConsistent strict
        (valkeyAsyncDisconnectInternal order { ac with cErr := some ⟨.other, str⟩ }) :=
      keepsConsistent_failed order outside (Option.some_ne_none _) kept
    split
    · split
      · exact keepsConsistent_deliverReply order _ _ outside kept
      · exact failed
    · exact failed
  · split
    · trivial
    · refine (sameControl_valkeyGetSubscribeCallback ac reply).bind fun result same => ?_
      exact keepsConsistent_deliverReply order _ _ (same.inCallback.trans outside)
        fun strictly => same.freeing.trans (kept strictly)

theorem keepsConsistent_processReply (reply : ReplyTree) (outside : ac.inCallback = false)
    (kept : strict → ac.freeing = false) :
    KeepsConsistent strict (processReply order ac reply) := by
  unfold processReply
  split
  · split
    · exact ⟨rfl, trivial⟩
    · exact ⟨outside, kept⟩
  · split
    · exact keepsConsistent_deliverReply order _ _ outside kept
    · exact keepsConsistent_unexpectedReply order reply outside kept

theorem keepsConsistent_valkeyProcessCallbacks (outside : ac.inCallback = false)
    (kept : strict → ac.freeing = false) :
    KeepsConsistent strict (valkeyProcessCallbacks order ac) := by
  unfold valkeyProcessCallbacks
  split
  · exact keepsConsistent_processReply order _ outside kept
  · split
    · exact keepsConsistent_failed order outside (Option.some_ne_none _) kept
    · split
      · rename_i done
        refine keepsConsistent_valkeyAsyncDisconnectInternal order outside (fun _ => done.1)
          fun strictly freeing => ?_
        rw [kept strictly] at freeing
        cases freeing
      · exact ⟨outside, kept⟩

theorem keepsConsistent_transfer (next : Transfer) (outside : ac.inCallback = false)
    (kept : strict → ac.freeing = false) : KeepsConsistent strict (transfer order ac next) := by
  have broken (err : ContextError) : KeepsConsistent strict
      (valkeyAsyncDisconnectInternal order { ac with cErr := some (ac.cErr.getD err) }) :=
    keepsConsistent_failed order outside (Option.some_ne_none _) kept
  rcases next with (⟨more, failure⟩ | err) | (count | err)
  · unfold transfer valkeyAsyncRead
    dsimp only
    split
    · rename_i failed
      exact keepsConsistent_failed order outside (Option.isSome_iff_ne_none.mp failed) kept
    · obtain ⟨count, refreshed⟩ := ValkeyAsyncContext.refreshTimeout_eq
        { ac with reader := ac.reader ++ more, readerErr := failure }
      rw [refreshed]
      exact ⟨outside, kept⟩
  · exact broken err
  · unfold transfer valkeyAsyncWrite
    dsimp only
    split
    · rename_i failed
      exact keepsConsistent_failed order outside (Option.isSome_iff_ne_none.mp failed) kept
    · obtain ⟨refreshed, same⟩ := ValkeyAsyncContext.refreshTimeout_eq
        { ac with obuf := ac.obuf.drop count }
      rw [same]
      exact ⟨outside, kept⟩
  · exact broken err

theorem keepsConsistent_afterConnect (next : Transfer) (outside : ac.inCallback = false)
    (inTime : strict → ac.freeing = true → ac.disconnecting = true → ac.replies = []) :
    KeepsConsistent strict (afterConnect order ac next) := by
  unfold afterConnect
  split
  · rename_i disconnecting
    exact keepsConsistent_valkeyAsyncDisconnect_idle order outside
      fun strictly freeing => inTime strictly freeing disconnecting
  · split
    · exact consistent_valkeyAsyncFree_idle order outside
    · rename_i kept
      exact keepsConsistent_transfer order next outside fun _ => by simpa using kept

theorem keepsConsistent_valkeyAsyncHandle (outcome : ConnectOutcome) (next : Transfer)
    (outside : ac.inCallback = false) (kept : strict → ac.freeing = false) :
    KeepsConsistent strict (valkeyAsyncHandle order ac outcome next) := by
  unfold valkeyAsyncHandle valkeyAsyncHandleConnect
  split
  · exact keepsConsistent_transfer order next outside kept
  · cases outcome with
    | pending => exact ⟨outside, kept⟩
    | failed err =>
        dsimp only
        split
        · exact ⟨rfl, Option.some_ne_none err⟩
        · exact keepsConsistent_failed order outside (Option.some_ne_none err) kept
    | noDelay err =>
        dsimp only
        split
        · exact ⟨rfl, Option.some_ne_none err⟩
        · exact keepsConsistent_failed order outside (Option.some_ne_none err) kept
    | done =>
        dsimp only
        split
        · exact ⟨rfl, trivial⟩
        · refine keepsConsistent_afterConnect order next outside fun strictly freeing => ?_
          rw [kept strictly] at freeing
          cases freeing

theorem setTimeoutError_spec (ac : ValkeyAsyncContext Fn Data) :
    ∃ failure err, setTimeoutError ac = { ac with cErr := some failure, err := err } := by
  unfold setTimeoutError
  dsimp only
  split
  · rename_i failed
    obtain ⟨failure, known⟩ := Option.isSome_iff_exists.mp failed
    exact ⟨failure, ac.err, by rw [← known]⟩
  · exact ⟨_, _, rfl⟩

theorem consistent_valkeyAsyncHandleTimeout (outside : ac.inCallback = false)
    (kept : strict → ac.freeing = false) : Consistent strict (valkeyAsyncHandleTimeout ac) := by
  unfold valkeyAsyncHandleTimeout
  split
  · exact ⟨outside, kept⟩
  · split
    · exact ⟨outside, kept⟩
    · split
      · obtain ⟨count, refreshed⟩ := ValkeyAsyncContext.refreshTimeout_eq
          { ac with timeoutReplyCount := none }
        rw [refreshed]
        exact ⟨outside, kept⟩
      · obtain ⟨failure, err, same⟩ := setTimeoutError_spec ac
        dsimp only
        rw [same]
        split
        · exact ⟨rfl, Option.some_ne_none failure⟩
        · exact ⟨outside, Option.some_ne_none failure⟩

theorem keepsConsistent_timeoutReplies (outside : ac.inCallback = false) (failed : ac.cErr ≠ none)
    (inTime : strict → ac.freeing = true → ac.replies = [] → ac.noAutoFree = false) :
    KeepsConsistent strict (timeoutReplies order ac) := by
  unfold timeoutReplies
  split
  · rename_i empty
    exact keepsConsistent_valkeyAsyncDisconnectInternal order outside
      (fun clean => absurd clean failed)
      fun strictly freeing => inTime strictly freeing empty
  · rename_i cb rest _
    refine (runsFrom_runCallback { ac with replies := rest } cb none).bind fun result runs => ?_
    obtain ⟨entered, next⟩ := result
    have error : next.cErr = ac.cErr := congrArg (·.cErr) runs.1
    rw [← error] at failed
    cases entered with
    | true => exact ⟨runs.2, failed⟩
    | false => exact ⟨runs.2.trans outside, failed⟩

theorem closed_of_control {next : ValkeyAsyncContext Fn Data} (same : next.control = ac.control)
    (closed : ac.Closed) : next.Closed := by
  have disconnecting : next.disconnecting = ac.disconnecting := congrArg (·.disconnecting) same
  have freeing : next.freeing = ac.freeing := congrArg (·.freeing) same
  rw [ValkeyAsyncContext.Closed, disconnecting, freeing]
  exact closed

theorem keepsConsistent_freeCallbacks (subscriptions : List (Callback Fn Data))
    (outside : ac.inCallback = false) (closed : ac.Closed) :
    KeepsConsistent strict (freeCallbacks ac subscriptions) := by
  unfold freeCallbacks
  dsimp only
  split
  · rename_i cb rest _
    refine (runsFrom_runCallback { ac with replies := rest } cb none).bind fun result runs => ?_
    obtain ⟨entered, next⟩ := result
    have closed : next.Closed := closed_of_control runs.1 closed
    cases entered with
    | true => exact ⟨runs.2, closed⟩
    | false => exact ⟨runs.2.trans outside, closed⟩
  · rename_i cb rest _ _
    refine (runsFrom_runCallback { ac with subReplies := rest } cb none).bind fun result runs => ?_
    obtain ⟨entered, next⟩ := result
    have closed : next.Closed := closed_of_control runs.1 closed
    cases entered with
    | true => exact ⟨runs.2, closed⟩
    | false => exact ⟨runs.2.trans outside, closed⟩
  · rename_i cb rest _ _
    refine (runsFrom_runCallback ac cb none).bind fun result runs => ?_
    obtain ⟨entered, next⟩ := result
    have closed : next.Closed := closed_of_control runs.1 closed
    cases entered with
    | true => exact ⟨runs.2, closed⟩
    | false => exact ⟨runs.2.trans outside, closed⟩
  · rename_i replies subReplies
    split
    · exact ⟨rfl, closed, replies, subReplies⟩
    · exact ⟨replies, subReplies⟩

theorem keepsConsistent_afterCallback {resume : Resume Fn Data}
    (fits : ResumeConsistent ac resume) (outside : ac.inCallback = false)
    (inTime : strict → FreesInTime (.callback resume, ac) .proceed) :
    KeepsConsistent strict (afterCallback order ac resume) := by
  cases resume with
  | connected next =>
      refine keepsConsistent_afterConnect order next outside
        fun strictly freeing disconnecting => ?_
      have looks : (ac.disconnecting && !ac.replies.isEmpty) = false := inTime strictly freeing
      simpa [disconnecting] using looks
  | connectFailed =>
      exact keepsConsistent_valkeyAsyncDisconnectInternal order outside
        (fun clean => absurd clean fits) inTime
  | connectTimeout => exact ⟨outside, fits⟩
  | timeout => exact ⟨outside, fits⟩
  | push =>
      refine ⟨outside, fun strictly => ?_⟩
      by_contra freeing
      rw [Bool.not_eq_false] at freeing
      have looks : true = false := inTime strictly freeing
      cases looks
  | reply cb => exact consistent_afterReply order cb outside
  | freeing subscriptions => exact ⟨outside, fits⟩
  | disconnected => exact fits.2

/-- What a command leaves alone. -/
structure SameFlags (ac next : ValkeyAsyncContext Fn Data) : Prop where
  inCallback : next.inCallback = ac.inCallback
  disconnecting : next.disconnecting = ac.disconnecting
  freeing : next.freeing = ac.freeing
  noAutoFree : next.noAutoFree = ac.noAutoFree
  connected : next.connected = ac.connected
  cErr : next.cErr = ac.cErr
  served : next.served = ac.served

theorem served_beside : BesideChannels fun ac : ValkeyAsyncContext Fn Data => ac.served where
  setDict ac variant dict := by cases variant <;> rfl
  pendingUnsubs _ _ := rfl

theorem served_registerCommand {registered : ValkeyAsyncContext Fn Data} {fn : Option Fn}
    {data : Data} {cmd : Bytes} {first : Argument}
    (accepted : registerCommand ac fn data cmd first = some registered) :
    registered.served = ac.served := by
  have pushed (toSubReplies : Bool) (ac : ValkeyAsyncContext Fn Data) (cb : Callback Fn Data) :
      (pushCallback toSubReplies ac cb).served = ac.served := by
    cases toSubReplies <;> rfl
  cases booked_of_accepted accepted with
  | sharded => exact (pushed _ _ _).trans (served_beside.addChannels _ _ _ _)
  | subscribe => exact served_beside.addChannels _ _ _ _
  | unsubscribe => exact served_beside.sendUnsubscribes _ _ ac
  | unsubscribeAll => exact served_beside.unsubscribeAll _ ac
  | monitor => rfl
  | regular => exact pushed _ ac _

theorem sameFlags_valkeyAsyncAppendCmdLen (ac : ValkeyAsyncContext Fn Data) (fn : Option Fn)
    (data : Data) (cmd : Bytes) : SameFlags ac (valkeyAsyncAppendCmdLen ac fn data cmd).2 := by
  rcases valkeyAsyncAppendCmdLen_accepted ac fn data cmd with
    refused | ⟨_, first, registered, _, accepted, written⟩
  · rw [refused]
    exact ⟨rfl, rfl, rfl, rfl, rfl, rfl, rfl⟩
  · have same := sameControl_registerCommand accepted
    have served := served_registerCommand accepted
    obtain ⟨count, stored⟩ := registered.writeCommand_eq ⟨fn, data, cmd⟩
    rw [written, stored]
    exact ⟨same.inCallback, congrArg (·.disconnecting) same.control,
      congrArg (·.freeing) same.control, congrArg (·.noAutoFree) same.control,
      congrArg (·.connected) same.control, congrArg (·.cErr) same.control, served⟩

theorem valkeyAsyncAppendCmdLen_closed (closed : ac.Closed) (fn : Option Fn) (data : Data)
    (cmd : Bytes) : valkeyAsyncAppendCmdLen ac fn data cmd = (.err, ac) := if_pos closed

/-- A command leaves the label and what is known at it. -/
theorem consistent_command_idle (fn : Option Fn) (data : Data) (cmd : Bytes)
    (consistent : LabelConsistent strict ac .idle) :
    LabelConsistent strict (valkeyAsyncAppendCmdLen ac fn data cmd).2 .idle := by
  have same := sameFlags_valkeyAsyncAppendCmdLen ac fn data cmd
  constructor
  · exact same.inCallback.trans consistent.1
  · intro strictly
    exact same.freeing.trans (consistent.2 strictly)

theorem consistent_command_callback {resume : Resume Fn Data} (fn : Option Fn) (data : Data)
    (cmd : Bytes) (consistent : LabelConsistent strict ac (.callback resume)) :
    LabelConsistent strict (valkeyAsyncAppendCmdLen ac fn data cmd).2 (.callback resume) := by
  have same := sameFlags_valkeyAsyncAppendCmdLen ac fn data cmd
  refine ⟨same.inCallback.trans consistent.1, ?_⟩
  have fits := consistent.2
  cases resume with
  | connected next => trivial
  | push => trivial
  | reply cb => trivial
  | connectFailed => exact fun clean => fits (same.cErr.symm.trans clean)
  | connectTimeout => exact fun clean => fits (same.cErr.symm.trans clean)
  | timeout => exact fun clean => fits (same.cErr.symm.trans clean)
  | freeing subscriptions =>
      rw [valkeyAsyncAppendCmdLen_closed fits]
      exact fits
  | disconnected =>
      rw [valkeyAsyncAppendCmdLen_closed fits.1]
      exact fits

theorem consistent_closing_callback {resume : Resume Fn Data}
    (consistent : LabelConsistent strict ac (.callback resume)) {next : ValkeyAsyncContext Fn Data}
    (inCallback : next.inCallback = ac.inCallback) (cErr : next.cErr = ac.cErr)
    (replies : next.replies = ac.replies) (subReplies : next.subReplies = ac.subReplies)
    (closed : next.Closed) : LabelConsistent strict next (.callback resume) := by
  refine ⟨inCallback.trans consistent.1, ?_⟩
  have fits := consistent.2
  cases resume with
  | connected next => trivial
  | push => trivial
  | reply cb => trivial
  | connectFailed => exact fun clean => fits (cErr.symm.trans clean)
  | connectTimeout => exact fun clean => fits (cErr.symm.trans clean)
  | timeout => exact fun clean => fits (cErr.symm.trans clean)
  | freeing subscriptions => exact closed
  | disconnected => exact ⟨closed, replies.trans fits.2.1, subReplies.trans fits.2.2⟩

/-- One event. -/
theorem keepsConsistent_asyncStep {state : AsyncState Fn Data} (event : AsyncEvent Fn Data)
    (consistent : Consistent strict state) (inTime : strict → FreesInTime state event) :
    KeepsConsistent strict (asyncStep order state event) := by
  obtain ⟨label, ac⟩ := state
  have unchanged : KeepsConsistent strict (.ok (label, ac)) := consistent
  cases label with
  | idle =>
      obtain ⟨outside, kept⟩ := consistent
      cases event with
      | command fn data cmd => exact consistent_command_idle fn data cmd ⟨outside, kept⟩
      | disconnect =>
          refine keepsConsistent_valkeyAsyncDisconnect_idle order outside fun strictly freeing => ?_
          rw [kept strictly] at freeing
          cases freeing
      | free => exact consistent_valkeyAsyncFree_idle order outside
      | readable outcome input =>
            exact keepsConsistent_valkeyAsyncHandle order outcome _ outside kept
      | writable outcome output =>
            exact keepsConsistent_valkeyAsyncHandle order outcome _ outside kept
      | timer => exact consistent_valkeyAsyncHandleTimeout outside kept
      | proceed => exact unchanged
  | callback resume =>
      cases event with
      | command fn data cmd => exact consistent_command_callback fn data cmd consistent
      | disconnect =>
          have inside : ¬(¬ac.inCallback = true ∧ ac.replies = []) :=
            fun both => both.1 consistent.1
          unfold asyncStep valkeyAsyncDisconnect
          dsimp only
          rw [if_neg inside]
          exact consistent_closing_callback consistent rfl rfl rfl rfl (.inl rfl)
      | free =>
          unfold asyncStep valkeyAsyncFree
          dsimp only
          rw [if_pos consistent.1]
          exact consistent_closing_callback consistent rfl rfl rfl rfl (.inr rfl)
      | proceed =>
          have fits : ResumeConsistent { ac with inCallback := false } resume := by
            have known := consistent.2
            cases resume <;> exact known
          refine keepsConsistent_afterCallback order fits rfl fun strictly freeing => ?_
          have looks := inTime strictly freeing
          cases resume <;> exact looks
      | readable outcome input => exact unchanged
      | writable outcome output => exact unchanged
      | timer => exact unchanged
  | processing =>
      cases event with
      | proceed => exact keepsConsistent_valkeyProcessCallbacks order consistent.1 consistent.2
      | _ => exact unchanged
  | timeout =>
      cases event with
      | proceed =>
          exact keepsConsistent_timeoutReplies order consistent.1 consistent.2
            fun strictly freeing empty => by
              have looks : (ac.replies.isEmpty && ac.noAutoFree) = false := inTime strictly freeing
              simpa [empty] using looks
      | _ => exact unchanged
  | freeing subscriptions =>
      cases event with
      | proceed => exact keepsConsistent_freeCallbacks subscriptions consistent.1 consistent.2
      | _ => exact unchanged
  | gone =>
      cases event <;> exact unchanged

theorem consistent_valkeyAsyncInitialize (options : AsyncOptions) :
    Consistent strict (.idle, valkeyAsyncInitialize Fn Data options) := by
  constructor
  · rfl
  · intro _
    rfl

theorem asyncRun_append {start middle : AsyncState Fn Data} {before : List (AsyncEvent Fn Data)}
    (run : asyncRun order start before = .ok middle) (after : List (AsyncEvent Fn Data)) :
    asyncRun order start (before ++ after) = asyncRun order middle after := by
  induction before generalizing start with
  | nil =>
      cases run
      rfl
  | cons event before induction =>
      rw [List.cons_append, asyncRun]
      rw [asyncRun] at run
      cases step : asyncStep order start event with
      | error fault =>
          rw [step] at run
          cases run
      | ok next =>
          rw [step] at run
          exact induction run

/-- What every step preserves holds along a run. -/
theorem asyncRun_invariant {invariant : AsyncState Fn Data → Prop}
    (preserves : ∀ state event next, invariant state → asyncStep order state event = .ok next →
      invariant next)
    {start final : AsyncState Fn Data} (events : List (AsyncEvent Fn Data))
    (initial : invariant start)
    (run : asyncRun order start events = .ok final) : invariant final := by
  induction events generalizing start with
  | nil =>
      cases run
      exact initial
  | cons event events induction =>
      unfold asyncRun at run
      cases step : asyncStep order start event with
      | error fault =>
          rw [step] at run
          cases run
      | ok next =>
          rw [step] at run
          exact induction (preserves start event next initial step) run

/-- Every state that a run reaches is consistent. -/
theorem asyncRun_consistent (options : AsyncOptions) (events : List (AsyncEvent Fn Data))
    {state : AsyncState Fn Data}
    (run : asyncRun order (.idle, valkeyAsyncInitialize Fn Data options) events = .ok state) :
    Consistent False state := by
  refine asyncRun_invariant order (fun state event next consistent step => ?_) events
    (consistent_valkeyAsyncInitialize options) run
  exact (keepsConsistent_asyncStep order event consistent fun impossible =>
    impossible.elim).of_ok step

end Labels

end Libvalkey
