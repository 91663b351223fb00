import Libvalkey.Async.Machine
import Libvalkey.Foundation.Checked

/-! # Who supplied a subscription

The function and the data in an entry of `sub.channels` and `sub.patterns` come from the
commands that subscribed to it. -/

namespace Libvalkey

open Checked

variable {Fn Data : Type}

/-- The variant and the names of a subscribe command. -/
def subscribes (cmd : Bytes) : Option (Variant × List Bytes) :=
  match nextArgument cmd with
  | none => none
  | some first =>
      match commandKind first with
      | .subscribe => some (variantOf first.text, argumentsOf first.next)
      | _ => none

/-- One of the commands gave both the function and the data, and named the channel. -/
def Supplied (submitted : List (Submission Fn Data)) (variant : Variant) (name : Bytes)
    (cb : Callback Fn Data) : Prop :=
  ∃ submission ∈ submitted, cb.fn = submission.fn.map .user ∧
    cb.privdata = .user submission.data ∧
    ∃ names, subscribes submission.cmd = some (variant, names) ∧ name ∈ names

/-- Every entry for a channel or a pattern was supplied by one command. -/
def AllSupplied (ac : ValkeyAsyncContext Fn Data) : Prop :=
  ∀ variant name cb, variant ≠ .sharded → (ac.dict variant).lookup name = some cb →
    Supplied ac.submitted variant name cb

/-! ## Steps that only keep entries -/

/-- The entries for channels and patterns have their functions and data from before. -/
structure Inherits (ac next : ValkeyAsyncContext Fn Data) : Prop where
  submitted : next.submitted = ac.submitted
  entries : ∀ variant name cb, variant ≠ .sharded → (next.dict variant).lookup name = some cb →
    ∃ old, (ac.dict variant).lookup name = some old ∧ cb.fn = old.fn ∧ cb.privdata = old.privdata

namespace Inherits

variable {ac next final : ValkeyAsyncContext Fn Data}

theorem allSupplied (inherits : Inherits ac next) (supplied : AllSupplied ac) :
    AllSupplied next := by
  intro variant name cb notSharded found
  obtain ⟨old, foundOld, sameFn, sameData⟩ := inherits.entries variant name cb notSharded found
  obtain ⟨submission, member, fn, data, names⟩ := supplied variant name old notSharded foundOld
  rw [← inherits.submitted] at member
  exact ⟨submission, member, sameFn.trans fn, sameData.trans data, names⟩

theorem refl (ac : ValkeyAsyncContext Fn Data) : Inherits ac ac :=
  ⟨rfl, fun _ _ cb _ found => ⟨cb, found, rfl, rfl⟩⟩

theorem trans (first : Inherits ac next) (second : Inherits next final) : Inherits ac final := by
  constructor
  · exact second.submitted.trans first.submitted
  · intro variant name cb notSharded found
    obtain ⟨middle, foundMiddle, fn, data⟩ := second.entries variant name cb notSharded found
    obtain ⟨old, foundOld, fnOld, dataOld⟩ :=
      first.entries variant name middle notSharded foundMiddle
    exact ⟨old, foundOld, fn.trans fnOld, data.trans dataOld⟩

/-- The dictionaries of channels and patterns are the same. -/
theorem of_same (submitted : next.submitted = ac.submitted) (channels : next.channels = ac.channels)
    (patterns : next.patterns = ac.patterns) : Inherits ac next := by
  refine ⟨submitted, fun variant name cb notSharded found => ?_⟩
  cases variant with
  | channel =>
      rw [ValkeyAsyncContext.dict, channels] at found
      exact ⟨cb, found, rfl, rfl⟩
  | pattern =>
      rw [ValkeyAsyncContext.dict, patterns] at found
      exact ⟨cb, found, rfl, rfl⟩
  | sharded => exact absurd rfl notSharded

theorem from_same (inherits : Inherits next final) (submitted : next.submitted = ac.submitted)
    (channels : next.channels = ac.channels) (patterns : next.patterns = ac.patterns) :
    Inherits ac final :=
  (of_same submitted channels patterns).trans inherits

/-- An entry is replaced by one with the same function and data. -/
theorem replace {variant : Variant} {name : Bytes} {old cb : Callback Fn Data}
    (found : (ac.dict variant).lookup name = some old) (fn : cb.fn = old.fn)
    (data : cb.privdata = old.privdata) : Inherits ac (ac.replace variant name cb) := by
  constructor
  · cases variant <;> rfl
  · intro other key entry notSharded foundKey
    rw [ValkeyAsyncContext.lookup_replace] at foundKey
    split at foundKey
    · rename_i same
      obtain ⟨rfl, rfl⟩ := same
      obtain rfl := Option.some.inj foundKey
      exact ⟨old, found, fn, data⟩
    · exact ⟨entry, foundKey, rfl, rfl⟩

theorem replace_sharded (name : Bytes) (cb : Callback Fn Data) :
    Inherits ac (ac.replace .sharded name cb) := of_same rfl rfl rfl

theorem delete (variant : Variant) (name : Bytes) : Inherits ac (ac.delete variant name) := by
  constructor
  · cases variant <;> rfl
  · intro other key entry _ found
    rw [ValkeyAsyncContext.lookup_delete] at found
    split at found
    · cases found
    · exact ⟨entry, found, rfl, rfl⟩

end Inherits

/-- A computation that inherits every entry. -/
def Inheriting (ac : ValkeyAsyncContext Fn Data)
    (computation : Except AsyncFault (AsyncState Fn Data)) : Prop :=
  Ensures computation (fun _ => True) fun state => Inherits ac state.2

theorem inherits_dropSubscription (ac : ValkeyAsyncContext Fn Data) (variant : Variant)
    (found : Option (Bytes × Callback Fn Data)) :
    Inherits ac (dropSubscription ac variant found) := by
  rcases found with _ | ⟨name, cb⟩
  · exact .of_same rfl rfl rfl
  · rw [dropSubscription]
    split
    · exact .delete variant name
    · exact .refl ac

theorem inherits_confirmUnsubscribe (ac : ValkeyAsyncContext Fn Data) (variant : Variant)
    (found : Option (Bytes × Callback Fn Data)) (left : Int) :
    Inherits ac (confirmUnsubscribe ac variant found left) := by
  have dropped := inherits_dropSubscription ac variant found
  unfold confirmUnsubscribe
  dsimp only
  split
  · exact dropped.trans (.of_same rfl rfl rfl)
  · exact dropped

theorem findSubscription_some {ac : ValkeyAsyncContext Fn Data} {variant : Variant}
    {reply : ReplyTree} {name : Bytes} {cb : Callback Fn Data}
    (found : findSubscription ac variant reply = some (name, cb)) :
    reply = .string name ∧ (ac.dict variant).lookup name = some cb := by
  unfold findSubscription at found
  split at found
  · rename_i text
    obtain ⟨entry, known, same⟩ := Option.map_eq_some_iff.mp found
    cases same
    exact ⟨rfl, known⟩
  · cases found

theorem inherits_subscriptionMessage (ac : ValkeyAsyncContext Fn Data) (elements : List ReplyTree) :
    Ensures (subscriptionMessage ac elements) (fun _ => True) fun result =>
      Inherits ac result.2 := by
  unfold subscriptionMessage
  split
  · rename_i stype second rest
    dsimp only
    split
    · split
      · trivial
      · rename_i name cb found
        exact .replace (findSubscription_some found).2 rfl rfl
    · split
      · split
        · exact inherits_confirmUnsubscribe ac _ _ _
        · trivial
        · trivial
      · exact .refl ac
  · trivial
  · trivial
  · trivial

theorem inherits_shiftSubReplies (ac : ValkeyAsyncContext Fn Data) :
    Inherits ac (shiftSubReplies ac).2 := by
  unfold shiftSubReplies
  split
  · exact .refl ac
  · exact .of_same rfl rfl rfl

theorem inherits_valkeyGetSubscribeCallback (ac : ValkeyAsyncContext Fn Data) (reply : ReplyTree) :
    Ensures (valkeyGetSubscribeCallback ac reply) (fun _ => True)
      fun result => Inherits ac result.2 := by
  unfold valkeyGetSubscribeCallback
  split
  · exact inherits_subscriptionMessage ac _
  · split
    · exact inherits_subscriptionMessage ac _
    · exact inherits_shiftSubReplies ac
  · exact inherits_shiftSubReplies ac

theorem inherits_subscriptionFailed (names : List Bytes) (ac : ValkeyAsyncContext Fn Data) :
    Inherits ac (subscriptionFailed ac names) := by
  induction names generalizing ac with
  | nil => exact .refl ac
  | cons name rest induction =>
      unfold subscriptionFailed
      split
      · exact induction ac
      · dsimp only
        split
        · exact (Inherits.delete .sharded name).trans (induction _)
        · exact (Inherits.replace_sharded name _).trans (induction _)

theorem inherits_assignCallback (fn : Option Fn) (names : List Bytes)
    (ac : ValkeyAsyncContext Fn Data) : Inherits ac (assignCallback fn ac names) := by
  induction names generalizing ac with
  | nil => exact .refl ac
  | cons name rest induction =>
      unfold assignCallback
      split
      · exact induction ac
      · exact (Inherits.replace_sharded name _).trans (induction _)

theorem inherits_markSubscribed (ac : ValkeyAsyncContext Fn Data)
    (data : SsubscribeCallbackData Fn Data) (reply : ReplyTree) :
    Ensures (markSubscribed ac data reply) (fun _ => True) fun next => Inherits ac next := by
  unfold markSubscribed
  split
  · split
    all_goals first
      | trivial
      | (split
         · exact inherits_assignCallback _ _ ac
         · exact .refl ac)
  · split
    all_goals first
      | trivial
      | (split
         · exact inherits_assignCallback _ _ ac
         · exact .refl ac)
  · exact .refl ac

/-- The user hears that a sharded subscription failed. -/
theorem inherits_callFailed (ac : ValkeyAsyncContext Fn Data) (cb second : Callback Fn Data)
    (reply : Option ReplyTree) (names : List Bytes) :
    Inherits ac ((subscriptionFailed (ac.serve cb reply) names).serve second reply).enter := by
  have served : Inherits ac (ac.serve cb reply) := .of_same rfl rfl rfl
  have failed := inherits_subscriptionFailed names (ac.serve cb reply)
  exact (served.trans failed).trans (.of_same rfl rfl rfl)

theorem inherits_valkeyRunCallback (fuel : Nat) (ac : ValkeyAsyncContext Fn Data)
    (cb : Callback Fn Data) (reply : Option ReplyTree) :
    Ensures (valkeyRunCallback fuel ac cb reply) (fun _ => True)
      fun result => Inherits ac result.2 := by
  induction fuel generalizing ac cb with
  | zero =>
      unfold valkeyRunCallback
      dsimp only
      split
      · exact .of_same rfl rfl rfl
      · exact .of_same rfl rfl rfl
      · split
        · split
          · trivial
          · exact inherits_callFailed ac cb _ _ _
        · refine (inherits_markSubscribed _ _ _).bind fun marked _ => ?_
          exact (inherits_valkeyGetSubscribeCallback marked _).bind fun result _ => trivial
        · trivial
  | succ fuel induction =>
      unfold valkeyRunCallback
      dsimp only
      split
      · exact .of_same rfl rfl rfl
      · exact .of_same rfl rfl rfl
      · split
        · split
          · trivial
          · exact inherits_callFailed ac cb _ _ _
        · refine (inherits_markSubscribed _ _ _).bind fun marked first => ?_
          refine (inherits_valkeyGetSubscribeCallback marked _).bind fun result second => ?_
          refine (induction _ _).mono fun final third => ?_
          exact (first.trans (second.trans third)).from_same rfl rfl rfl
        · trivial

theorem inherits_runCallback (ac : ValkeyAsyncContext Fn Data) (cb : Callback Fn Data)
    (reply : Option ReplyTree) :
    Ensures (runCallback ac cb reply) (fun _ => True) fun result => Inherits ac result.2 :=
  inherits_valkeyRunCallback _ ac cb reply

section Steps

variable (order : IterationOrder)

theorem inheriting_valkeyAsyncDisconnectInternal (ac : ValkeyAsyncContext Fn Data) :
    Inheriting ac (valkeyAsyncDisconnectInternal order ac) := by
  unfold valkeyAsyncDisconnectInternal
  dsimp only
  split
  · trivial
  · split <;> split <;> exact .of_same rfl rfl rfl

theorem Inheriting.after {ac next : ValkeyAsyncContext Fn Data}
    {computation : Except AsyncFault (AsyncState Fn Data)} (second : Inheriting next computation)
    (first : Inherits ac next) : Inheriting ac computation :=
  second.mono fun _ inherits => first.trans inherits

theorem inherits_repush (cb : Callback Fn Data) (ac : ValkeyAsyncContext Fn Data) :
    Inherits ac (repush cb ac) := by
  unfold repush
  split
  · exact .of_same rfl rfl rfl
  · exact .refl ac

theorem inherits_afterReply (cb : Callback Fn Data) (ac : ValkeyAsyncContext Fn Data) :
    Inherits ac (afterReply order cb ac).2 := by
  unfold afterReply
  split
  · exact .refl ac
  · exact inherits_repush cb ac

theorem inheriting_deliverReply (ac : ValkeyAsyncContext Fn Data) (cb : Callback Fn Data)
    (reply : ReplyTree) : Inheriting ac (deliverReply order ac cb reply) := by
  unfold deliverReply
  split
  · exact (inherits_repush cb _).from_same rfl rfl rfl
  · refine (inherits_runCallback ac cb _).bind fun result inherits => ?_
    dsimp only
    split
    · exact inherits
    · exact inherits.trans (inherits_afterReply order cb result.2)

theorem inheriting_unexpectedReply (ac : ValkeyAsyncContext Fn Data) (reply : ReplyTree) :
    Inheriting ac (unexpectedReply order ac reply) := by
  unfold unexpectedReply
  split
  · split
    · split
      · exact (inheriting_deliverReply order _ _ _).after (.of_same rfl rfl rfl)
      · exact (inheriting_valkeyAsyncDisconnectInternal order _).after (.of_same rfl rfl rfl)
    · exact (inheriting_valkeyAsyncDisconnectInternal order _).after (.of_same rfl rfl rfl)
  · split
    · trivial
    · refine (inherits_valkeyGetSubscribeCallback ac reply).bind fun result inherits => ?_
      exact (inheriting_deliverReply order _ _ _).after inherits

theorem inheriting_processReply (ac : ValkeyAsyncContext Fn Data) (reply : ReplyTree) :
    Inheriting ac (processReply order ac reply) := by
  unfold processReply
  split
  · split
    · exact .of_same rfl rfl rfl
    · exact .refl ac
  · split
    · exact (inheriting_deliverReply order _ _ _).after (.of_same rfl rfl rfl)
    · exact inheriting_unexpectedReply order ac reply

theorem inheriting_valkeyProcessCallbacks (ac : ValkeyAsyncContext Fn Data) :
    Inheriting ac (valkeyProcessCallbacks order ac) := by
  unfold valkeyProcessCallbacks
  split
  · exact (inheriting_processReply order _ _).after (.of_same rfl rfl rfl)
  · split
    · exact (inheriting_valkeyAsyncDisconnectInternal order _).after (.of_same rfl rfl rfl)
    · split
      · exact inheriting_valkeyAsyncDisconnectInternal order ac
      · exact .refl ac

theorem inherits_refreshTimeout (ac : ValkeyAsyncContext Fn Data) :
    Inherits ac ac.refreshTimeout := by
  obtain ⟨count, same⟩ := ac.refreshTimeout_eq
  rw [same]
  exact .of_same rfl rfl rfl

theorem inheriting_transfer (ac : ValkeyAsyncContext Fn Data) (next : Transfer) :
    Inheriting ac (transfer order ac next) := by
  have disconnect (next : ValkeyAsyncContext Fn Data) :=
    inheriting_valkeyAsyncDisconnectInternal order next
  cases next with
  | read input =>
      unfold transfer valkeyAsyncRead
      dsimp only
      split
      · exact (disconnect _).after (.of_same rfl rfl rfl)
      · split
        · exact disconnect ac
        · exact (inherits_refreshTimeout _).from_same rfl rfl rfl
  | write output =>
      unfold transfer valkeyAsyncWrite
      dsimp only
      split
      · exact (disconnect _).after (.of_same rfl rfl rfl)
      · split
        · exact disconnect ac
        · exact (inherits_refreshTimeout _).from_same rfl rfl rfl

theorem inheriting_valkeyAsyncDisconnect (label : AsyncLabel Fn Data)
    (ac : ValkeyAsyncContext Fn Data) :
    Inheriting ac (valkeyAsyncDisconnect order label ac) := by
  unfold valkeyAsyncDisconnect
  dsimp only
  split
  · exact (inheriting_valkeyAsyncDisconnectInternal order _).after (.of_same rfl rfl rfl)
  · exact .of_same rfl rfl rfl

theorem inherits_valkeyAsyncFree (label : AsyncLabel Fn Data) (ac : ValkeyAsyncContext Fn Data) :
    Inherits ac (valkeyAsyncFree order label ac).2 := by
  unfold valkeyAsyncFree
  dsimp only
  split
  · exact .of_same rfl rfl rfl
  · exact .of_same rfl rfl rfl

theorem inheriting_afterConnect (ac : ValkeyAsyncContext Fn Data) (next : Transfer) :
    Inheriting ac (afterConnect order ac next) := by
  unfold afterConnect
  split
  · exact inheriting_valkeyAsyncDisconnect order .idle ac
  · split
    · exact inherits_valkeyAsyncFree order .idle ac
    · exact inheriting_transfer order ac next

theorem inheriting_valkeyAsyncHandle (ac : ValkeyAsyncContext Fn Data) (outcome : ConnectOutcome)
    (next : Transfer) : Inheriting ac (valkeyAsyncHandle order ac outcome next) := by
  have disconnect (next : ValkeyAsyncContext Fn Data) :=
    inheriting_valkeyAsyncDisconnectInternal order next
  unfold valkeyAsyncHandle valkeyAsyncHandleConnect
  split
  · exact inheriting_transfer order ac next
  · cases outcome with
    | pending => exact .refl ac
    | failed err =>
        dsimp only
        split
        · exact .of_same rfl rfl rfl
        · exact (disconnect _).after (.of_same rfl rfl rfl)
    | noDelay err =>
        dsimp only
        split
        · exact .of_same rfl rfl rfl
        · exact (disconnect _).after (.of_same rfl rfl rfl)
    | done =>
        dsimp only
        split
        · exact .of_same rfl rfl rfl
        · exact (inheriting_afterConnect order _ next).after (.of_same rfl rfl rfl)

theorem inherits_valkeyAsyncHandleTimeout (ac : ValkeyAsyncContext Fn Data) :
    Inherits ac (valkeyAsyncHandleTimeout ac).2 := by
  unfold valkeyAsyncHandleTimeout
  split
  · exact .of_same rfl rfl rfl
  · split
    · exact .refl ac
    · split
      · exact (inherits_refreshTimeout _).from_same rfl rfl rfl
      · have failed : Inherits ac (setTimeoutError ac) := by
          unfold setTimeoutError
          dsimp only
          split
          · exact .refl ac
          · exact .of_same rfl rfl rfl
        dsimp only
        split
        · exact failed.trans (.of_same rfl rfl rfl)
        · exact failed

theorem inheriting_timeoutReplies (ac : ValkeyAsyncContext Fn Data) :
    Inheriting ac (timeoutReplies order ac) := by
  unfold timeoutReplies
  split
  · exact inheriting_valkeyAsyncDisconnectInternal order ac
  · rename_i cb rest _
    refine (inherits_runCallback _ cb none).bind fun result inherits => ?_
    exact inherits.from_same rfl rfl rfl

theorem inheriting_freeCallbacks (ac : ValkeyAsyncContext Fn Data)
    (subscriptions : List (Callback Fn Data)) : Inheriting ac (freeCallbacks ac subscriptions) := by
  unfold freeCallbacks
  dsimp only
  split
  · rename_i cb rest _
    refine (inherits_runCallback _ cb none).bind fun result inherits => ?_
    exact inherits.from_same rfl rfl rfl
  · rename_i cb rest _ _
    refine (inherits_runCallback _ cb none).bind fun result inherits => ?_
    exact inherits.from_same rfl rfl rfl
  · rename_i cb rest _ _
    exact (inherits_runCallback ac cb none).bind fun result inherits => inherits
  · split
    · exact .of_same rfl rfl rfl
    · exact .refl ac

theorem inheriting_afterCallback (ac : ValkeyAsyncContext Fn Data) (resume : Resume Fn Data) :
    Inheriting ac (afterCallback order ac resume) := by
  cases resume with
  | connected next => exact inheriting_afterConnect order ac next
  | connectFailed => exact inheriting_valkeyAsyncDisconnectInternal order ac
  | reply cb => exact inherits_afterReply order cb ac
  | connectTimeout => exact .refl ac
  | push => exact .refl ac
  | timeout => exact .refl ac
  | freeing subscriptions => exact .refl ac
  | disconnected => exact .refl ac

theorem inheriting_return (ac : ValkeyAsyncContext Fn Data) (resume : Resume Fn Data) :
    Inheriting ac (afterCallback order { ac with inCallback := false } resume) :=
  (inheriting_afterCallback order _ resume).after (.of_same rfl rfl rfl)

end Steps

/-! ## Commands that do not subscribe -/

theorem inherits_sendUnsubscribes (variant : Variant) (names : List Bytes)
    (ac : ValkeyAsyncContext Fn Data) : Inherits ac (sendUnsubscribes variant ac names) := by
  induction names generalizing ac with
  | nil => exact .refl ac
  | cons name rest induction =>
      unfold sendUnsubscribes
      split
      · rename_i entry found
        split
        · exact (induction _).from_same rfl rfl rfl
        · have marked : Inherits ac
              (ac.replace variant name { entry with unsubscribeSent := true }) :=
            .replace found rfl rfl
          exact marked.trans (induction _)
      · exact (induction _).from_same rfl rfl rfl

theorem inherits_mapValues (ac : ValkeyAsyncContext Fn Data) (variant : Variant)
    (change : Callback Fn Data → Callback Fn Data) (fn : ∀ cb, (change cb).fn = cb.fn)
    (data : ∀ cb, (change cb).privdata = cb.privdata) :
    Inherits ac (ac.setDict variant (Dictionary.mapValues change (ac.dict variant))) := by
  constructor
  · cases variant <;> rfl
  · intro other name cb _ found
    rw [ValkeyAsyncContext.dict_setDict] at found
    split at found
    · rename_i same
      subst same
      rw [Dictionary.lookup_mapValues] at found
      obtain ⟨old, foundOld, changed⟩ := Option.map_eq_some_iff.mp found
      subst changed
      exact ⟨old, foundOld, fn old, data old⟩
    · exact ⟨cb, found, rfl, rfl⟩

theorem inherits_unsubscribeAll (variant : Variant) (ac : ValkeyAsyncContext Fn Data) :
    Inherits ac (unsubscribeAll variant ac) := by
  have marked := inherits_mapValues ac variant
    (fun cb => { cb with unsubscribeSent := true }) (fun _ => rfl) fun _ => rfl
  unfold unsubscribeAll
  dsimp only
  split
  · exact marked.trans (.of_same rfl rfl rfl)
  · exact marked

theorem inherits_pushCallback (toSubReplies : Bool) (ac : ValkeyAsyncContext Fn Data)
    (cb : Callback Fn Data) : Inherits ac (pushCallback toSubReplies ac cb) := by
  cases toSubReplies <;> exact .of_same rfl rfl rfl

theorem inherits_addChannels_sharded (names : List Bytes) (cb : Callback Fn Data)
    (ac : ValkeyAsyncContext Fn Data) : Inherits ac (addChannels .sharded cb ac names) := by
  induction names generalizing cb ac with
  | nil => exact .refl ac
  | cons name rest induction => exact (Inherits.replace_sharded name _).trans (induction _ _)

/-- A command either inherits every entry, or subscribes to channels or patterns. -/
theorem registerCommand_cases {ac registered : ValkeyAsyncContext Fn Data} {fn : Option Fn}
    {data : Data} {cmd : Bytes} {first : Argument} (found : nextArgument cmd = some first)
    (accepted : registerCommand ac fn data cmd first = some registered) :
    (Inherits ac registered ∧ ∀ variant names, subscribes cmd = some (variant, names) →
      variant = .sharded) ∨
    ∃ variant names, variant ≠ .sharded ∧ subscribes cmd = some (variant, names) ∧
      registered = addChannels variant (newCallback ac.submitted.length fn data)
        { ac with isSubscribed := true } names := by
  have subscribesTo : subscribes cmd = match commandKind first with
      | .subscribe => some (variantOf first.text, argumentsOf first.next)
      | _ => none := by rw [subscribes, found]
  rw [subscribesTo]
  cases booked_of_accepted accepted with
  | sharded kind variant =>
      rw [kind]
      left
      constructor
      · rw [variant]
        exact ((inherits_addChannels_sharded _ _ _).trans (inherits_pushCallback _ _ _)).from_same
          rfl rfl rfl
      · rintro _ _ ⟨⟩
        exact variant
  | subscribe kind variant =>
      rw [kind]
      exact .inr ⟨_, _, variant, rfl, rfl⟩
  | unsubscribe kind =>
      rw [kind]
      exact .inl ⟨inherits_sendUnsubscribes _ _ ac, fun _ _ impossible => nomatch impossible⟩
  | unsubscribeAll kind =>
      rw [kind]
      exact .inl ⟨inherits_unsubscribeAll _ ac, fun _ _ impossible => nomatch impossible⟩
  | monitor kind =>
      rw [kind]
      refine .inl ⟨?_, fun _ _ impossible => nomatch impossible⟩
      exact (inherits_pushCallback _ _ _).from_same rfl rfl rfl
  | regular kind =>
      rw [kind]
      exact .inl ⟨inherits_pushCallback _ ac _, fun _ _ impossible => nomatch impossible⟩

end Libvalkey
