import Libvalkey.Async.Commands
import Libvalkey.Cluster.Client
import Libvalkey.Foundation.Dictionary

/-! # Asynchronous contexts

`async.c` as a machine. Between two of its steps either nothing of the library is
running, or a callback of the user is, or the library is at a point of one of its
loops. Allocations succeed. -/

namespace Libvalkey

/-! ## Callbacks -/

/-- `ssubscribeCallbackData` -/
structure SsubscribeCallbackData (Fn Data : Type) where
  command : Bytes
  userCallback : Option Fn
  userPrivData : Data
  deriving DecidableEq

/-- A function of the user, or `valkeySsubscribeCallback`. -/
inductive CallbackFn (Fn : Type)
  | user (fn : Fn)
  | ssubscribe
  deriving DecidableEq

/-- `privdata`: `NULL`, what the user gave, or the data of a sharded subscription. -/
inductive Privdata (Fn Data : Type)
  | null
  | user (data : Data)
  | ssubscribe (data : SsubscribeCallbackData Fn Data)
  deriving DecidableEq

/-- `valkeyCallback`, with the number of the command that it was made for. -/
structure Callback (Fn Data : Type) where
  fn : Option (CallbackFn Fn)
  privdata : Privdata Fn Data
  pendingSubs : Int
  unsubscribeSent : Bool
  subscribed : Bool
  number : Option Nat
  deriving DecidableEq

/-- A callback that is all zeros. -/
def Callback.blank (Fn Data : Type) : Callback Fn Data where
  fn := none
  privdata := .null
  pendingSubs := 0
  unsubscribeSent := false
  subscribed := false
  number := none

/-- A command that was accepted. -/
structure Submission (Fn Data : Type) where
  fn : Option Fn
  data : Data
  cmd : Bytes
  deriving DecidableEq

/-- A callback that was run, with its reply or `NULL`. -/
structure Served (Fn Data : Type) where
  callback : Callback Fn Data
  reply : Option ReplyTree

abbrev CallbackDict (Fn Data : Type) : Type := AList fun _ : Bytes => Callback Fn Data

/-! ## The context -/

/-- `valkeyAsyncContext`. `cErr` is the error of the `valkeyContext` and `err` its copy.
`reader` are the replies that the reader has completed, and `readerErr` is the error that
it meets after them. `submitted` lists the commands that were accepted, `served` the
callbacks that were run and `processed` the replies that were taken from the reader. -/
structure ValkeyAsyncContext (Fn Data : Type) where
  connected : Bool
  disconnecting : Bool
  freeing : Bool
  inCallback : Bool
  isSubscribed : Bool
  monitoring : Bool
  supportsPush : Bool
  noAutoFree : Bool
  cErr : Option ContextError
  err : Option ContextError
  obuf : Bytes
  reader : List ReplyTree
  readerErr : Option ContextError
  replies : List (Callback Fn Data)
  subReplies : List (Callback Fn Data)
  channels : CallbackDict Fn Data
  patterns : CallbackDict Fn Data
  schannels : CallbackDict Fn Data
  pendingUnsubs : Int
  timeoutReplyCount : Option Nat
  hasTimer : Bool
  commandTimeout : Bool
  pushCb : Bool
  onConnect : Bool
  onDisconnect : Bool
  submitted : List (Submission Fn Data)
  served : List (Served Fn Data)
  processed : List ReplyTree

/-- A failed assertion, an access outside an array, or a call of `NULL`. -/
inductive AsyncFault
  | assertion
  | outOfBounds
  | nullCall
  deriving DecidableEq, Repr

/-- What the socket does when it becomes readable. -/
inductive Input
  | replies (replies : List ReplyTree) (failure : Option ContextError)
  | failed (err : ContextError)

/-- What the socket does when it becomes writable. -/
inductive Output
  | written (count : Nat)
  | failed (err : ContextError)

inductive Transfer
  | read (input : Input)
  | write (output : Output)

/-- The progress of a connection that is not established yet. The error of
`valkeySetTcpNoDelay` is not copied. -/
inductive ConnectOutcome
  | pending
  | done
  | failed (err : ContextError)
  | noDelay (err : ContextError)

/-- Where the library goes on after a callback. -/
inductive Resume (Fn Data : Type)
  | connected (transfer : Transfer)
  | connectFailed
  | connectTimeout
  | push
  | reply (callback : Callback Fn Data)
  | timeout
  | freeing (subscriptions : List (Callback Fn Data))
  | disconnected

/-- Where the library is: it waits for an event, or for a callback to return, or it is in
the loop of `valkeyProcessCallbacks`, `valkeyAsyncHandleTimeout` or
`valkeyAsyncFreeInternal`. The last one holds the callbacks of the subscriptions. -/
inductive AsyncLabel (Fn Data : Type)
  | idle
  | callback (resume : Resume Fn Data)
  | processing
  | timeout
  | freeing (subscriptions : List (Callback Fn Data))
  | gone

abbrev AsyncState (Fn Data : Type) : Type := AsyncLabel Fn Data × ValkeyAsyncContext Fn Data

variable {Fn Data : Type}

namespace ValkeyAsyncContext

/-- The dictionary of a variant. -/
def dict (ac : ValkeyAsyncContext Fn Data) : Variant → CallbackDict Fn Data
  | .channel => ac.channels
  | .pattern => ac.patterns
  | .sharded => ac.schannels

def setDict (ac : ValkeyAsyncContext Fn Data) (variant : Variant) (dict : CallbackDict Fn Data) :
    ValkeyAsyncContext Fn Data :=
  match variant with
  | .channel => { ac with channels := dict }
  | .pattern => { ac with patterns := dict }
  | .sharded => { ac with schannels := dict }

/-- `dictReplace` -/
def replace (ac : ValkeyAsyncContext Fn Data) (variant : Variant) (name : Bytes)
    (callback : Callback Fn Data) : ValkeyAsyncContext Fn Data :=
  ac.setDict variant ((ac.dict variant).insert name callback)

/-- `dictDelete` -/
def delete (ac : ValkeyAsyncContext Fn Data) (variant : Variant) (name : Bytes) :
    ValkeyAsyncContext Fn Data :=
  ac.setDict variant ((ac.dict variant).erase name)

/-- `refreshTimeout`, for a connection that is established. -/
def refreshTimeout (ac : ValkeyAsyncContext Fn Data) : ValkeyAsyncContext Fn Data :=
  if ac.connected ∧ ac.timeoutReplyCount = none ∧ ac.hasTimer ∧ ac.commandTimeout then
    { ac with timeoutReplyCount := some 0 }
  else ac

/-- Only the counter of the timer changes. -/
theorem refreshTimeout_eq (ac : ValkeyAsyncContext Fn Data) :
    ∃ count, ac.refreshTimeout = { ac with timeoutReplyCount := count } := by
  unfold refreshTimeout
  split
  · exact ⟨some 0, rfl⟩
  · exact ⟨ac.timeoutReplyCount, rfl⟩

theorem dict_setDict (ac : ValkeyAsyncContext Fn Data) (variant other : Variant)
    (dict : CallbackDict Fn Data) :
    (ac.setDict variant dict).dict other = if other = variant then dict else ac.dict other := by
  cases variant <;> cases other <;> rfl

theorem lookup_replace (ac : ValkeyAsyncContext Fn Data) (variant other : Variant)
    (name key : Bytes) (callback : Callback Fn Data) :
    ((ac.replace variant name callback).dict other).lookup key =
      if other = variant ∧ key = name then some callback else (ac.dict other).lookup key := by
  rw [replace, dict_setDict]
  by_cases sameVariant : other = variant
  · subst sameVariant
    by_cases sameName : key = name
    · subst sameName
      simp
    · simp [sameName]
  · simp [sameVariant]

theorem lookup_delete (ac : ValkeyAsyncContext Fn Data) (variant other : Variant)
    (name key : Bytes) :
    ((ac.delete variant name).dict other).lookup key =
      if other = variant ∧ key = name then none else (ac.dict other).lookup key := by
  rw [delete, dict_setDict]
  by_cases sameVariant : other = variant
  · subst sameVariant
    by_cases sameName : key = name
    · subst sameName
      simp
    · simp [sameName, AList.lookup_erase_ne]
  · simp [sameVariant]

end ValkeyAsyncContext

/-! ## Commands -/

section Commands

/-- The record that the loop over the channels starts with. -/
def newCallback (number : Nat) (fn : Option Fn) (data : Data) : Callback Fn Data where
  fn := fn.map .user
  privdata := .user data
  pendingSubs := 1
  unsubscribeSent := false
  subscribed := false
  number := some number

/-- The record for one channel: parts of it come from the entry that exists. -/
def mergeCallback (variant : Variant) (cb : Callback Fn Data)
    (existing : Option (Callback Fn Data)) : Callback Fn Data :=
  let cb := if variant = .sharded then { cb with fn := none } else cb
  match existing with
  | none => cb
  | some existcb =>
      { cb with
        pendingSubs := existcb.pendingSubs + 1
        subscribed := existcb.subscribed
        fn := existcb.fn }

/-- Add every channel or pattern to the subscription callbacks. One record is used for all
of them. -/
def addChannels (variant : Variant) (cb : Callback Fn Data) (ac : ValkeyAsyncContext Fn Data) :
    List Bytes → ValkeyAsyncContext Fn Data
  | [] => ac
  | name :: rest =>
      let cb := mergeCallback variant cb ((ac.dict variant).lookup name)
      addChannels variant cb (ac.replace variant name cb) rest

/-- The callback that waits for the first reply to a sharded subscription. -/
def ssubscribeCallback (number : Nat) (fn : Option Fn) (data : Data) (cmd : Bytes) :
    Callback Fn Data where
  fn := some .ssubscribe
  privdata := .ssubscribe { command := cmd, userCallback := fn, userPrivData := data }
  pendingSubs := 1
  unsubscribeSent := false
  subscribed := true
  number := some number

/-- The replies to be ignored of an unsubscribe command with channels. -/
def sendUnsubscribes (variant : Variant) (ac : ValkeyAsyncContext Fn Data) :
    List Bytes → ValkeyAsyncContext Fn Data
  | [] => ac
  | name :: rest =>
      match (ac.dict variant).lookup name with
      | some existcb =>
          if existcb.unsubscribeSent then
            sendUnsubscribes variant { ac with pendingUnsubs := ac.pendingUnsubs + 1 } rest
          else
            sendUnsubscribes variant
              (ac.replace variant name { existcb with unsubscribeSent := true })
              rest
      | none => sendUnsubscribes variant { ac with pendingUnsubs := ac.pendingUnsubs + 1 } rest

/-- The replies to be ignored of an unsubscribe command without channels: one, if there is
nothing to unsubscribe from. -/
def unsubscribeAll (variant : Variant) (ac : ValkeyAsyncContext Fn Data) :
    ValkeyAsyncContext Fn Data :=
  let marked := ac.setDict variant
    (Dictionary.mapValues (fun cb => { cb with unsubscribeSent := true }) (ac.dict variant))
  if (Dictionary.values (ac.dict variant)).all (·.unsubscribeSent) then
    { marked with pendingUnsubs := ac.pendingUnsubs + 1 }
  else marked

/-- What a subscription changes has no part in the field: not the callbacks of the channels, not
the number of replies to be ignored. -/
structure BesideChannels {α : Type} (field : ValkeyAsyncContext Fn Data → α) : Prop where
  setDict : ∀ ac variant dict, field (ac.setDict variant dict) = field ac
  pendingUnsubs : ∀ ac count, field { ac with pendingUnsubs := count } = field ac

section BesideChannels

variable {α : Type} {field : ValkeyAsyncContext Fn Data → α} (beside : BesideChannels field)
  (variant : Variant)

include beside

theorem BesideChannels.addChannels (names : List Bytes) (cb : Callback Fn Data)
    (ac : ValkeyAsyncContext Fn Data) : field (addChannels variant cb ac names) = field ac := by
  induction names generalizing cb ac with
  | nil => rfl
  | cons name rest induction => exact (induction _ _).trans (beside.setDict ac variant _)

theorem BesideChannels.sendUnsubscribes (names : List Bytes) (ac : ValkeyAsyncContext Fn Data) :
    field (sendUnsubscribes variant ac names) = field ac := by
  induction names generalizing ac with
  | nil => rfl
  | cons name rest induction =>
      have ignored := (induction { ac with pendingUnsubs := ac.pendingUnsubs + 1 }).trans
        (beside.pendingUnsubs ac _)
      unfold Libvalkey.sendUnsubscribes
      split
      · split
        · exact ignored
        · exact (induction _).trans (beside.setDict ac variant _)
      · exact ignored

theorem BesideChannels.unsubscribeAll (ac : ValkeyAsyncContext Fn Data) :
    field (unsubscribeAll variant ac) = field ac := by
  unfold Libvalkey.unsubscribeAll
  dsimp only
  split
  · exact (beside.pendingUnsubs _ _).trans (beside.setDict ac variant _)
  · exact beside.setDict ac variant _

end BesideChannels

/-- `valkeyPushCallback` -/
def pushCallback (toSubReplies : Bool) (ac : ValkeyAsyncContext Fn Data) (cb : Callback Fn Data) :
    ValkeyAsyncContext Fn Data :=
  if toSubReplies then { ac with subReplies := ac.subReplies ++ [cb] }
  else { ac with replies := ac.replies ++ [cb] }

/-- The bookkeeping for one command, or `none` for one that is not accepted. -/
def registerCommand (ac : ValkeyAsyncContext Fn Data) (fn : Option Fn) (data : Data) (cmd : Bytes)
    (first : Argument) : Option (ValkeyAsyncContext Fn Data) :=
  let variant := variantOf first.text
  let cb := newCallback ac.submitted.length fn data
  match commandKind first with
  | .subscribe =>
      let was := ac.isSubscribed
      let ac := addChannels variant cb { ac with isSubscribed := true } (argumentsOf first.next)
      if variant = .sharded then
        some (pushCallback was ac (ssubscribeCallback ac.submitted.length fn data cmd))
      else some ac
  | .unsubscribe =>
      if ¬ac.isSubscribed then none
      else if first.hasNext then some (sendUnsubscribes variant ac (argumentsOf first.next))
      else some (unsubscribeAll variant ac)
  | .monitor => some (pushCallback false { ac with monitoring := true } cb)
  | .regular => some (pushCallback ac.isSubscribed ac cb)

/-- What the bookkeeping for an accepted command makes of the context. -/
inductive Booked (ac : ValkeyAsyncContext Fn Data) (fn : Option Fn) (data : Data) (cmd : Bytes)
    (first : Argument) : ValkeyAsyncContext Fn Data → Prop
  | sharded (kind : commandKind first = .subscribe) (variant : variantOf first.text = .sharded) :
      Booked ac fn data cmd first
        (pushCallback ac.isSubscribed
          (addChannels (variantOf first.text) (newCallback ac.submitted.length fn data)
            { ac with isSubscribed := true } (argumentsOf first.next))
          (ssubscribeCallback
            (addChannels (variantOf first.text) (newCallback ac.submitted.length fn data)
              { ac with isSubscribed := true } (argumentsOf first.next)).submitted.length
            fn data cmd))
  | subscribe (kind : commandKind first = .subscribe) (variant : variantOf first.text ≠ .sharded) :
      Booked ac fn data cmd first
        (addChannels (variantOf first.text) (newCallback ac.submitted.length fn data)
          { ac with isSubscribed := true } (argumentsOf first.next))
  | unsubscribe (kind : commandKind first = .unsubscribe) :
      Booked ac fn data cmd first
        (sendUnsubscribes (variantOf first.text) ac (argumentsOf first.next))
  | unsubscribeAll (kind : commandKind first = .unsubscribe) :
      Booked ac fn data cmd first (unsubscribeAll (variantOf first.text) ac)
  | monitor (kind : commandKind first = .monitor) :
      Booked ac fn data cmd first
        (pushCallback false { ac with monitoring := true }
          (newCallback ac.submitted.length fn data))
  | regular (kind : commandKind first = .regular) :
      Booked ac fn data cmd first
        (pushCallback ac.isSubscribed ac (newCallback ac.submitted.length fn data))

theorem booked_of_accepted {ac registered : ValkeyAsyncContext Fn Data} {fn : Option Fn}
    {data : Data} {cmd : Bytes} {first : Argument}
    (accepted : registerCommand ac fn data cmd first = some registered) :
    Booked ac fn data cmd first registered := by
  unfold registerCommand at accepted
  dsimp only at accepted
  cases kind : commandKind first with
  | subscribe =>
      rw [kind] at accepted
      dsimp only at accepted
      by_cases variant : variantOf first.text = .sharded
      · rw [if_pos variant] at accepted
        obtain rfl := Option.some.inj accepted
        exact .sharded kind variant
      · rw [if_neg variant] at accepted
        obtain rfl := Option.some.inj accepted
        exact .subscribe kind variant
  | unsubscribe =>
      rw [kind] at accepted
      dsimp only at accepted
      split at accepted
      · cases accepted
      · split at accepted
        · obtain rfl := Option.some.inj accepted
          exact .unsubscribe kind
        · obtain rfl := Option.some.inj accepted
          exact .unsubscribeAll kind
  | monitor =>
      rw [kind] at accepted
      obtain rfl := Option.some.inj accepted
      exact .monitor kind
  | regular =>
      rw [kind] at accepted
      obtain rfl := Option.some.inj accepted
      exact .regular kind

/-- The command is put into the output buffer, and a write is scheduled. -/
def ValkeyAsyncContext.writeCommand (ac : ValkeyAsyncContext Fn Data)
    (submission : Submission Fn Data) : ValkeyAsyncContext Fn Data :=
  refreshTimeout
    { ac with
      obuf := ac.obuf ++ submission.cmd
      submitted := ac.submitted ++ [submission] }

theorem ValkeyAsyncContext.writeCommand_eq (ac : ValkeyAsyncContext Fn Data)
    (submission : Submission Fn Data) :
    ∃ count, ac.writeCommand submission = { ac with
      obuf := ac.obuf ++ submission.cmd
      submitted := ac.submitted ++ [submission]
      timeoutReplyCount := count } :=
  refreshTimeout_eq _

def valkeyAsyncAppendCmdLen (ac : ValkeyAsyncContext Fn Data) (fn : Option Fn) (data : Data)
    (cmd : Bytes) : Status × ValkeyAsyncContext Fn Data :=
  if ac.disconnecting ∨ ac.freeing then (.err, ac)
  else
    match nextArgument cmd with
    | none => (.err, ac)
    | some first =>
        match registerCommand ac fn data cmd first with
        | none => (.err, ac)
        | some ac => (.ok, ac.writeCommand ⟨fn, data, cmd⟩)

end Commands

end Libvalkey
