import Libvalkey.Async.Context

/-! # Runs of an asynchronous context

What `async.c` does when an event arrives, when a callback returns and in its loops. -/

namespace Libvalkey

variable {Fn Data : Type}

/-! ## Replies -/

/-- `strncasecmp(left, right, count) == 0`, where a text ends at its NUL. -/
def strncasecmpEqual (left right : Bytes) (count : Nat) : Bool :=
  ((cString left ++ [0]).take count).map tolower == ((cString right ++ [0]).take count).map tolower

/-- `strcasecmp(left, right) == 0` -/
def strcasecmpEqual (left right : Bytes) : Bool :=
  (cString left).map tolower == (cString right).map tolower

def valkeyIsPushReply : ReplyTree → Bool
  | .aggregate .push _ => true
  | _ => false

/-- `reply->element`, which only aggregates have. -/
def ReplyTree.element : ReplyTree → List ReplyTree
  | .aggregate _ children => children
  | _ => []

def valkeyIsSubscribeReply (reply : ReplyTree) : Bool :=
  match reply.element with
  | .string str :: _ =>
      if str.length < 7 then false
      else
        let off := prefixLength str
        let text := str.drop off
        let len := str.length - off
        strncasecmpEqual text (ascii "subscribe") len ||
          strncasecmpEqual text (ascii "message") len ||
          strncasecmpEqual text (ascii "unsubscribe") len
  | _ => false

def valkeyIsSpontaneousPushReply (reply : ReplyTree) : Bool :=
  valkeyIsPushReply reply && !valkeyIsSubscribeReply reply

/-! ## Subscriptions -/

/-- Move the callbacks of regular commands when the subscribed mode ends. -/
def leaveSubscribed (ac : ValkeyAsyncContext Fn Data) : ValkeyAsyncContext Fn Data :=
  { ac with isSubscribed := false, replies := ac.replies ++ ac.subReplies, subReplies := [] }

/-- Nothing is subscribed to, and no reply that would be ignored is expected. -/
def nothingSubscribed (ac : ValkeyAsyncContext Fn Data) : Bool :=
  ac.channels.entries.isEmpty && ac.patterns.entries.isEmpty && ac.schannels.entries.isEmpty &&
    ac.pendingUnsubs == 0

/-- A reply to a subscription. -/
def confirmSubscribe (ac : ValkeyAsyncContext Fn Data) (variant : Variant) (name : Bytes)
    (cb : Callback Fn Data) : ValkeyAsyncContext Fn Data :=
  ac.replace variant name { cb with pendingSubs := cb.pendingSubs - 1, subscribed := true }

/-- An unsubscription: the reply is one to be ignored, or the entry goes. -/
def dropSubscription (ac : ValkeyAsyncContext Fn Data) (variant : Variant) :
    Option (Bytes × Callback Fn Data) → ValkeyAsyncContext Fn Data
  | none => { ac with pendingUnsubs := ac.pendingUnsubs - 1 }
  | some (name, cb) => if cb.pendingSubs = 0 then ac.delete variant name else ac

/-- A reply to an unsubscription, with the number of subscriptions that are left. -/
def confirmUnsubscribe (ac : ValkeyAsyncContext Fn Data) (variant : Variant)
    (found : Option (Bytes × Callback Fn Data)) (left : Int) : ValkeyAsyncContext Fn Data :=
  let ac := dropSubscription ac variant found
  if left = 0 ∧ nothingSubscribed ac then leaveSubscribed ac else ac

/-- The entry that a message names: its name and its callback. -/
def findSubscription (ac : ValkeyAsyncContext Fn Data) (variant : Variant) :
    ReplyTree → Option (Bytes × Callback Fn Data)
  | .string name => ((ac.dict variant).lookup name).map fun cb => (name, cb)
  | _ => none

/-- A message in the format of pushed messages. -/
def subscriptionMessage (ac : ValkeyAsyncContext Fn Data) (elements : List ReplyTree) :
    Except AsyncFault (Callback Fn Data × ValkeyAsyncContext Fn Data) :=
  match elements with
  | .string stype :: second :: rest =>
      let variant := variantOf stype
      let found := findSubscription ac variant second
      let dstcb := (found.map (·.2)).getD (.blank Fn Data)
      let text := stype.drop (prefixLength stype)
      if strcasecmpEqual text (ascii "subscribe") then
        match found with
        | none => .error .assertion
        | some (name, cb) => .ok (dstcb, confirmSubscribe ac variant name cb)
      else if strcasecmpEqual text (ascii "unsubscribe") then
        match rest with
        | .integer left :: _ => .ok (dstcb, confirmUnsubscribe ac variant found left)
        | _ :: _ => .error .assertion
        | [] => .error .outOfBounds
      else .ok (dstcb, ac)
  | .string _ :: [] | [] => .error .outOfBounds
  | _ :: _ => .error .assertion

/-- The first callback of `sub.replies`, if there is one. -/
def shiftSubReplies (ac : ValkeyAsyncContext Fn Data) :
    Callback Fn Data × ValkeyAsyncContext Fn Data :=
  match ac.subReplies with
  | [] => (.blank Fn Data, ac)
  | cb :: rest => (cb, { ac with subReplies := rest })

def valkeyGetSubscribeCallback (ac : ValkeyAsyncContext Fn Data) (reply : ReplyTree) :
    Except AsyncFault (Callback Fn Data × ValkeyAsyncContext Fn Data) :=
  match reply with
  | .aggregate .push elements => subscriptionMessage ac elements
  | .aggregate .array elements =>
      if ¬ac.supportsPush ∧ elements.length ≥ 3 then subscriptionMessage ac elements
      else .ok (shiftSubReplies ac)
  | _ => .ok (shiftSubReplies ac)

/-! ## Callbacks -/

/-- Note that a callback was run with a reply. -/
def ValkeyAsyncContext.serve (ac : ValkeyAsyncContext Fn Data) (cb : Callback Fn Data)
    (reply : Option ReplyTree) : ValkeyAsyncContext Fn Data :=
  { ac with served := ac.served ++ [⟨cb, reply⟩] }

/-- The function of the user runs now. -/
def ValkeyAsyncContext.enter (ac : ValkeyAsyncContext Fn Data) : ValkeyAsyncContext Fn Data :=
  { ac with inCallback := true }

/-- A sharded subscription failed. -/
def subscriptionFailed (ac : ValkeyAsyncContext Fn Data) :
    List Bytes → ValkeyAsyncContext Fn Data
  | [] => ac
  | name :: rest =>
      match (ac.dict .sharded).lookup name with
      | none => subscriptionFailed ac rest
      | some cb =>
          let cb := { cb with pendingSubs := cb.pendingSubs - 1 }
          if cb.pendingSubs = 0 ∧ ¬cb.subscribed then
            subscriptionFailed (ac.delete .sharded name) rest
          else subscriptionFailed (ac.replace .sharded name cb) rest

/-- A sharded subscription succeeded. -/
def assignCallback (fn : Option Fn) (ac : ValkeyAsyncContext Fn Data) :
    List Bytes → ValkeyAsyncContext Fn Data
  | [] => ac
  | name :: rest =>
      match (ac.dict .sharded).lookup name with
      | none => assignCallback fn ac rest
      | some cb =>
          assignCallback fn
            (ac.replace .sharded name { cb with subscribed := true, fn := fn.map .user }) rest

/-- The channels of a subscribe command. -/
def SsubscribeCallbackData.channels (data : SsubscribeCallbackData Fn Data) : List Bytes :=
  match nextArgument data.command with
  | none => []
  | some first => argumentsOf first.next

/-- The callback of the user that a failed sharded subscription calls. -/
def SsubscribeCallbackData.callback (data : SsubscribeCallbackData Fn Data) (fn : Fn)
    (number : Option Nat) : Callback Fn Data :=
  { Callback.blank Fn Data with
    fn := some (.user fn), privdata := .user data.userPrivData, number := number }

/-- The part of `valkeySsubscribeCallback` that marks its channels when the reply says
that the subscription succeeded. -/
def markSubscribed (ac : ValkeyAsyncContext Fn Data) (data : SsubscribeCallbackData Fn Data)
    (reply : ReplyTree) : Except AsyncFault (ValkeyAsyncContext Fn Data) :=
  match reply with
  | .aggregate .array elements | .aggregate .push elements =>
      match elements with
      | .string text :: _ | .status text :: _ | .error text :: _ | .bignum text :: _
      | .verb _ text :: _ | .double text :: _ =>
          if startsIgnoringCase (ascii "ssubscribe") text then
            .ok (assignCallback data.userCallback ac data.channels)
          else .ok ac
      | [] => .error .outOfBounds
      | _ :: _ => .error .nullCall
  | _ => .ok ac

/-- `valkeyRunCallback`, and whether a function of the user runs now. A sharded
subscription looks for a second callback: one of `sub.replies`, or of a channel. -/
def valkeyRunCallback : Nat → ValkeyAsyncContext Fn Data → Callback Fn Data → Option ReplyTree →
    Except AsyncFault (Bool × ValkeyAsyncContext Fn Data)
  | fuel, ac, cb, reply =>
      let ac := ac.serve cb reply
      match cb.fn with
      | none => .ok (false, ac)
      | some (.user _) => .ok (true, ac.enter)
      | some .ssubscribe =>
          match cb.privdata, reply with
          | .ssubscribe data, some (.error str) =>
              match data.userCallback with
              | none => .error .nullCall
              | some fn =>
                  let ac := subscriptionFailed ac data.channels
                  .ok (true, (ac.serve (data.callback fn cb.number) (some (.error str))).enter)
          | .ssubscribe data, some reply => do
              let ac ← markSubscribed ac data reply
              let (subCb, ac) ← valkeyGetSubscribeCallback ac reply
              match fuel with
              | 0 => .error .assertion
              | fuel + 1 => valkeyRunCallback fuel ac subCb (some reply)
          | _, _ => .error .assertion

/-- Every callback that is looked for leaves fewer of them. -/
def runCallback (ac : ValkeyAsyncContext Fn Data) (cb : Callback Fn Data)
    (reply : Option ReplyTree) : Except AsyncFault (Bool × ValkeyAsyncContext Fn Data) :=
  valkeyRunCallback (ac.subReplies.length + 1) ac cb reply

/-! ## Disconnecting -/

section Disconnecting

variable (order : IterationOrder)

/-- `valkeyAsyncFreeInternal`, up to its first loop. -/
def valkeyAsyncFreeInternal (ac : ValkeyAsyncContext Fn Data) : AsyncState Fn Data :=
  (.freeing (order.order (Dictionary.values ac.channels) ++
      order.order (Dictionary.values ac.patterns) ++
      order.order (Dictionary.values ac.schannels)), ac)

/-- `valkeyAsyncFree`. A callback has to return before the context can be freed. -/
def valkeyAsyncFree (label : AsyncLabel Fn Data) (ac : ValkeyAsyncContext Fn Data) :
    AsyncState Fn Data :=
  let ac := { ac with freeing := true }
  if ac.inCallback then (label, ac) else valkeyAsyncFreeInternal order ac

def valkeyAsyncDisconnectInternal (ac : ValkeyAsyncContext Fn Data) :
    Except AsyncFault (AsyncState Fn Data) :=
  let ac := { ac with err := ac.cErr }
  if ac.err = none ∧ ac.replies ≠ [] then .error .assertion
  else
    let ac := if ac.err = none then ac else { ac with disconnecting := true }
    if ac.noAutoFree then .ok (.idle, ac) else .ok (valkeyAsyncFreeInternal order ac)

/-- `valkeyAsyncDisconnect`. While callbacks are pending the connection stays. -/
def valkeyAsyncDisconnect (label : AsyncLabel Fn Data) (ac : ValkeyAsyncContext Fn Data) :
    Except AsyncFault (AsyncState Fn Data) :=
  let ac := { ac with disconnecting := true, noAutoFree := false }
  if ¬ac.inCallback ∧ ac.replies = [] then valkeyAsyncDisconnectInternal order ac
  else .ok (label, ac)

end Disconnecting

/-! ## Processing replies -/

section Processing

variable (order : IterationOrder)

/-- In monitor mode the callback waits again. -/
def repush (cb : Callback Fn Data) (ac : ValkeyAsyncContext Fn Data) : ValkeyAsyncContext Fn Data :=
  if ac.monitoring then pushCallback false ac cb else ac

/-- What follows a callback that had a function. -/
def afterReply (cb : Callback Fn Data) (ac : ValkeyAsyncContext Fn Data) : AsyncState Fn Data :=
  if ac.freeing then valkeyAsyncFreeInternal order ac else (.processing, repush cb ac)

/-- Give a reply to a callback. -/
def deliverReply (ac : ValkeyAsyncContext Fn Data) (cb : Callback Fn Data) (reply : ReplyTree) :
    Except AsyncFault (AsyncState Fn Data) :=
  if cb.fn.isNone then .ok (.processing, repush cb (ac.serve cb (some reply)))
  else do
    let (entered, ac) ← runCallback ac cb (some reply)
    if entered then .ok (.callback (.reply cb), ac) else .ok (afterReply order cb ac)

/-- A reply that no regular callback waits for. -/
def unexpectedReply (ac : ValkeyAsyncContext Fn Data) (reply : ReplyTree) :
    Except AsyncFault (AsyncState Fn Data) :=
  match reply with
  | .error str =>
      match ac.subReplies with
      | cb :: rest =>
          if ac.isSubscribed ∧
              ((ascii "MOVED").isPrefixOf str ∨ (ascii "CROSSSLOT").isPrefixOf str) then
            deliverReply order { ac with subReplies := rest } cb reply
          else valkeyAsyncDisconnectInternal order { ac with cErr := some ⟨.other, str⟩ }
      | [] => valkeyAsyncDisconnectInternal order { ac with cErr := some ⟨.other, str⟩ }
  | reply => do
      if ¬ac.isSubscribed then .error .assertion
      let (cb, ac) ← valkeyGetSubscribeCallback ac reply
      deliverReply order ac cb reply

/-- A reply was taken from the reader: any data from the server means it's alive. -/
def receiveReply (ac : ValkeyAsyncContext Fn Data) (reply : ReplyTree) (rest : List ReplyTree) :
    ValkeyAsyncContext Fn Data :=
  { ac with
    reader := rest
    processed := ac.processed ++ [reply]
    supportsPush := ac.supportsPush || valkeyIsPushReply reply
    timeoutReplyCount := ac.timeoutReplyCount.map (· + 1) }

/-- The body of the loop of `valkeyProcessCallbacks`, for one reply. -/
def processReply (ac : ValkeyAsyncContext Fn Data) (reply : ReplyTree) :
    Except AsyncFault (AsyncState Fn Data) :=
  if valkeyIsSpontaneousPushReply reply then
    if ac.pushCb then .ok (.callback .push, ac.enter) else .ok (.processing, ac)
  else
    match ac.replies with
    | cb :: rest => deliverReply order { ac with replies := rest } cb reply
    | [] => unexpectedReply order ac reply

/-- `valkeyProcessCallbacks`, one turn of its loop. -/
def valkeyProcessCallbacks (ac : ValkeyAsyncContext Fn Data) :
    Except AsyncFault (AsyncState Fn Data) :=
  match ac.reader with
  | reply :: rest => processReply order (receiveReply ac reply rest) reply
  | [] =>
      match ac.readerErr with
      | some err => valkeyAsyncDisconnectInternal order { ac with cErr := some err }
      | none =>
          if ac.disconnecting ∧ ac.obuf = [] ∧ ac.replies = [] then
            valkeyAsyncDisconnectInternal order ac
          else .ok (.idle, ac)

end Processing

/-! ## Events -/

section Events

variable (order : IterationOrder)

/-- `valkeyAsyncRead` -/
def valkeyAsyncRead (ac : ValkeyAsyncContext Fn Data) (input : Input) :
    Except AsyncFault (AsyncState Fn Data) :=
  match input with
  | .failed err =>
      valkeyAsyncDisconnectInternal order { ac with cErr := some (ac.cErr.getD err) }
  | .replies replies failure =>
      if ac.cErr.isSome then valkeyAsyncDisconnectInternal order ac
      else
        let ac := { ac with reader := ac.reader ++ replies, readerErr := failure }
        .ok (.processing, ac.refreshTimeout)

/-- `valkeyAsyncWrite` -/
def valkeyAsyncWrite (ac : ValkeyAsyncContext Fn Data) (output : Output) :
    Except AsyncFault (AsyncState Fn Data) :=
  match output with
  | .failed err =>
      valkeyAsyncDisconnectInternal order { ac with cErr := some (ac.cErr.getD err) }
  | .written count =>
      if ac.cErr.isSome then valkeyAsyncDisconnectInternal order ac
      else
        let ac := { ac with obuf := ac.obuf.drop count }
        .ok (.idle, ac.refreshTimeout)

def transfer (ac : ValkeyAsyncContext Fn Data) : Transfer → Except AsyncFault (AsyncState Fn Data)
  | .read input => valkeyAsyncRead order ac input
  | .write output => valkeyAsyncWrite order ac output

/-- What follows the callback of a connection that was established. -/
def afterConnect (ac : ValkeyAsyncContext Fn Data) (next : Transfer) :
    Except AsyncFault (AsyncState Fn Data) :=
  if ac.disconnecting then valkeyAsyncDisconnect order .idle ac
  else if ac.freeing then .ok (valkeyAsyncFree order .idle ac)
  else transfer order ac next

/-- `valkeyAsyncHandleConnect`, and the read or write that comes after it. -/
def valkeyAsyncHandleConnect (ac : ValkeyAsyncContext Fn Data) (outcome : ConnectOutcome)
    (next : Transfer) : Except AsyncFault (AsyncState Fn Data) :=
  let failure (ac : ValkeyAsyncContext Fn Data) : Except AsyncFault (AsyncState Fn Data) :=
    if ac.onConnect then .ok (.callback .connectFailed, ac.enter)
    else valkeyAsyncDisconnectInternal order ac
  match outcome with
  | .pending => .ok (.idle, ac)
  | .failed err => failure { ac with cErr := some err, err := some err }
  | .noDelay err => failure { ac with cErr := some err }
  | .done =>
      let ac := { ac with connected := true }
      if ac.onConnect then .ok (.callback (.connected next), ac.enter)
      else afterConnect order ac next

/-- `valkeyAsyncHandleRead` and `valkeyAsyncHandleWrite` -/
def valkeyAsyncHandle (ac : ValkeyAsyncContext Fn Data) (outcome : ConnectOutcome)
    (next : Transfer) : Except AsyncFault (AsyncState Fn Data) :=
  if ac.connected then transfer order ac next else valkeyAsyncHandleConnect order ac outcome next

/-- An error that the context has already is kept. -/
def setTimeoutError (ac : ValkeyAsyncContext Fn Data) : ValkeyAsyncContext Fn Data :=
  let timeout : ContextError := ⟨.timeout, ascii "Timeout"⟩
  if ac.cErr.isSome then ac else { ac with cErr := some timeout, err := some timeout }

/-- `valkeyAsyncHandleTimeout`, up to its loop. -/
def valkeyAsyncHandleTimeout (ac : ValkeyAsyncContext Fn Data) : AsyncState Fn Data :=
  if ac.connected ∧ ac.replies = [] ∧ ac.subReplies = [] then
    (.idle, { ac with timeoutReplyCount := none })
  else if ac.connected ∧ ¬ac.commandTimeout then (.idle, ac)
  else if ac.connected ∧ ac.timeoutReplyCount.getD 0 > 0 then
    (.idle, { ac with timeoutReplyCount := none }.refreshTimeout)
  else
    let ac := setTimeoutError ac
    if ¬ac.connected ∧ ac.onConnect then (.callback .connectTimeout, ac.enter) else (.timeout, ac)

/-- The loop of `valkeyAsyncHandleTimeout`. -/
def timeoutReplies (ac : ValkeyAsyncContext Fn Data) : Except AsyncFault (AsyncState Fn Data) :=
  match ac.replies with
  | [] => valkeyAsyncDisconnectInternal order ac
  | cb :: rest => do
      let (entered, ac) ← runCallback { ac with replies := rest } cb none
      .ok (if entered then .callback .timeout else .timeout, ac)

/-- The loops of `valkeyAsyncFreeInternal`, and what follows them. -/
def freeCallbacks (ac : ValkeyAsyncContext Fn Data) (subscriptions : List (Callback Fn Data)) :
    Except AsyncFault (AsyncState Fn Data) :=
  let run (ac : ValkeyAsyncContext Fn Data) (cb : Callback Fn Data)
      (subscriptions : List (Callback Fn Data)) : Except AsyncFault (AsyncState Fn Data) := do
    let (entered, ac) ← runCallback ac cb none
    .ok (if entered then .callback (.freeing subscriptions) else .freeing subscriptions, ac)
  match ac.replies, ac.subReplies, subscriptions with
  | cb :: rest, _, _ => run { ac with replies := rest } cb subscriptions
  | [], cb :: rest, _ => run { ac with subReplies := rest } cb subscriptions
  | [], [], cb :: rest => run ac cb rest
  | [], [], [] =>
      if ac.connected ∧ ac.onDisconnect then .ok (.callback .disconnected, ac.enter)
      else .ok (.gone, ac)

/-- The callback of the user has returned. -/
def afterCallback (ac : ValkeyAsyncContext Fn Data) :
    Resume Fn Data → Except AsyncFault (AsyncState Fn Data)
  | .connected next => afterConnect order ac next
  | .connectFailed => valkeyAsyncDisconnectInternal order ac
  | .connectTimeout | .timeout => .ok (.timeout, ac)
  | .push => .ok (.processing, ac)
  | .reply cb => .ok (afterReply order cb ac)
  | .freeing subscriptions => .ok (.freeing subscriptions, ac)
  | .disconnected => .ok (.gone, ac)

/-- What the user does, what the event library reports, and a step of the library. -/
inductive AsyncEvent (Fn Data : Type)
  | command (fn : Option Fn) (data : Data) (cmd : Bytes)
  | disconnect
  | free
  | readable (outcome : ConnectOutcome) (input : Input)
  | writable (outcome : ConnectOutcome) (output : Output)
  | timer
  | proceed

/-- One event. The user can do something before an event and in a callback. An event that
can not happen now is ignored. -/
def asyncStep (state : AsyncState Fn Data) (event : AsyncEvent Fn Data) :
    Except AsyncFault (AsyncState Fn Data) :=
  let (label, ac) := state
  match label, event with
  | .idle, .command fn data cmd | .callback _, .command fn data cmd =>
      .ok (label, (valkeyAsyncAppendCmdLen ac fn data cmd).2)
  | .idle, .disconnect | .callback _, .disconnect => valkeyAsyncDisconnect order label ac
  | .idle, .free | .callback _, .free => .ok (valkeyAsyncFree order label ac)
  | .idle, .readable outcome input => valkeyAsyncHandle order ac outcome (.read input)
  | .idle, .writable outcome output => valkeyAsyncHandle order ac outcome (.write output)
  | .idle, .timer => .ok (valkeyAsyncHandleTimeout ac)
  | .callback resume, .proceed => afterCallback order { ac with inCallback := false } resume
  | .processing, .proceed => valkeyProcessCallbacks order ac
  | .timeout, .proceed => timeoutReplies order ac
  | .freeing subscriptions, .proceed => freeCallbacks ac subscriptions
  | _, _ => .ok state

def asyncRun : AsyncState Fn Data → List (AsyncEvent Fn Data) →
    Except AsyncFault (AsyncState Fn Data)
  | state, [] => .ok state
  | state, event :: events => do
      let next ← asyncStep order state event
      asyncRun next events

/-- Something holds of every event of a run and of the state that it meets. -/
def EveryStep (holds : AsyncState Fn Data → AsyncEvent Fn Data → Prop) :
    AsyncState Fn Data → List (AsyncEvent Fn Data) → Prop
  | _, [] => True
  | state, event :: events =>
      holds state event ∧ ∀ next, asyncStep order state event = .ok next →
        EveryStep holds next events

instance decidableEveryStep {holds : AsyncState Fn Data → AsyncEvent Fn Data → Prop}
    [∀ state event, Decidable (holds state event)] :
    ∀ start events, Decidable (EveryStep order holds start events)
  | _, [] => .isTrue trivial
  | start, event :: events =>
      match step : asyncStep order start event with
      | .error fault =>
          decidable_of_iff (holds start event) <| by
            simp [EveryStep, step]
      | .ok next =>
          have : Decidable (EveryStep order holds next events) := decidableEveryStep next events
          decidable_of_iff (holds start event ∧ EveryStep order holds next events) <| by
            simp [EveryStep, step]

/-- What every step preserves under a condition, and what it shows, holds along a run. -/
theorem EveryStep.invariant {invariant : AsyncState Fn Data → Prop}
    {condition goal : AsyncState Fn Data → AsyncEvent Fn Data → Prop}
    (shows : ∀ state event, invariant state → condition state event → goal state event)
    (preserves : ∀ state event next, invariant state → condition state event →
      asyncStep order state event = .ok next → invariant next)
    {start : AsyncState Fn Data} (events : List (AsyncEvent Fn Data)) (initial : invariant start)
    (holds : EveryStep order condition start events) :
    EveryStep order goal start events ∧
      ∀ final, asyncRun order start events = .ok final → invariant final := by
  induction events generalizing start with
  | nil =>
      refine ⟨trivial, fun final run => ?_⟩
      cases run
      exact initial
  | cons event events induction =>
      obtain ⟨now, later⟩ := holds
      have continues (next : AsyncState Fn Data) (step : asyncStep order start event = .ok next) :=
        induction (preserves start event next initial now step) (later next step)
      refine ⟨⟨shows start event initial now, fun next step => (continues next step).1⟩,
        fun final run => ?_⟩
      unfold asyncRun at run
      cases step : asyncStep order start event with
      | error fault =>
          rw [step] at run
          cases run
      | ok next =>
          rw [step] at run
          exact (continues next step).2 final run

end Events

/-- The user can call a function now, and a command would not be refused. -/
def AcceptsCommands : AsyncState Fn Data → Prop
  | (.idle, ac) | (.callback _, ac) => ac.disconnecting = false ∧ ac.freeing = false
  | _ => False

/-- The library waits for an event. -/
def AsyncLabel.isIdle : AsyncLabel Fn Data → Bool
  | .idle => true
  | _ => false

theorem AsyncLabel.eq_idle {label : AsyncLabel Fn Data} (idle : label.isIdle = true) :
    label = .idle := by
  cases label with
  | idle => rfl
  | _ => cases idle

/-! ## The start -/

/-- What a context is configured with, and the error that it could not even start to
connect with. -/
structure AsyncOptions where
  noAutoFree : Bool
  hasTimer : Bool
  commandTimeout : Bool
  pushCb : Bool
  onConnect : Bool
  onDisconnect : Bool
  failure : Option ContextError

/-- No option is set, and nothing has failed. -/
def defaultOptions : AsyncOptions where
  noAutoFree := false
  hasTimer := false
  commandTimeout := false
  pushCb := false
  onConnect := false
  onDisconnect := false
  failure := none

/-- `valkeyAsyncInitialize` -/
def valkeyAsyncInitialize (Fn Data : Type) (options : AsyncOptions) :
    ValkeyAsyncContext Fn Data where
  connected := false
  disconnecting := false
  freeing := false
  inCallback := false
  isSubscribed := false
  monitoring := false
  supportsPush := false
  noAutoFree := options.noAutoFree
  cErr := options.failure
  err := options.failure
  obuf := []
  reader := []
  readerErr := none
  replies := []
  subReplies := []
  channels := ∅
  patterns := ∅
  schannels := ∅
  pendingUnsubs := 0
  timeoutReplyCount := none
  hasTimer := options.hasTimer
  commandTimeout := options.commandTimeout
  pushCb := options.pushCb
  onConnect := options.onConnect
  onDisconnect := options.onDisconnect
  submitted := []
  served := []
  processed := []

end Libvalkey
