import Libvalkey.Async.Machine
import Libvalkey.Foundation.Checked
import Libvalkey.Cluster.NoDangling

/-! # Regular commands and their replies

On a context with regular commands only, the callbacks that were run and those that
wait are the callbacks of the accepted commands, in their order. -/

namespace Libvalkey

open Checked

variable {Fn Data : Type}

/-- The replies that were not pushed. -/
def inBand (replies : List ReplyTree) : List ReplyTree :=
  replies.filter fun reply => !valkeyIsPushReply reply

/-- The callback of every accepted command. -/
def acceptedCallbacks (submitted : List (Submission Fn Data)) : List (Callback Fn Data) :=
  submitted.mapIdx fun number submission => newCallback number submission.fn submission.data

/-- The accepted commands, the callbacks that were run, the replies that were processed or
wait in the reader, and the callbacks that wait. After the replies some callbacks may have
got `NULL`. -/
structure Ledger (submitted : List (Submission Fn Data)) (served : List (Served Fn Data))
    (processed reader : List ReplyTree) (replies : List (Callback Fn Data)) (nulls : Nat) :
    Prop where
  callbacks : served.map (·.callback) ++ replies = acceptedCallbacks submitted
  given : served.map (·.reply) = (inBand processed).map some ++ List.replicate nulls none
  answered : (inBand processed).length + (inBand reader).length ≤ submitted.length
  pushes : ∀ reply ∈ reader, valkeyIsPushReply reply = true → valkeyIsSubscribeReply reply = false

/-- Nothing has been subscribed to, and nothing is monitored. -/
def OnlyRegular (ac : ValkeyAsyncContext Fn Data) : Prop :=
  ac.isSubscribed = false ∧ ac.monitoring = false ∧ ac.subReplies = [] ∧ ac.channels.entries = [] ∧
    ac.patterns.entries = [] ∧ ac.schannels.entries = []

def Balanced (ac : ValkeyAsyncContext Fn Data) (nulls : Nat) : Prop :=
  Ledger ac.submitted ac.served ac.processed ac.reader ac.replies nulls ∧ OnlyRegular ac

/-! ## The ledger -/

section Ledger

variable {submitted : List (Submission Fn Data)} {served : List (Served Fn Data)}
  {processed reader : List ReplyTree} {replies : List (Callback Fn Data)} {nulls : Nat}

@[simp] theorem inBand_append (left right : List ReplyTree) :
    inBand (left ++ right) = inBand left ++ inBand right := List.filter_append left right

theorem inBand_push {reply : ReplyTree} (push : valkeyIsPushReply reply = true)
    (rest : List ReplyTree) : inBand (reply :: rest) = inBand rest := by
  simp [inBand, push]

theorem inBand_reply {reply : ReplyTree} (regular : valkeyIsPushReply reply = false)
    (rest : List ReplyTree) : inBand (reply :: rest) = reply :: inBand rest := by
  simp [inBand, regular]

theorem acceptedCallbacks_append (submission : Submission Fn Data) :
    acceptedCallbacks (submitted ++ [submission]) =
      acceptedCallbacks submitted ++
        [newCallback submitted.length submission.fn submission.data] := by
  simp [acceptedCallbacks]

namespace Ledger

/-- Every callback that was run, or waits, belongs to an accepted command. -/
theorem counted (ledger : Ledger submitted served processed reader replies nulls) :
    served.length + replies.length = submitted.length := by
  have lengths := congrArg List.length ledger.callbacks
  simpa [acceptedCallbacks] using lengths

theorem served_length (ledger : Ledger submitted served processed reader replies nulls) :
    served.length = (inBand processed).length + nulls := by
  have lengths := congrArg List.length ledger.given
  simpa using lengths

/-- A callback that waits was made from a command. -/
theorem callback (ledger : Ledger submitted served processed reader replies nulls)
    {cb : Callback Fn Data} (member : cb ∈ replies) :
    ∃ number fn data, cb = newCallback number fn data := by
  have member : cb ∈ acceptedCallbacks submitted := by
    rw [← ledger.callbacks]
    exact List.mem_append_right _ member
  obtain ⟨number, _, equal⟩ := List.mem_mapIdx.mp member
  exact ⟨number, _, _, equal.symm⟩

theorem submit (ledger : Ledger submitted served processed reader replies nulls)
    (submission : Submission Fn Data) :
    Ledger (submitted ++ [submission]) served processed reader
      (replies ++ [newCallback submitted.length submission.fn submission.data]) nulls := by
  refine ⟨?_, ledger.given, ?_, ledger.pushes⟩
  · rw [← List.append_assoc, ledger.callbacks, acceptedCallbacks_append]
  · have answered := ledger.answered
    rw [List.length_append]
    omega

theorem read (ledger : Ledger submitted served processed reader replies nulls)
    {more : List ReplyTree}
    (answered : (inBand processed).length + (inBand reader).length + (inBand more).length ≤
      submitted.length)
    (pushes : ∀ reply ∈ more, valkeyIsPushReply reply = true →
      valkeyIsSubscribeReply reply = false) :
    Ledger submitted served processed (reader ++ more) replies nulls := by
  refine ⟨ledger.callbacks, ledger.given, ?_, fun reply member => ?_⟩
  · rw [inBand_append, List.length_append]
    omega
  · rcases List.mem_append.mp member with old | new
    · exact ledger.pushes reply old
    · exact pushes reply new

variable {reply : ReplyTree}

theorem push (ledger : Ledger submitted served processed (reply :: reader) replies nulls)
    (pushed : valkeyIsPushReply reply = true) :
    Ledger submitted served (processed ++ [reply]) reader replies nulls := by
  have same : inBand (processed ++ [reply]) = inBand processed := by
    rw [inBand_append, inBand_push pushed]
    simp [inBand]
  refine ⟨ledger.callbacks, ?_, ?_, fun other member => ?_⟩
  · rw [same]
    exact ledger.given
  · rw [same, ← inBand_push pushed reader]
    exact ledger.answered
  · exact ledger.pushes other (List.mem_cons_of_mem _ member)

/-- A reply has a callback that waits for it. -/
theorem waiting (ledger : Ledger submitted served processed (reply :: reader) replies 0)
    (regular : valkeyIsPushReply reply = false) : replies ≠ [] := by
  have counted := ledger.counted
  have served := ledger.served_length
  have answered := ledger.answered
  rw [inBand_reply regular, List.length_cons] at answered
  rintro rfl
  rw [List.length_nil] at counted
  omega

theorem answer {cb : Callback Fn Data}
    (ledger : Ledger submitted served processed (reply :: reader) (cb :: replies) 0)
    (regular : valkeyIsPushReply reply = false) :
    Ledger submitted (served ++ [⟨cb, some reply⟩]) (processed ++ [reply]) reader replies 0 := by
  have more : inBand (processed ++ [reply]) = inBand processed ++ [reply] := by
    rw [inBand_append, inBand_reply regular]
    rfl
  refine ⟨?_, ?_, ?_, fun other member => ?_⟩
  · simpa using ledger.callbacks
  · rw [more, List.map_append, ledger.given]
    simp
  · have answered := ledger.answered
    rw [inBand_reply regular, List.length_cons] at answered
    rw [more, List.length_append, List.length_singleton]
    omega
  · exact ledger.pushes other (List.mem_cons_of_mem _ member)

theorem null {cb : Callback Fn Data}
    (ledger : Ledger submitted served processed reader (cb :: replies) nulls) :
    Ledger submitted (served ++ [⟨cb, none⟩]) processed reader replies (nulls + 1) := by
  refine ⟨?_, ?_, ledger.answered, ledger.pushes⟩
  · simpa using ledger.callbacks
  · rw [List.map_append, ledger.given, List.replicate_succ']
    simp

end Ledger

end Ledger

/-! ## Where the library is -/

/-- What a server that answers in order can have sent, without messages of subscriptions. -/
def Conforms (ac : ValkeyAsyncContext Fn Data) : Transfer → Prop
  | .read (.replies more _) =>
      (inBand ac.processed).length + (inBand ac.reader).length + (inBand more).length ≤
        ac.submitted.length ∧
      ∀ reply ∈ more, valkeyIsPushReply reply = true → valkeyIsSubscribeReply reply = false
  | _ => True

/-- No command is accepted any more, and callbacks wait only after an error or a call of
`valkeyAsyncFree`. -/
def Ending (ac : ValkeyAsyncContext Fn Data) : Prop :=
  (ac.disconnecting = true ∨ ac.freeing = true) ∧
    (ac.cErr ≠ none ∨ ac.freeing = true ∨ ac.replies = [])

/-- Replies are being processed: no callback has got `NULL` yet. -/
def Alive (ac : ValkeyAsyncContext Fn Data) (nulls : Nat) : Prop := ac.cErr = none ∧ nulls = 0

def ResumeFits (ac : ValkeyAsyncContext Fn Data) (nulls : Nat) : Resume Fn Data → Prop
  | .connected next => Conforms ac next ∧ (ac.cErr = none → nulls = 0)
  | .connectFailed | .connectTimeout | .timeout => ac.cErr ≠ none
  | .push | .reply _ => Alive ac nulls
  | .freeing subscriptions => subscriptions = [] ∧ Ending ac
  | .disconnected => ac.replies = [] ∧ Ending ac

def LabelFits (ac : ValkeyAsyncContext Fn Data) (nulls : Nat) : AsyncLabel Fn Data → Prop
  | .idle => ac.inCallback = false ∧ (ac.cErr = none → nulls = 0)
  | .callback resume => ac.inCallback = true ∧ ResumeFits ac nulls resume
  | .processing => ac.inCallback = false ∧ Alive ac nulls
  | .timeout => ac.inCallback = false ∧ ac.cErr ≠ none
  | .freeing subscriptions => subscriptions = [] ∧ Ending ac
  | .gone => ac.replies = []

/-- The invariant. `NULL` is given only after an error, a timeout or `valkeyAsyncFree`. -/
def InOrder (state : AsyncState Fn Data) : Prop :=
  ∃ nulls, Balanced state.2 nulls ∧ LabelFits state.2 nulls state.1 ∧
    (nulls > 0 → state.2.cErr ≠ none ∨ state.2.freeing = true)

/-- A computation without a fault that ends in the invariant. -/
def KeepsOrder (computation : Except AsyncFault (AsyncState Fn Data)) : Prop :=
  Ensures computation (fun _ => False) InOrder

/-! ## What the library does -/

section Library

variable (order : IterationOrder) {ac : ValkeyAsyncContext Fn Data} {nulls : Nat}

theorem order_nil {α : Type} : order.order ([] : List α) = [] :=
  (order.perm []).eq_nil

theorem inOrder_valkeyAsyncFreeInternal (balanced : Balanced ac nulls) (ending : Ending ac)
    (silent : nulls > 0 → ac.cErr ≠ none ∨ ac.freeing = true) :
    InOrder (valkeyAsyncFreeInternal order ac) := by
  obtain ⟨_, _, _, channels, patterns, schannels⟩ := balanced.2
  refine ⟨nulls, balanced, ⟨?_, ending⟩, silent⟩
  simp [Dictionary.values, channels, patterns, schannels, order_nil]

theorem keepsOrder_valkeyAsyncDisconnectInternal (balanced : Balanced ac nulls)
    (outside : ac.inCallback = false) (clean : ac.cErr = none → nulls = 0)
    (answered : ac.cErr = none → ac.replies = [] ∧ ac.disconnecting = true) :
    KeepsOrder (valkeyAsyncDisconnectInternal order ac) := by
  unfold valkeyAsyncDisconnectInternal
  dsimp only
  cases failed : ac.cErr with
  | none =>
      obtain ⟨empty, disconnecting⟩ := answered failed
      have none : nulls = 0 := clean failed
      subst none
      rw [if_neg fun both => both.2 empty]
      rw [if_pos rfl]
      split
      · exact ⟨0, balanced, ⟨outside, fun _ => rfl⟩, fun impossible => absurd impossible
          (by decide)⟩
      · exact inOrder_valkeyAsyncFreeInternal order balanced ⟨.inl disconnecting, .inr (.inr empty)⟩
          fun impossible => absurd impossible (by decide)
  | some err =>
      have error : some err ≠ none := Option.some_ne_none err
      rw [if_neg fun both => error both.1]
      rw [if_neg error]
      split
      · exact ⟨nulls, balanced, ⟨outside, fun impossible => absurd impossible error⟩,
          fun _ => .inl error⟩
      · exact inOrder_valkeyAsyncFreeInternal order balanced ⟨.inl rfl, .inl error⟩
          fun _ => .inl error

/-- A callback of a regular command is run with `NULL` or a reply. -/
theorem runCallback_regular (ac : ValkeyAsyncContext Fn Data) (number : Nat) (fn : Option Fn)
    (data : Data) (reply : Option ReplyTree) :
    runCallback ac (newCallback number fn data) reply =
      .ok (match fn with
        | none => (false, ac.serve (newCallback number fn data) reply)
        | some _ => (true, (ac.serve (newCallback number fn data) reply).enter)) := by
  cases fn <;> rfl

theorem repush_unmonitored (unmonitored : ac.monitoring = false) (cb : Callback Fn Data) :
    repush cb ac = ac := by
  rw [repush, if_neg (by simp [unmonitored])]

theorem not_silent {error : Prop} : 0 > 0 → error := fun impossible => absurd impossible (by decide)

theorem keepsOrder_deliverReply {number : Nat} {fn : Option Fn} {data : Data} {reply : ReplyTree}
    (ledger : Ledger ac.submitted (ac.served ++ [⟨newCallback number fn data, some reply⟩])
      ac.processed ac.reader ac.replies 0)
    (regular : OnlyRegular ac) (outside : ac.inCallback = false) (healthy : ac.cErr = none) :
    KeepsOrder (deliverReply order ac (newCallback number fn data) reply) := by
  cases fn with
  | none =>
      have served : (ac.serve (newCallback number none data) (some reply)).monitoring = false :=
        regular.2.1
      unfold deliverReply
      rw [if_pos (by rfl), repush_unmonitored served]
      exact ⟨0, ⟨ledger, regular⟩, ⟨outside, healthy, rfl⟩, not_silent⟩
  | some fn => exact ⟨0, ⟨ledger, regular⟩, ⟨rfl, healthy, rfl⟩, not_silent⟩

theorem keepsOrder_processReply {reply : ReplyTree} {rest : List ReplyTree}
    (balanced : Balanced ac 0) (outside : ac.inCallback = false) (healthy : ac.cErr = none)
    (next : ac.reader = reply :: rest) :
    KeepsOrder (processReply order (receiveReply ac reply rest) reply) := by
  obtain ⟨ledger, regular⟩ := balanced
  rw [next] at ledger
  unfold processReply
  cases pushed : valkeyIsPushReply reply with
  | true =>
      have spontaneous : valkeyIsSpontaneousPushReply reply = true := by
        rw [valkeyIsSpontaneousPushReply, pushed, ledger.pushes reply List.mem_cons_self pushed]
        rfl
      rw [if_pos spontaneous]
      split
      · exact ⟨0, ⟨ledger.push pushed, regular⟩, ⟨rfl, healthy, rfl⟩, not_silent⟩
      · exact ⟨0, ⟨ledger.push pushed, regular⟩, ⟨outside, healthy, rfl⟩, not_silent⟩
  | false =>
      have inBand : ¬valkeyIsSpontaneousPushReply reply = true := by
        simp [valkeyIsSpontaneousPushReply, pushed]
      rw [if_neg inBand]
      cases queue : ac.replies with
      | nil =>
          rw [queue] at ledger
          exact absurd rfl (ledger.waiting pushed)
      | cons cb waiting =>
          rw [queue] at ledger
          obtain ⟨number, fn, data, rfl⟩ := ledger.callback List.mem_cons_self
          have received : (receiveReply ac reply rest).replies =
              newCallback number fn data :: waiting :=
            queue
          rw [received]
          exact keepsOrder_deliverReply order (ledger.answer pushed) regular outside healthy

theorem keepsOrder_valkeyProcessCallbacks (balanced : Balanced ac nulls)
    (outside : ac.inCallback = false) (alive : Alive ac nulls) :
    KeepsOrder (valkeyProcessCallbacks order ac) := by
  obtain ⟨healthy, rfl⟩ := alive
  unfold valkeyProcessCallbacks
  split
  · rename_i reply rest next
    exact keepsOrder_processReply order balanced outside healthy next
  · split
    · rename_i err _
      have error : some err ≠ none := Option.some_ne_none err
      exact keepsOrder_valkeyAsyncDisconnectInternal order balanced outside
        (fun impossible => absurd impossible error) fun impossible => absurd impossible error
    · split
      · rename_i done
        exact keepsOrder_valkeyAsyncDisconnectInternal order balanced outside (fun _ => rfl)
          fun _ => ⟨done.2.2, done.1⟩
      · exact ⟨0, balanced, ⟨outside, fun _ => rfl⟩, not_silent⟩

theorem keepsOrder_broken (balanced : Balanced ac nulls) (outside : ac.inCallback = false)
    (error : ac.cErr ≠ none) : KeepsOrder (valkeyAsyncDisconnectInternal order ac) :=
  keepsOrder_valkeyAsyncDisconnectInternal order balanced outside
    (fun impossible => absurd impossible error) fun impossible => absurd impossible error

theorem keepsOrder_transfer {next : Transfer} (balanced : Balanced ac nulls)
    (outside : ac.inCallback = false) (conforms : Conforms ac next)
    (clean : ac.cErr = none → nulls = 0) : KeepsOrder (transfer order ac next) := by
  rcases next with (⟨more, failure⟩ | err) | (count | err)
  · unfold transfer valkeyAsyncRead
    dsimp only
    by_cases healthy : ac.cErr = none
    · rw [if_neg (by simp [healthy])]
      obtain rfl := clean healthy
      have ledger := balanced.1.read conforms.1 conforms.2
      obtain ⟨count, refreshed⟩ := ValkeyAsyncContext.refreshTimeout_eq
        { ac with reader := ac.reader ++ more, readerErr := failure }
      rw [refreshed]
      exact ⟨0, ⟨ledger, balanced.2⟩, ⟨outside, healthy, rfl⟩, not_silent⟩
    · rw [if_pos (Option.isSome_iff_ne_none.mpr healthy)]
      exact keepsOrder_broken order balanced outside healthy
  · have failed : Balanced { ac with cErr := some (ac.cErr.getD err) } nulls := balanced
    exact keepsOrder_broken order failed outside (Option.some_ne_none _)
  · unfold transfer valkeyAsyncWrite
    dsimp only
    by_cases healthy : ac.cErr = none
    · rw [if_neg (by simp [healthy])]
      obtain rfl := clean healthy
      obtain ⟨count, refreshed⟩ := ValkeyAsyncContext.refreshTimeout_eq
        { ac with obuf := ac.obuf.drop count }
      rw [refreshed]
      exact ⟨0, balanced, ⟨outside, fun _ => rfl⟩, not_silent⟩
    · rw [if_pos (Option.isSome_iff_ne_none.mpr healthy)]
      exact keepsOrder_broken order balanced outside healthy
  · have failed : Balanced { ac with cErr := some (ac.cErr.getD err) } nulls := balanced
    exact keepsOrder_broken order failed outside (Option.some_ne_none _)

theorem keepsOrder_disconnect_idle (balanced : Balanced ac nulls) (outside : ac.inCallback = false)
    (clean : ac.cErr = none → nulls = 0) (silent : nulls > 0 → ac.cErr ≠ none ∨ ac.freeing = true) :
    KeepsOrder (valkeyAsyncDisconnect order .idle ac) := by
  unfold valkeyAsyncDisconnect
  dsimp only
  split
  · rename_i quiet
    have disconnecting : Balanced { ac with disconnecting := true, noAutoFree := false } nulls :=
      balanced
    exact keepsOrder_valkeyAsyncDisconnectInternal order disconnecting outside clean
      fun _ => ⟨quiet.2, rfl⟩
  · exact ⟨nulls, balanced, ⟨outside, clean⟩, silent⟩

theorem inOrder_free_idle (balanced : Balanced ac nulls) (outside : ac.inCallback = false) :
    InOrder (valkeyAsyncFree order .idle ac) := by
  have inside : ¬ac.inCallback = true := by simp [outside]
  unfold valkeyAsyncFree
  dsimp only
  rw [if_neg inside]
  have freeing : Balanced { ac with freeing := true } nulls := balanced
  exact inOrder_valkeyAsyncFreeInternal order freeing ⟨.inr rfl, .inr (.inl rfl)⟩ fun _ => .inr rfl

theorem keepsOrder_afterConnect {next : Transfer} (balanced : Balanced ac nulls)
    (outside : ac.inCallback = false) (conforms : Conforms ac next)
    (clean : ac.cErr = none → nulls = 0)
    (silent : nulls > 0 → ac.cErr ≠ none ∨ ac.freeing = true) :
    KeepsOrder (afterConnect order ac next) := by
  unfold afterConnect
  split
  · exact keepsOrder_disconnect_idle order balanced outside clean silent
  · split
    · exact inOrder_free_idle order balanced outside
    · exact keepsOrder_transfer order balanced outside conforms clean

theorem keepsOrder_valkeyAsyncHandle {next : Transfer} {outcome : ConnectOutcome}
    (balanced : Balanced ac nulls) (outside : ac.inCallback = false) (conforms : Conforms ac next)
    (clean : ac.cErr = none → nulls = 0)
    (silent : nulls > 0 → ac.cErr ≠ none ∨ ac.freeing = true) :
    KeepsOrder (valkeyAsyncHandle order ac outcome next) := by
  unfold valkeyAsyncHandle valkeyAsyncHandleConnect
  split
  · exact keepsOrder_transfer order balanced outside conforms clean
  · cases outcome with
    | pending => exact ⟨nulls, balanced, ⟨outside, clean⟩, silent⟩
    | failed err =>
        have error : some err ≠ none := Option.some_ne_none err
        have failed : Balanced { ac with cErr := some err, err := some err } nulls := balanced
        dsimp only
        split
        · exact ⟨nulls, balanced, ⟨rfl, error⟩, fun _ => .inl error⟩
        · exact keepsOrder_broken order failed outside error
    | noDelay err =>
        have error : some err ≠ none := Option.some_ne_none err
        have failed : Balanced { ac with cErr := some err } nulls := balanced
        dsimp only
        split
        · exact ⟨nulls, balanced, ⟨rfl, error⟩, fun _ => .inl error⟩
        · exact keepsOrder_broken order failed outside error
    | done =>
        have connected : Balanced { ac with connected := true } nulls := balanced
        have conforms : Conforms { ac with connected := true } next := by
          rcases next with (_ | _) | (_ | _) <;> exact conforms
        dsimp only
        split
        · refine ⟨nulls, balanced, ⟨rfl, ?_, clean⟩, silent⟩
          rcases next with (_ | _) | (_ | _) <;> exact conforms
        · exact keepsOrder_afterConnect order connected outside conforms clean silent

theorem balanced_setTimeoutError (balanced : Balanced ac nulls) :
    Balanced (setTimeoutError ac) nulls := by
  unfold setTimeoutError
  dsimp only
  split
  · exact balanced
  · exact balanced

theorem setTimeoutError_inCallback (ac : ValkeyAsyncContext Fn Data) :
    (setTimeoutError ac).inCallback = ac.inCallback := by
  unfold setTimeoutError
  dsimp only
  split <;> rfl

theorem setTimeoutError_cErr (ac : ValkeyAsyncContext Fn Data) :
    (setTimeoutError ac).cErr ≠ none := by
  unfold setTimeoutError
  dsimp only
  split
  · rename_i failed
    exact Option.isSome_iff_ne_none.mp failed
  · exact Option.some_ne_none _

theorem inOrder_valkeyAsyncHandleTimeout (balanced : Balanced ac nulls)
    (outside : ac.inCallback = false) (clean : ac.cErr = none → nulls = 0)
    (silent : nulls > 0 → ac.cErr ≠ none ∨ ac.freeing = true) :
    InOrder (valkeyAsyncHandleTimeout ac) := by
  unfold valkeyAsyncHandleTimeout
  split
  · exact ⟨nulls, balanced, ⟨outside, clean⟩, silent⟩
  · split
    · exact ⟨nulls, balanced, ⟨outside, clean⟩, silent⟩
    · split
      · obtain ⟨count, refreshed⟩ := ValkeyAsyncContext.refreshTimeout_eq
          { ac with timeoutReplyCount := none }
        rw [refreshed]
        exact ⟨nulls, balanced, ⟨outside, clean⟩, silent⟩
      · have failed := balanced_setTimeoutError balanced
        have outside := (setTimeoutError_inCallback ac).trans outside
        have error := setTimeoutError_cErr ac
        dsimp only
        split
        · exact ⟨nulls, failed, ⟨rfl, error⟩, fun _ => .inl error⟩
        · exact ⟨nulls, failed, ⟨outside, error⟩, fun _ => .inl error⟩

theorem keepsOrder_timeoutReplies (balanced : Balanced ac nulls) (outside : ac.inCallback = false)
    (error : ac.cErr ≠ none) : KeepsOrder (timeoutReplies order ac) := by
  obtain ⟨ledger, regular⟩ := balanced
  unfold timeoutReplies
  split
  · exact keepsOrder_broken order ⟨ledger, regular⟩ outside error
  · rename_i cb rest queue
    rw [queue] at ledger
    obtain ⟨number, fn, data, rfl⟩ := ledger.callback List.mem_cons_self
    rw [runCallback_regular]
    cases fn with
    | none => exact ⟨nulls + 1, ⟨ledger.null, regular⟩, ⟨outside, error⟩, fun _ => .inl error⟩
    | some fn => exact ⟨nulls + 1, ⟨ledger.null, regular⟩, ⟨rfl, error⟩, fun _ => .inl error⟩

theorem keepsOrder_freeCallbacks (balanced : Balanced ac nulls) (ending : Ending ac)
    (silent : nulls > 0 → ac.cErr ≠ none ∨ ac.freeing = true) :
    KeepsOrder (freeCallbacks ac []) := by
  obtain ⟨ledger, regular⟩ := balanced
  unfold freeCallbacks
  dsimp only
  split
  · rename_i cb rest queue
    have error : ac.cErr ≠ none ∨ ac.freeing = true := by
      rcases ending.2 with error | freeing | empty
      · exact .inl error
      · exact .inr freeing
      · rw [queue] at empty
        cases empty
    rw [queue] at ledger
    have ending : Ending { ac with replies := rest } :=
      ⟨ending.1, error.imp_right .inl⟩
    obtain ⟨number, fn, data, rfl⟩ := ledger.callback List.mem_cons_self
    rw [runCallback_regular]
    cases fn with
    | none => exact ⟨nulls + 1, ⟨ledger.null, regular⟩, ⟨rfl, ending⟩, fun _ => error⟩
    | some fn => exact ⟨nulls + 1, ⟨ledger.null, regular⟩, ⟨rfl, rfl, ending⟩, fun _ => error⟩
  · rename_i cb rest _ queue
    rw [regular.2.2.1] at queue
    cases queue
  · contradiction
  · rename_i empty _ _
    split
    · exact ⟨nulls, ⟨ledger, regular⟩, ⟨rfl, empty, ending⟩, silent⟩
    · exact ⟨nulls, ⟨ledger, regular⟩, empty, silent⟩

theorem inOrder_afterReply (balanced : Balanced ac 0) (outside : ac.inCallback = false)
    (healthy : ac.cErr = none) (cb : Callback Fn Data) : InOrder (afterReply order cb ac) := by
  unfold afterReply
  split
  · rename_i freeing
    exact inOrder_valkeyAsyncFreeInternal order balanced
      ⟨.inr freeing, .inr (.inl freeing)⟩ not_silent
  · rw [repush_unmonitored balanced.2.2.1]
    exact ⟨0, balanced, ⟨outside, healthy, rfl⟩, not_silent⟩

theorem keepsOrder_afterCallback {resume : Resume Fn Data} (balanced : Balanced ac nulls)
    (outside : ac.inCallback = false) (fits : ResumeFits ac nulls resume)
    (silent : nulls > 0 → ac.cErr ≠ none ∨ ac.freeing = true) :
    KeepsOrder (afterCallback order ac resume) := by
  cases resume with
  | connected next => exact keepsOrder_afterConnect order balanced outside fits.1 fits.2 silent
  | connectFailed => exact keepsOrder_broken order balanced outside fits
  | connectTimeout => exact ⟨nulls, balanced, ⟨outside, fits⟩, silent⟩
  | timeout => exact ⟨nulls, balanced, ⟨outside, fits⟩, silent⟩
  | push => exact ⟨nulls, balanced, ⟨outside, fits⟩, silent⟩
  | reply cb =>
      obtain ⟨healthy, rfl⟩ := fits
      exact inOrder_afterReply order balanced outside healthy cb
  | freeing subscriptions => exact ⟨nulls, balanced, fits, silent⟩
  | disconnected => exact ⟨nulls, balanced, fits.1, silent⟩

end Library

/-! ## What the user does -/

section User

variable {ac : ValkeyAsyncContext Fn Data} {nulls : Nat}

/-- A regular command is refused, or its callback waits behind the others. -/
theorem valkeyAsyncAppendCmdLen_regular (ac : ValkeyAsyncContext Fn Data) (fn : Option Fn)
    (data : Data) {cmd : Bytes}
    (regular : ∀ first, nextArgument cmd = some first → commandKind first = .regular)
    (unsubscribed : ac.isSubscribed = false) :
    (valkeyAsyncAppendCmdLen ac fn data cmd).2 = ac ∨
      ac.disconnecting = false ∧ ac.freeing = false ∧
      (valkeyAsyncAppendCmdLen ac fn data cmd).2 =
        ({ ac with
          replies := ac.replies ++ [newCallback ac.submitted.length fn data] }).writeCommand
          ⟨fn, data, cmd⟩ := by
  unfold valkeyAsyncAppendCmdLen
  by_cases refused : ac.disconnecting = true ∨ ac.freeing = true
  · rw [if_pos refused]
    exact .inl rfl
  · obtain ⟨connected, kept⟩ := not_or.mp refused
    rw [if_neg refused]
    cases found : nextArgument cmd with
    | none => exact .inl rfl
    | some first =>
        refine .inr ⟨by simpa using connected, by simpa using kept, ?_⟩
        simp only [registerCommand, regular first found, unsubscribed, pushCallback]
        rfl

theorem fits_writeCommand {label : AsyncLabel Fn Data} (submission : Submission Fn Data)
    (cb : Callback Fn Data) (connected : ac.disconnecting = false) (kept : ac.freeing = false)
    (fits : LabelFits ac nulls label)
    (calls : label = .idle ∨ ∃ resume, label = .callback resume) :
    LabelFits ({ ac with replies := ac.replies ++ [cb] }.writeCommand submission) nulls label := by
  obtain ⟨count, written⟩ :=
    ValkeyAsyncContext.writeCommand_eq { ac with replies := ac.replies ++ [cb] } submission
  rw [written]
  have notEnding : ¬Ending ac := by
    rintro ⟨disconnecting | freeing, _⟩
    · exact absurd (disconnecting.symm.trans connected) (by decide)
    · exact absurd (freeing.symm.trans kept) (by decide)
  rcases calls with rfl | ⟨resume, rfl⟩
  · exact fits
  · obtain ⟨inside, fits⟩ := fits
    refine ⟨inside, ?_⟩
    cases resume with
    | connected next =>
        refine ⟨?_, fits.2⟩
        have conforms := fits.1
        rcases next with (⟨more, failure⟩ | _) | (_ | _)
        · refine ⟨?_, conforms.2⟩
          have answered := conforms.1
          dsimp only
          rw [List.length_append]
          omega
        · trivial
        · trivial
        · trivial
    | connectFailed => exact fits
    | connectTimeout => exact fits
    | timeout => exact fits
    | push => exact fits
    | reply _ => exact fits
    | freeing _ => exact absurd fits.2 notEnding
    | disconnected => exact absurd fits.2 notEnding

/-- Both calls only set flags while a callback runs. -/
theorem fits_ending {resume : Resume Fn Data} (disconnecting freeing noAutoFree : Bool)
    (moreDisconnecting : ac.disconnecting = true → disconnecting = true)
    (moreFreeing : ac.freeing = true → freeing = true)
    (fits : LabelFits ac nulls (.callback resume)) :
    LabelFits { ac with
      disconnecting := disconnecting, freeing := freeing, noAutoFree := noAutoFree } nulls
      (.callback resume) := by
  have ending (before : Ending ac) : Ending { ac with
      disconnecting := disconnecting, freeing := freeing, noAutoFree := noAutoFree } :=
    ⟨before.1.imp moreDisconnecting moreFreeing, before.2.imp_right (Or.imp_left moreFreeing)⟩
  obtain ⟨inside, fits⟩ := fits
  refine ⟨inside, ?_⟩
  cases resume with
  | connected next =>
      refine ⟨?_, fits.2⟩
      have conforms := fits.1
      rcases next with (_ | _) | (_ | _) <;> exact conforms
  | connectFailed => exact fits
  | connectTimeout => exact fits
  | timeout => exact fits
  | push => exact fits
  | reply _ => exact fits
  | freeing _ => exact ⟨fits.1, ending fits.2⟩
  | disconnected => exact ⟨fits.1, ending fits.2⟩

theorem fits_return {resume : Resume Fn Data} (fits : ResumeFits ac nulls resume) :
    ResumeFits { ac with inCallback := false } nulls resume := by
  cases resume with
  | connected next =>
      refine ⟨?_, fits.2⟩
      have conforms := fits.1
      rcases next with (_ | _) | (_ | _) <;> exact conforms
  | connectFailed => exact fits
  | connectTimeout => exact fits
  | timeout => exact fits
  | push => exact fits
  | reply _ => exact fits
  | freeing _ => exact fits
  | disconnected => exact fits

theorem inOrder_command {label : AsyncLabel Fn Data} (balanced : Balanced ac nulls)
    (fits : LabelFits ac nulls label) (silent : nulls > 0 → ac.cErr ≠ none ∨ ac.freeing = true)
    (calls : label = .idle ∨ ∃ resume, label = .callback resume) (fn : Option Fn) (data : Data)
    {cmd : Bytes}
    (regular : ∀ first, nextArgument cmd = some first → commandKind first = .regular) :
    InOrder (label, (valkeyAsyncAppendCmdLen ac fn data cmd).2) := by
  rcases valkeyAsyncAppendCmdLen_regular ac fn data regular balanced.2.1 with
    refused | ⟨connected, kept, accepted⟩
  · rw [refused]
    exact ⟨nulls, balanced, fits, silent⟩
  · rw [accepted]
    have ledger := balanced.1.submit ⟨fn, data, cmd⟩
    have fits := fits_writeCommand ⟨fn, data, cmd⟩ (newCallback ac.submitted.length fn data)
      connected kept fits calls
    obtain ⟨count, written⟩ := ValkeyAsyncContext.writeCommand_eq
      { ac with replies := ac.replies ++ [newCallback ac.submitted.length fn data] } ⟨fn, data, cmd⟩
    rw [written] at fits ⊢
    exact ⟨nulls, ⟨ledger, balanced.2⟩, fits, silent⟩

end User

/-! ## Every run -/

/-- Only regular commands, and a server that answers in order without subscriptions. -/
def RegularEvent (state : AsyncState Fn Data) : AsyncEvent Fn Data → Prop
  | .command _ _ cmd => ∀ first, nextArgument cmd = some first → commandKind first = .regular
  | .readable _ input => Conforms state.2 (.read input)
  | _ => True

theorem keepsOrder_step (order : IterationOrder) {state : AsyncState Fn Data}
    {event : AsyncEvent Fn Data} (inOrder : InOrder state) (regular : RegularEvent state event) :
    KeepsOrder (asyncStep order state event) := by
  obtain ⟨label, ac⟩ := state
  obtain ⟨nulls, balanced, fits, silent⟩ := inOrder
  unfold asyncStep
  dsimp only
  split
  · exact inOrder_command balanced fits silent (.inl rfl) _ _ regular
  · exact inOrder_command balanced fits silent (.inr ⟨_, rfl⟩) _ _ regular
  · exact keepsOrder_disconnect_idle order balanced fits.1 fits.2 silent
  · unfold valkeyAsyncDisconnect
    dsimp only
    rw [if_neg fun both => both.1 fits.1]
    exact ⟨nulls, balanced, fits_ending true ac.freeing false (fun _ => rfl) id fits, silent⟩
  · exact inOrder_free_idle order balanced fits.1
  · unfold valkeyAsyncFree
    dsimp only
    rw [if_pos fits.1]
    exact ⟨nulls, balanced, fits_ending ac.disconnecting true ac.noAutoFree id (fun _ => rfl) fits,
      fun _ => .inr rfl⟩
  · exact keepsOrder_valkeyAsyncHandle order balanced fits.1 regular fits.2 silent
  · exact keepsOrder_valkeyAsyncHandle order balanced fits.1 trivial fits.2 silent
  · exact inOrder_valkeyAsyncHandleTimeout balanced fits.1 fits.2 silent
  · have returned : Balanced { ac with inCallback := false } nulls := balanced
    exact keepsOrder_afterCallback order returned rfl (fits_return fits.2) silent
  · exact keepsOrder_valkeyProcessCallbacks order balanced fits.1 fits.2
  · exact keepsOrder_timeoutReplies order balanced fits.1 fits.2
  · obtain ⟨rfl, ending⟩ := fits
    exact keepsOrder_freeCallbacks balanced ending silent
  · exact ⟨nulls, balanced, fits, silent⟩

theorem inOrder_initial (options : AsyncOptions) :
    InOrder (.idle, valkeyAsyncInitialize Fn Data options) :=
  ⟨0, ⟨⟨rfl, rfl, Nat.le_refl 0, fun _ member => absurd member List.not_mem_nil⟩,
    rfl, rfl, rfl, rfl, rfl, rfl⟩, ⟨rfl, fun _ => rfl⟩, not_silent⟩

theorem asyncRun_keepsOrder (order : IterationOrder) {start : AsyncState Fn Data}
    {events : List (AsyncEvent Fn Data)} (inOrder : InOrder start)
    (regular : EveryStep order RegularEvent start events) :
    ∃ state, asyncRun order start events = .ok state ∧ InOrder state := by
  induction events generalizing start with
  | nil => exact ⟨start, rfl, inOrder⟩
  | cons event events induction =>
      obtain ⟨now, later⟩ := regular
      have keeps := keepsOrder_step order inOrder now
      unfold asyncRun
      cases step : asyncStep order start event with
      | error fault => exact (keeps.of_error step).elim
      | ok next => exact induction (keeps.of_ok step) (later next step)

/-- The replies of the stream, processed or not, that were not pushed. -/
def ValkeyAsyncContext.stream (ac : ValkeyAsyncContext Fn Data) : List ReplyTree :=
  inBand (ac.processed ++ ac.reader)

/-- The callbacks of the accepted commands are run once and in their order, each with the
reply of its number or with `NULL`. `NULL` comes only after an error or a timeout, which set
an error, or a call of `valkeyAsyncFree`. Before the context is gone all of them are run. -/
structure AnsweredInOrder (state : AsyncState Fn Data) : Prop where
  once : state.2.served.map (·.callback) <+: acceptedCallbacks state.2.submitted
  replies : ∀ (number : Nat) (served : Served Fn Data), state.2.served[number]? = some served →
    served.reply ≠ none ∧ served.reply = state.2.stream[number]? ∨
      served.reply = none ∧ (state.2.cErr ≠ none ∨ state.2.freeing = true)
  complete : state.1 = .gone →
    state.2.served.map (·.callback) = acceptedCallbacks state.2.submitted
  clean : state.1 = .gone → state.2.cErr = none → state.2.freeing = false →
    state.2.served.map (·.reply) = state.2.stream.map some

/-- Every callback that was run got the reply of its number or `NULL`. -/
theorem replies_of_given {ac : ValkeyAsyncContext Fn Data} {nulls : Nat}
    (given : ac.served.map (·.reply) = (inBand ac.processed).map some ++ List.replicate nulls none)
    (silent : 0 < nulls → ac.cErr ≠ none ∨ ac.freeing = true) (number : Nat)
    {served : Served Fn Data} (found : ac.served[number]? = some served) :
    served.reply ≠ none ∧ served.reply = ac.stream[number]? ∨
      served.reply = none ∧ (ac.cErr ≠ none ∨ ac.freeing = true) := by
  have reply : (ac.served.map (·.reply))[number]? = some served.reply := by
    rw [List.getElem?_map, found]
    rfl
  rw [given] at reply
  by_cases answered : number < (inBand ac.processed).length
  · left
    rw [List.getElem?_append_left (by simpa using answered), List.getElem?_map,
      List.getElem?_eq_getElem answered] at reply
    have known : served.reply = some (inBand ac.processed)[number] := (Option.some.inj reply).symm
    refine ⟨by rw [known]; exact Option.some_ne_none _, ?_⟩
    rw [known, ValkeyAsyncContext.stream, inBand_append, List.getElem?_append_left answered,
      List.getElem?_eq_getElem answered]
  · right
    rw [List.getElem?_append_right (by simpa using answered)] at reply
    have null := List.mem_of_getElem? reply
    obtain ⟨positive, none⟩ := List.mem_replicate.mp null
    exact ⟨none, silent (Nat.pos_of_ne_zero positive)⟩

theorem InOrder.answered {state : AsyncState Fn Data} (inOrder : InOrder state) :
    AnsweredInOrder state := by
  obtain ⟨label, ac⟩ := state
  obtain ⟨nulls, ⟨ledger, _⟩, fits, silent⟩ := inOrder
  dsimp only at ledger fits silent
  have complete (gone : label = .gone) :
      ac.served.map (·.callback) = acceptedCallbacks ac.submitted := by
    subst gone
    have empty : ac.replies = [] := fits
    rw [← ledger.callbacks, empty, List.append_nil]
  refine ⟨⟨ac.replies, ledger.callbacks⟩,
    fun number served found => replies_of_given ledger.given silent number found, complete,
    fun gone healthy kept => ?_⟩
  · have none : nulls = 0 := by
      by_contra some
      rcases silent (Nat.pos_of_ne_zero some) with error | freeing
      · exact error healthy
      · exact absurd (freeing.symm.trans kept) (by decide)
    subst none
    have lengths := congrArg List.length (complete gone)
    have served := ledger.served_length
    have answered := ledger.answered
    have rest : inBand ac.reader = [] := by
      rw [List.length_map, acceptedCallbacks, List.length_mapIdx] at lengths
      apply List.eq_nil_of_length_eq_zero
      omega
    rw [ledger.given, ValkeyAsyncContext.stream, inBand_append, rest]
    simp

instance (state : AsyncState Fn Data) (event : AsyncEvent Fn Data) :
    Decidable (RegularEvent state event) :=
  match event with
  | .command _ _ cmd =>
      match found : nextArgument cmd with
      | none => .isTrue fun _ impossible => nomatch found.symm.trans impossible
      | some first =>
          decidable_of_iff (commandKind first = .regular) <| by
            simp [RegularEvent, found]
  | .readable _ (.replies _ _) => inferInstanceAs (Decidable (_ ∧ _))
  | .readable _ (.failed _) | .disconnect | .free | .writable _ _ | .timer | .proceed =>
      .isTrue trivial

/-- `PING` is sent and answered, and then the connection is closed. -/
def pingPong : List (AsyncEvent Nat Nat) :=
  [.command (some 1) 1 (valkeyFormatCommandArgv [literal "PING"]),
    .writable .done (.written 14),
    .readable .pending (.replies [.status (literal "PONG")] none),
    .proceed, .proceed, .proceed, .disconnect, .proceed]

/-- A message is pushed to a context that waits for the reply to `PING`. -/
def pushedMessage : List (AsyncEvent Nat Nat) :=
  [.command (some 1) 1 (valkeyFormatCommandArgv [literal "PING"]),
    .writable .done (.written 14),
    .readable .pending (.replies [.aggregate .push
      [.string (literal "message"), .string (literal "news"), .string (literal "hello")]] none),
    .proceed]

end Libvalkey
