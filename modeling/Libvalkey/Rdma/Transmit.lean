import Libvalkey.Foundation.Runs
import Libvalkey.Transport.Output

/-! # Writing to remote memory

`rdma.c`: the server registers windows of its memory, and `valkeyRdmaWrite` copies the output
buffer into them through a send buffer of the same length. -/

namespace Libvalkey.Rdma

open Checked Runs

/-! ## Windows -/

/-- A completion that is polled from the queue. `allocated` tells whether the send buffer for a
window could be allocated and registered. -/
inductive Completion
  | registerXferMemory (length : UInt32) (allocated : Bool)
  | keepalive
  | recvImm (length : Nat)
  | rdmaWrite
  | send
  deriving DecidableEq, Repr

/-- The part of `RdmaContext` that is about sending. `sendMr` is the length that the send buffer
is registered with, if there is one. -/
structure TxContext where
  err : Option ContextError
  txLength : Nat
  txOffset : Nat
  sendLength : Nat
  sendMr : Option Nat
  deriving DecidableEq, Repr

namespace TxContext

/-- A new connection. -/
def new : TxContext where
  err := none
  txLength := 0
  txOffset := 0
  sendLength := 0
  sendMr := none

def rdmaAdjustSendbuf (ctx : TxContext) (length : Nat) (allocated : Bool) : Status × TxContext :=
  if length = ctx.sendLength then (.ok, ctx)
  else if allocated then (.ok, { ctx with sendLength := length, sendMr := some length })
  else
    (.err,
      { ctx with
        err := some ⟨.other, ascii "RDMA: reg send buf mr failed"⟩
        sendLength := 0
        sendMr := none })

/-- `connRdmaHandleRecv`, which ignores the status of `rdmaAdjustSendbuf`, and the completions
that change nothing here. -/
def handleCompletion (ctx : TxContext) : Completion → TxContext
  | .registerXferMemory length allocated =>
      ({ ctx with txLength := length.toNat, txOffset := 0 }.rdmaAdjustSendbuf length.toNat
        allocated).2
  | .keepalive | .recvImm _ | .rdmaWrite | .send => ctx

def connRdmaHandleCq (ctx : TxContext) (completions : List Completion) : TxContext :=
  completions.foldl handleCompletion ctx

/-- What is left of the window. -/
def space (ctx : TxContext) : Nat := ctx.txLength - ctx.txOffset

end TxContext

/-! ## Writes -/

/-- A write that was posted, with the window and the length of the registered buffer. -/
structure Post where
  offset : Nat
  window : Nat
  registered : Nat
  payload : Bytes
  deriving DecidableEq, Repr

/-- A write within the window and within a buffer that is as long as the window. -/
def Post.Inside (post : Post) : Prop :=
  post.offset + post.payload.length ≤ post.window ∧ post.registered = post.window

/-- How a call ends. Without a send buffer, the data is copied to `NULL`. -/
inductive WriteEnd
  | returned (posts : List Post)
  | failed
  | noSendBuffer
  | assertion
  deriving DecidableEq, Repr

/-- `posted` tells whether `ibv_post_send` accepts the write. -/
def connRdmaSend (ctx : TxContext) (data : Bytes) (posted : Bool) :
    Except WriteEnd (TxContext × Post) :=
  if data.length > ctx.txLength then .error .assertion
  else
    match ctx.sendMr with
    | none => .error .noSendBuffer
    | some registered =>
        if posted then
          .ok ({ ctx with txOffset := (ctx.txOffset + data.length) % 2 ^ 32 },
            ⟨ctx.txOffset, ctx.txLength, registered, data⟩)
        else .error .failed

/-- What `valkeyRdmaWaitEvent` comes to, or the time is over before it is called. -/
inductive WaitOutcome
  | completions (completions : List Completion)
  | fails
  | timedOut
  deriving DecidableEq, Repr

/-- What one turn of the loop meets. -/
structure Turn where
  wait : WaitOutcome
  posted : Bool
  deriving DecidableEq, Repr

/-- The variables of `valkeyRdmaWrite`, the writes that were posted, and the space of the
windows that were offered. -/
structure Writing where
  ctx : TxContext
  wrote : Nat
  posts : List Post
  offered : Nat
  deriving DecidableEq, Repr

namespace Writing

/-- `while (wrote < data_len)` -/
def loopEnd (data : Bytes) (s : Writing) : Except WriteEnd Writing :=
  if s.wrote < data.length then .ok s else .error (.returned s.posts)

/-- One turn of the loop. -/
def turn (data : Bytes) (s : Writing) (t : Turn) : Except WriteEnd Writing :=
  if s.ctx.txOffset > s.ctx.txLength then .error .assertion
  else if s.ctx.txOffset = s.ctx.txLength then
    -- Wait for a new window.
    match t.wait with
    | .timedOut | .fails => .error .failed
    | .completions completions =>
        let ctx := s.ctx.connRdmaHandleCq completions
        { s with ctx := ctx, offered := s.offered + ctx.space }.loopEnd data
  else do
    let towrite := min s.ctx.space (data.length - s.wrote)
    let (ctx, post) ← connRdmaSend s.ctx ((data.drop s.wrote).take towrite) t.posted
    { s with
      ctx := ctx
      wrote := (s.wrote + towrite) % 2 ^ 32
      posts := s.posts ++ [post] }.loopEnd data

/-- The loop begins after the completions that have been waiting. -/
def start (ctx : TxContext) : Writing where
  ctx := ctx
  wrote := 0
  posts := []
  offered := ctx.space

end Writing

/-- The call, as far as the turns go. -/
def valkeyRdmaWrite (data : Bytes) (ctx : TxContext) (first : WaitOutcome) (turns : List Turn) :
    Except WriteEnd Writing :=
  match first with
  | .completions completions =>
      run (Writing.turn data) (.start (ctx.connRdmaHandleCq completions)) turns
  | .fails | .timedOut => .error .failed

/-! ## Windows and send buffers -/

/-- The send buffer is registered with the length of the window, or there is none. -/
structure Windowed (ctx : TxContext) : Prop where
  small : ctx.txLength < 2 ^ 32
  offset : ctx.txOffset ≤ ctx.txLength
  buffer : ctx.sendMr = some ctx.txLength ∧ ctx.sendLength = ctx.txLength ∨
    ctx.sendMr = none ∧ ctx.sendLength = 0

theorem windowed_new : Windowed .new := ⟨by decide, Nat.le_refl _, .inr ⟨rfl, rfl⟩⟩

section Windows

variable {ctx : TxContext}

theorem windowed_handleCompletion (windowed : Windowed ctx) (completion : Completion) :
    Windowed (ctx.handleCompletion completion) := by
  cases completion with
  | registerXferMemory length allocated =>
      unfold TxContext.handleCompletion TxContext.rdmaAdjustSendbuf
      dsimp only
      split
      · rename_i same
        refine ⟨length.toNat_lt, Nat.zero_le _, ?_⟩
        rcases windowed.buffer with ⟨registered, whole⟩ | none
        · exact .inl ⟨by rw [registered, same, whole], same.symm⟩
        · exact .inr none
      · split
        · exact ⟨length.toNat_lt, Nat.zero_le _, .inl ⟨rfl, rfl⟩⟩
        · exact ⟨length.toNat_lt, Nat.zero_le _, .inr ⟨rfl, rfl⟩⟩
  | keepalive | recvImm _ | rdmaWrite | send => exact windowed

theorem windowed_handleCq (windowed : Windowed ctx) (completions : List Completion) :
    Windowed (ctx.connRdmaHandleCq completions) := by
  induction completions generalizing ctx with
  | nil => exact windowed
  | cons completion rest induction =>
        exact induction (windowed_handleCompletion windowed completion)

/-- A write that fits into the window ends without a fault, if there is a send buffer. -/
theorem connRdmaSend_eq (windowed : Windowed ctx) {data : Bytes} (fits : data.length ≤ ctx.space)
    (registered : ctx.sendMr ≠ none) (posted : Bool) :
    connRdmaSend ctx data posted =
      if posted then
        .ok ({ ctx with txOffset := ctx.txOffset + data.length },
          ⟨ctx.txOffset, ctx.txLength, ctx.txLength, data⟩)
      else .error .failed := by
  obtain ⟨small, offset, buffer⟩ := windowed
  obtain ⟨whole, _⟩ := buffer.resolve_right fun none => registered none.1
  unfold TxContext.space at fits
  have bound : ctx.txOffset + data.length < 2 ^ 32 := by omega
  have inWindow : ¬data.length > ctx.txLength := by omega
  unfold connRdmaSend
  rw [if_neg inWindow, whole, Nat.mod_eq_of_lt bound]

theorem connRdmaSend_none {data : Bytes} (fits : data.length ≤ ctx.txLength)
    (none : ctx.sendMr = none) (posted : Bool) :
    connRdmaSend ctx data posted = .error .noSendBuffer := by
  unfold connRdmaSend
  rw [if_neg (not_lt.mpr fits), none]

end Windows

/-! ## The loop -/

namespace Writing

/-- The bytes of the writes. -/
def payloads (posts : List Post) : Bytes := posts.flatMap (·.payload)

theorem payloads_concat (posts : List Post) (post : Post) :
    payloads (posts ++ [post]) = payloads posts ++ post.payload := by simp [payloads]

/-- The turn ends the call with an error. -/
def Fails (s : Writing) (t : Turn) : Prop :=
  if s.ctx.txOffset = s.ctx.txLength then t.wait = .fails ∨ t.wait = .timedOut else t.posted = false

/-- A turn goes wrong nowhere: it writes into the window and from a buffer of the same length, a
call that returns has written the data, and the loop ends when enough space has been offered. -/
structure Transmits (data : Bytes) (s : Writing) (t : Turn) : Prop where
  noFault : s.turn data t ≠ .error .noSendBuffer ∧ s.turn data t ≠ .error .assertion
  inside : ∀ next, s.turn data t = .ok next → ∀ post ∈ next.posts, post.Inside
  returns : ∀ posts, s.turn data t = .error (.returned posts) →
    (∀ post ∈ posts, post.Inside) ∧ payloads posts = data
  ends : data.length ≤ s.offered → ∀ next, s.turn data t ≠ .ok next

/-- A window is written to only with a send buffer, and before `2 ^ 32` bytes have been written,
or as many as there are, the loop has ended. -/
def Supplied (data : Bytes) (s : Writing) (t : Turn) : Prop :=
  (s.ctx.txOffset < s.ctx.txLength → s.ctx.sendMr ≠ none) ∧
    (data.length < 2 ^ 32 ∨ s.offered < data.length ∨ s.Fails t)

/-- What has been written so far, and how much could have been. -/
structure Sending (data : Bytes) (s : Writing) : Prop where
  windowed : Windowed s.ctx
  inside : ∀ post ∈ s.posts, post.Inside
  wrote : s.wrote = (payloads s.posts).length % 2 ^ 32
  offered : s.offered = (payloads s.posts).length + s.ctx.space
  written : data.length < 2 ^ 32 → (payloads s.posts).length ≤ data.length ∧
    payloads s.posts = data.take (payloads s.posts).length

theorem sending_start {ctx : TxContext} (windowed : Windowed ctx) (data : Bytes) :
    Sending data (start ctx) where
  windowed := windowed
  inside := fun _ impossible => nomatch impossible
  wrote := rfl
  offered := (Nat.zero_add _).symm
  written := fun _ => ⟨Nat.zero_le _, rfl⟩

section Turns

variable {data : Bytes} {s : Writing} {t : Turn}

/-- Waiting for a window. -/
theorem sending_wait (sending : Sending data s) (empty : s.ctx.txOffset = s.ctx.txLength)
    (completions : List Completion) :
    Sending data { s with
      ctx := s.ctx.connRdmaHandleCq completions
      offered := s.offered + (s.ctx.connRdmaHandleCq completions).space } where
  windowed := windowed_handleCq sending.windowed completions
  inside := sending.inside
  wrote := sending.wrote
  offered := by
    have none : s.ctx.space = 0 := by
      unfold TxContext.space
      omega
    have before := sending.offered
    dsimp only
    omega
  written := sending.written

/-- Writing to a window. -/
theorem sending_write (sending : Sending data s) {towrite : Nat}
    (size : towrite = min s.ctx.space (data.length - s.wrote)) :
    Sending data { s with
      ctx := { s.ctx with txOffset := s.ctx.txOffset + towrite }
      wrote := (s.wrote + towrite) % 2 ^ 32
      posts := s.posts ++
        [⟨s.ctx.txOffset, s.ctx.txLength, s.ctx.txLength, (data.drop s.wrote).take towrite⟩] } := by
  obtain ⟨⟨small, offset, buffer⟩, inside, wrote, offered, written⟩ := sending
  have length : ((data.drop s.wrote).take towrite).length = towrite := by
    rw [List.length_take, List.length_drop]
    omega
  unfold TxContext.space at *
  refine ⟨⟨small, ?_, buffer⟩, ?_, ?_, ?_, ?_⟩
  · dsimp only
    omega
  · intro post member
    rcases List.mem_append.mp member with old | new
    · exact inside post old
    · obtain rfl := List.mem_singleton.mp new
      exact ⟨by dsimp only; omega, rfl⟩
  · rw [payloads_concat, List.length_append, length, wrote, Nat.mod_add_mod]
  · rw [payloads_concat, List.length_append, length]
    unfold TxContext.space
    dsimp only
    omega
  · intro short
    obtain ⟨bound, same⟩ := written short
    have sent : s.wrote = (payloads s.posts).length := by
      rw [wrote, Nat.mod_eq_of_lt (by omega)]
    dsimp only
    rw [payloads_concat, List.length_append, length]
    refine ⟨by omega, ?_⟩
    rw [sent, List.take_add, ← same]

/-- The call returns, or the loop goes on. -/
structure Continues (data : Bytes) (s : Writing) (t : Turn) (next : Writing) : Prop where
  fine : ¬s.Fails t
  sending : Sending data next
  result : s.turn data t = next.loopEnd data
  progress : next.wrote = s.wrote ∧ s.ctx.space = 0 ∨
    next.wrote = (s.wrote + min s.ctx.space (data.length - s.wrote)) % 2 ^ 32

theorem turn_wait (sending : Sending data s) (empty : s.ctx.txOffset = s.ctx.txLength) :
    (s.Fails t ∧ s.turn data t = .error .failed) ∨ ∃ next, Continues data s t next := by
  have none : s.ctx.space = 0 := by
    unfold TxContext.space
    omega
  have fails : s.Fails t ↔ t.wait = .fails ∨ t.wait = .timedOut := by
    unfold Fails
    rw [if_pos empty]
  have result : s.turn data t = match t.wait with
      | .timedOut | .fails => .error .failed
      | .completions completions =>
          { s with
            ctx := s.ctx.connRdmaHandleCq completions
            offered := s.offered + (s.ctx.connRdmaHandleCq completions).space }.loopEnd data := by
    unfold turn
    rw [if_neg (by omega), if_pos empty]
  rw [fails, result]
  cases wait : t.wait with
  | timedOut => exact .inl ⟨.inr rfl, rfl⟩
  | fails => exact .inl ⟨.inl rfl, rfl⟩
  | completions completions =>
      rw [wait] at fails result
      exact .inr ⟨_, by rw [fails]; simp, sending_wait sending empty completions, result,
        .inl ⟨rfl, none⟩⟩

theorem turn_send (sending : Sending data s) (some : s.ctx.txOffset < s.ctx.txLength)
    (registered : s.ctx.sendMr ≠ none) :
    (s.Fails t ∧ s.turn data t = .error .failed) ∨ ∃ next, Continues data s t next := by
  have fails : s.Fails t ↔ t.posted = false := by
    unfold Fails
    rw [if_neg (by omega)]
  have length : ((data.drop s.wrote).take (min s.ctx.space (data.length - s.wrote))).length =
      min s.ctx.space (data.length - s.wrote) := by
    rw [List.length_take, List.length_drop]
    omega
  have sends := connRdmaSend_eq sending.windowed (length.le.trans (Nat.min_le_left _ _)) registered
    t.posted
  rw [length] at sends
  have result : s.turn data t = (connRdmaSend s.ctx ((data.drop s.wrote).take
      (min s.ctx.space (data.length - s.wrote))) t.posted >>= fun sent => { s with
        ctx := sent.1
        wrote := (s.wrote + min s.ctx.space (data.length - s.wrote)) % 2 ^ 32
        posts := s.posts ++ [sent.2] }.loopEnd data) := by
    unfold turn
    rw [if_neg (by omega), if_neg (by omega)]
  rw [sends] at result
  cases posted : t.posted with
  | false =>
      rw [posted] at result
      exact .inl ⟨fails.mpr posted, result⟩
  | true =>
      rw [posted] at result
      exact .inr ⟨_, by rw [fails, posted]; simp, sending_write sending rfl, result, .inr rfl⟩

/-- A turn with a send buffer: it fails, or the loop goes on, or the call returns. -/
theorem turn_cases (sending : Sending data s)
    (registered : s.ctx.txOffset < s.ctx.txLength → s.ctx.sendMr ≠ none) :
    (s.Fails t ∧ s.turn data t = .error .failed) ∨ ∃ next, Continues data s t next := by
  rcases sending.windowed.offset.eq_or_lt with empty | some
  · exact turn_wait sending empty
  · exact turn_send sending some (registered some)

/-- Without a send buffer, a turn copies the data to `NULL`. -/
theorem turn_noSendBuffer (some : s.ctx.txOffset < s.ctx.txLength)
    (none : s.ctx.sendMr = none) : s.turn data t = .error .noSendBuffer := by
  have fits : ((data.drop s.wrote).take (min s.ctx.space (data.length - s.wrote))).length ≤
      s.ctx.txLength := by
    unfold TxContext.space
    rw [List.length_take, List.length_drop]
    omega
  have sends := connRdmaSend_none fits none t.posted
  unfold turn
  rw [if_neg (by omega), if_neg (by omega)]
  dsimp only
  rw [sends]
  rfl

theorem loopEnd_cases (data : Bytes) (s : Writing) :
    (s.wrote < data.length ∧ s.loopEnd data = .ok s) ∨
      (data.length ≤ s.wrote ∧ s.loopEnd data = .error (.returned s.posts)) := by
  unfold loopEnd
  by_cases more : s.wrote < data.length
  · exact .inl ⟨more, if_pos more⟩
  · exact .inr ⟨Nat.le_of_not_lt more, if_neg more⟩

theorem Sending.wrote_lt (sending : Sending data s) : s.wrote < 2 ^ 32 := by
  rw [sending.wrote]
  exact Nat.mod_lt _ (by decide)

/-- The call returns when as much has been written as there is. -/
theorem Continues.returned {next : Writing} (continues : Continues data s t next)
    (whole : data.length ≤ next.wrote) : payloads next.posts = data := by
  have below := continues.sending.wrote_lt
  have wrote := continues.sending.wrote
  obtain ⟨bound, same⟩ := continues.sending.written (by omega)
  rw [Nat.mod_eq_of_lt (by omega)] at wrote
  rw [same, List.take_of_length_le (by omega)]

/-- The loop goes on only if less space has been offered. -/
theorem Continues.offered_lt {next : Writing} (sending : Sending data s)
    (continues : Continues data s t next) (short : data.length < 2 ^ 32)
    (more : next.wrote < data.length) : s.offered < data.length := by
  have bound := (sending.written short).1
  have wrote := sending.wrote
  have offered := sending.offered
  rw [Nat.mod_eq_of_lt (by omega)] at wrote
  rcases continues.progress with ⟨same, none⟩ | progress
  · omega
  · rw [Nat.mod_eq_of_lt (by omega)] at progress
    omega

/-- A turn that is supplied goes wrong nowhere. -/
theorem transmits_of_supplied (sending : Sending data s) (supplied : Supplied data s t) :
    Transmits data s t := by
  rcases turn_cases sending supplied.1 with ⟨_, failed⟩ | ⟨next, continues⟩
  · refine ⟨⟨by rw [failed]; simp, by rw [failed]; simp⟩, ?_, ?_, ?_⟩
    · intro next taken
      cases failed.symm.trans taken
    · intro posts taken
      cases failed.symm.trans taken
    · intro _ next taken
      cases failed.symm.trans taken
  · rcases loopEnd_cases data next with ⟨more, goesOn⟩ | ⟨whole, returns⟩
    · have result := continues.result.trans goesOn
      refine ⟨⟨by rw [result]; simp, by rw [result]; simp⟩, ?_, ?_, ?_⟩
      · intro other same
        cases result.symm.trans same
        exact continues.sending.inside
      · intro posts same
        cases result.symm.trans same
      · intro enough
        have less : s.offered < data.length := by
          rcases supplied.2 with short | less | fails
          · exact continues.offered_lt sending short more
          · exact less
          · exact absurd fails continues.fine
        omega
    · have result := continues.result.trans returns
      refine ⟨⟨by rw [result]; simp, by rw [result]; simp⟩, ?_, ?_, ?_⟩
      · intro other same
        cases result.symm.trans same
      · intro posts same
        cases result.symm.trans same
        exact ⟨continues.sending.inside, continues.returned whole⟩
      · intro _ other same
        cases result.symm.trans same

theorem supplied_of_transmits (sending : Sending data s) (transmits : Transmits data s t) :
    Supplied data s t := by
  have registered : s.ctx.txOffset < s.ctx.txLength → s.ctx.sendMr ≠ none :=
    fun some none => transmits.noFault.1 (turn_noSendBuffer some none)
  refine ⟨registered, ?_⟩
  by_contra neither
  rw [not_or, not_or, Nat.not_lt, Nat.not_lt] at neither
  obtain ⟨long, enough, fine⟩ := neither
  rcases turn_cases sending registered with ⟨fails, _⟩ | ⟨next, continues⟩
  · exact fine fails
  · rcases loopEnd_cases data next with ⟨_, goesOn⟩ | ⟨whole, _⟩
    · exact transmits.ends enough next (continues.result.trans goesOn)
    · have below := continues.sending.wrote_lt
      omega

theorem sending_turn (sending : Sending data s) (supplied : Supplied data s t) {next : Writing}
    (taken : s.turn data t = .ok next) : Sending data next := by
  rcases turn_cases sending supplied.1 with ⟨_, failed⟩ | ⟨last, continues⟩
  · cases failed.symm.trans taken
  · rcases loopEnd_cases data last with ⟨_, goesOn⟩ | ⟨_, returns⟩
    · cases (continues.result.trans goesOn).symm.trans taken
      exact continues.sending
    · cases (continues.result.trans returns).symm.trans taken

end Turns

/-- Something holds of every turn of a call. -/
def Throughout (data : Bytes) (ctx : TxContext) (first : WaitOutcome)
    (holds : Writing → Turn → Prop) (turns : List Turn) : Prop :=
  match first with
  | .completions completions =>
      Always (turn data) holds (start (ctx.connRdmaHandleCq completions)) turns
  | .fails | .timedOut => True

/-- A call that returns has written the data. -/
theorem written_of_transmits {data : Bytes} {ctx : TxContext} {first : WaitOutcome}
    {turns : List Turn} (transmits : Throughout data ctx first (Transmits data) turns)
    {posts : List Post}
    (returned : valkeyRdmaWrite data ctx first turns = .error (.returned posts)) :
    (∀ post ∈ posts, post.Inside) ∧ payloads posts = data := by
  cases first with
  | completions completions =>
      obtain ⟨s, t, here, stopped⟩ := Always.stopped (turn data) transmits returned
      exact here.returns posts stopped
  | fails => cases returned
  | timedOut => cases returned

/-- No turn of a call goes wrong if and only if every window that is written to has a send buffer
and the loop does not go on after as much as the data, and at least `2 ^ 32` bytes, has been
offered. Then a call that returns has written the data. -/
theorem write_transmits_iff {ctx : TxContext} (windowed : Windowed ctx) (data : Bytes)
    (first : WaitOutcome) (turns : List Turn) :
    (Throughout data ctx first (Transmits data) turns ↔
        Throughout data ctx first (Supplied data) turns) ∧
      (Throughout data ctx first (Supplied data) turns → ∀ posts,
        valkeyRdmaWrite data ctx first turns = .error (.returned posts) →
          (∀ post ∈ posts, post.Inside) ∧ payloads posts = data) := by
  have same : Throughout data ctx first (Transmits data) turns ↔
      Throughout data ctx first (Supplied data) turns := by
    cases first with
    | completions completions =>
        have initial := sending_start (windowed_handleCq windowed completions) data
        apply always_iff (turn data) _ _ turns initial
        · intro s t sending
          exact ⟨supplied_of_transmits sending, transmits_of_supplied sending⟩
        · intro s t next sending supplied taken
          exact sending_turn sending supplied taken
    | fails => exact Iff.rfl
    | timedOut => exact Iff.rfl
  exact ⟨same, fun supplied posts returned => written_of_transmits (same.mpr supplied) returned⟩

theorem write_transmits_one :
    Throughout (ascii "PING") .new (.completions [.registerXferMemory 4096 true])
      (Transmits (ascii "PING")) [⟨.fails, true⟩] := by
  apply (write_transmits_iff windowed_new (ascii "PING") _ _).1.mpr
  refine ⟨⟨fun _ => by decide, .inl (by decide)⟩, ?_⟩
  intro next taken
  cases taken

/-- There is no memory for the send buffer of a window, and the data is copied to `NULL`. -/
theorem write_without_buffer :
    ¬Throughout (ascii "PING") .new (.completions [.registerXferMemory 4096 false])
      (Transmits (ascii "PING")) [⟨.fails, true⟩] :=
  fun transmits => transmits.1.noFault.1 rfl

end Writing

end Libvalkey.Rdma
