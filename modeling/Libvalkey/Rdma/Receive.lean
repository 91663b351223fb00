import Libvalkey.Rdma.Transmit

/-! # Reading from the receive buffer

`rdma.c` and `valkeyBufferRead`: the server writes into the registered receive buffer, and the
client hands the bytes to the reader whose completions it has polled. -/

namespace Libvalkey.Rdma

open Checked Runs

/-! ## The client and the server -/

/-- `VALKEY_RDMA_DEFAULT_RX_LEN` -/
def defaultRxLen : Nat := 1024 * 1024

/-- The part of `RdmaContext` that is about receiving. -/
structure RxContext where
  rxOffset : Nat
  recvLength : Nat
  recvOffset : Nat
  deriving DecidableEq, Repr

/-- An assertion of the client fails. -/
inductive RxFault
  | assertion
  deriving DecidableEq, Repr

namespace RxContext

def Ordered (ctx : RxContext) : Prop :=
  ctx.recvOffset ≤ ctx.rxOffset ∧ ctx.rxOffset ≤ ctx.recvLength

def connRdmaHandleRecvImm (ctx : RxContext) (length : Nat) : Except RxFault RxContext :=
  if (length + ctx.rxOffset) % 2 ^ 32 ≤ ctx.recvLength then
    .ok { ctx with rxOffset := (ctx.rxOffset + length) % 2 ^ 32 }
  else .error .assertion

def handleCompletion (ctx : RxContext) : Completion → Except RxFault RxContext
  | .recvImm length => ctx.connRdmaHandleRecvImm length
  | .registerXferMemory _ _ | .keepalive | .rdmaWrite | .send => .ok ctx

def connRdmaHandleCq (ctx : RxContext) (completions : List Completion) : Except RxFault RxContext :=
  completions.foldlM handleCompletion ctx

end RxContext

/-- A client and its server. `cq` are the completions that have not been polled. The server has
written `serverOffset` bytes of the window that it knows, and `written` in all. `delivered` is
what the reader got, and `registrations` counts the calls of `connRdmaRegisterRx` after the
first. -/
structure Receiving where
  ctx : RxContext
  err : Bool
  recvBuf : Bytes
  cq : List Completion
  serverOffset : Nat
  written : Bytes
  delivered : Bytes
  registrations : Nat

/-- What the server does: it writes, or something else completes. -/
inductive ServerEvent
  | write (bytes : Bytes)
  | completes (completion : Completion)

/-- A call of `valkeyRdmaWaitEvent`: what the server does before, how many completions are
polled, and whether the call fails after them, and with an error of the context. -/
structure Wait where
  arrives : List ServerEvent
  polls : Nat
  fails : Bool
  setsError : Bool

namespace Receiving

/-- A connection whose receive buffer has just been registered. -/
def new : Receiving where
  ctx := { rxOffset := 0, recvLength := defaultRxLen, recvOffset := 0 }
  err := false
  recvBuf := List.replicate defaultRxLen 0
  cq := []
  serverOffset := 0
  written := []
  delivered := []
  registrations := 0

/-- Bytes are stored at a position. -/
def store (memory : Bytes) (offset : Nat) (bytes : Bytes) : Bytes :=
  memory.take offset ++ bytes ++ memory.drop (offset + bytes.length)

/-- The server does not write beyond its window, and only its writes complete with data. -/
def serverStep (s : Receiving) : ServerEvent → Receiving
  | .write bytes =>
      if s.serverOffset + bytes.length ≤ s.ctx.recvLength then
        { s with
          recvBuf := store s.recvBuf s.serverOffset bytes
          cq := s.cq ++ [.recvImm bytes.length]
          serverOffset := s.serverOffset + bytes.length
          written := s.written ++ bytes }
      else s
  | .completes completion =>
      match completion with
      | .recvImm _ => s
      | .registerXferMemory _ _ | .keepalive | .rdmaWrite | .send =>
          { s with cq := s.cq ++ [completion] }

def valkeyRdmaWaitEvent (s : Receiving) (wait : Wait) : Except RxFault (Status × Receiving) := do
  let s := wait.arrives.foldl serverStep s
  let ctx ← s.ctx.connRdmaHandleCq (s.cq.take wait.polls)
  let s := { s with ctx := ctx, cq := s.cq.drop wait.polls }
  if wait.fails then return (.err, { s with err := s.err || wait.setsError })
  else return (.ok, s)

/-- The bytes whose completions have been polled, if there are any: where they begin and how many
they are. -/
def handOver (s : Receiving) : Option ((Nat × Nat) × Receiving) :=
  if s.ctx.recvOffset < s.ctx.rxOffset then
    let remained := s.ctx.rxOffset - s.ctx.recvOffset
    let buf := s.ctx.recvOffset
    some ((buf, remained), { s with ctx := { s.ctx with recvOffset := s.ctx.rxOffset } })
  else none

/-- The loop of `valkeyRdmaReadZC`. After the waits, the time is over. -/
def readFrom (s : Receiving) : List Wait → Except RxFault (Option (Nat × Nat) × Receiving)
  | [] =>
      match s.handOver with
      | some (chunk, s) => .ok (some chunk, s)
      | none => .ok (none, { s with err := true })
  | wait :: rest =>
      match s.handOver with
      | some (chunk, s) => .ok (some chunk, s)
      | none => do
          let (status, s) ← s.valkeyRdmaWaitEvent wait
          match status with
          | .err => return (none, s)
          | .ok => s.readFrom rest

def valkeyRdmaReadZC (s : Receiving) (first : Wait) (rest : List Wait) :
    Except RxFault (Option (Nat × Nat) × Receiving) := do
  let (status, s) ← s.valkeyRdmaWaitEvent first
  match status with
  | .err => return (none, s)
  | .ok => s.readFrom rest

/-- `sent` tells whether the command could be sent to the server, which then knows the window. -/
def connRdmaRegisterRx (s : Receiving) (sent : Bool) : Status × Receiving :=
  let s :=
    { s with
      ctx := { s.ctx with rxOffset := 0, recvOffset := 0 }
      registrations := s.registrations + 1 }
  if sent then (.ok, { s with serverOffset := 0 }) else (.err, { s with err := true })

def valkeyRdmaReadZCDone (s : Receiving) (sent : Bool) : Status × Receiving :=
  if s.ctx.recvOffset = s.ctx.recvLength then s.connRdmaRegisterRx sent else (.ok, s)

/-- The bytes that the reader copies. -/
def copied (s : Receiving) (chunk : Nat × Nat) : Bytes := (s.recvBuf.drop chunk.1).take chunk.2

end Receiving

/-- A call of `valkeyBufferRead`: the waits, what the server does before the reader copies the
bytes and before the buffer is given back, whether the reader accepts them, and whether a command
can be sent. -/
structure Read where
  first : Wait
  rest : List Wait
  copying : List ServerEvent
  finishing : List ServerEvent
  fed : Bool
  sent : Bool

namespace Receiving

def valkeyBufferRead (s : Receiving) (read : Read) : Except RxFault (Status × Receiving) := do
  if s.err then return (.err, s)
  else
    let (chunk, s) ← s.valkeyRdmaReadZC read.first read.rest
    match chunk with
    | none => return (.err, s)
    | some chunk =>
        let s := read.copying.foldl serverStep s
        if read.fed then
          let s := { s with delivered := s.delivered ++ s.copied chunk }
          let s := read.finishing.foldl serverStep s
          return s.valkeyRdmaReadZCDone read.sent
        else return (.err, { s with err := true })

/-- Something that the server does, a read, or a wait while the client writes. -/
inductive Event
  | server (event : ServerEvent)
  | bufferRead (read : Read)
  | writeWait (wait : Wait)

def step (s : Receiving) : Event → Except RxFault Receiving
  | .server event => .ok (s.serverStep event)
  | .bufferRead read => do
      let (_, s) ← s.valkeyBufferRead read
      return s
  | .writeWait wait => do
      if s.err then return s
      else
        let (_, s) ← s.valkeyRdmaWaitEvent wait
        return s

/-! ## What is kept -/

/-- The bytes that a completion announces. -/
def announced : Completion → Nat
  | .recvImm length => length
  | .registerXferMemory _ _ | .keepalive | .rdmaWrite | .send => 0

/-- The bytes whose completions have not been polled. -/
def inFlight (completions : List Completion) : Nat := (completions.map announced).sum

/-- The bytes that were written and not handed over are in the buffer. -/
structure Conserved (s : Receiving) : Prop where
  length : s.ctx.recvLength = defaultRxLen
  buffer : s.recvBuf.length = defaultRxLen
  order : s.ctx.recvOffset ≤ s.ctx.rxOffset
  pending : s.ctx.rxOffset + inFlight s.cq ≤ s.serverOffset
  inside : s.serverOffset ≤ defaultRxLen
  delivered : s.delivered <+: s.written
  remaining : s.err = false →
    s.ctx.rxOffset + inFlight s.cq = s.serverOffset ∧
      s.written = s.delivered ++ (s.recvBuf.take s.serverOffset).drop s.ctx.recvOffset ∧
        s.delivered.length = s.registrations * defaultRxLen + s.ctx.recvOffset

theorem inFlight_append (left right : List Completion) :
    inFlight (left ++ right) = inFlight left + inFlight right := by simp [inFlight]

theorem conserved_new : Conserved new where
  length := rfl
  buffer := List.length_replicate
  order := Nat.le_refl _
  pending := Nat.le_refl _
  inside := Nat.zero_le _
  delivered := List.prefix_refl _
  remaining := fun _ => ⟨rfl, rfl, by simp [new]⟩

section Steps

variable {s : Receiving}

theorem length_store {memory bytes : Bytes} {offset : Nat}
    (fits : offset + bytes.length ≤ memory.length) :
    (store memory offset bytes).length = memory.length := by
  unfold store
  simp
  omega

/-- What is stored after some bytes follows them. -/
theorem take_store {memory bytes : Bytes} {offset : Nat}
    (fits : offset + bytes.length ≤ memory.length) :
    (store memory offset bytes).take (offset + bytes.length) = memory.take offset ++ bytes := by
  have length : (memory.take offset ++ bytes).length = offset + bytes.length := by
    rw [List.length_append, List.length_take]
    omega
  unfold store
  rw [← length, List.take_left]

theorem conserved_serverStep (conserved : Conserved s) (event : ServerEvent) :
    Conserved (s.serverStep event) := by
  cases event with
  | write bytes =>
      unfold serverStep
      dsimp only
      split
      · rename_i fits
        obtain ⟨length, buffer, order, pending, inside, delivered, remaining⟩ := conserved
        have flight : inFlight (s.cq ++ [.recvImm bytes.length]) =
            inFlight s.cq + bytes.length := by
          rw [inFlight_append]
          rfl
        have room : s.serverOffset + bytes.length ≤ s.recvBuf.length := by omega
        refine ⟨length, ?_, order, ?_, ?_, ?_, fun fine => ?_⟩
        · rw [length_store room]
          exact buffer
        · dsimp only
          omega
        · dsimp only
          omega
        · exact delivered.trans (List.prefix_append _ _)
        · obtain ⟨all, written, count⟩ := remaining fine
          refine ⟨?_, ?_, count⟩
          · dsimp only
            omega
          · dsimp only
            rw [take_store room, List.drop_append_of_le_length, ← List.append_assoc, ← written]
            rw [List.length_take]
            omega
      · exact conserved
  | completes completion =>
      cases completion with
      | recvImm length => exact conserved
      | registerXferMemory length allocated | keepalive | rdmaWrite | send =>
          obtain ⟨length, buffer, order, pending, inside, delivered, remaining⟩ := conserved
          refine ⟨length, buffer, order, ?_, inside, delivered, fun fine => ?_⟩
          · unfold serverStep
            dsimp only
            rw [inFlight_append]
            exact pending
          · unfold serverStep
            dsimp only
            rw [inFlight_append]
            exact remaining fine

theorem conserved_server (conserved : Conserved s) (events : List ServerEvent) :
    Conserved (events.foldl serverStep s) := by
  induction events generalizing s with
  | nil => exact conserved
  | cons event rest induction => exact induction (conserved_serverStep conserved event)

/-- What belongs to the client is the same. -/
structure SameClient (s next : Receiving) : Prop where
  ctx : next.ctx = s.ctx
  err : next.err = s.err
  registrations : next.registrations = s.registrations

theorem sameClient_serverStep (event : ServerEvent) : SameClient s (s.serverStep event) := by
  cases event with
  | write bytes =>
      unfold serverStep
      dsimp only
      split
      · exact ⟨rfl, rfl, rfl⟩
      · exact ⟨rfl, rfl, rfl⟩
  | completes completion => cases completion <;> exact ⟨rfl, rfl, rfl⟩

theorem sameClient_server (events : List ServerEvent) :
    SameClient s (events.foldl serverStep s) := by
  induction events generalizing s with
  | nil => exact ⟨rfl, rfl, rfl⟩
  | cons event rest induction =>
      obtain ⟨ctx, err, registrations⟩ := @induction (s.serverStep event)
      have first := @sameClient_serverStep s event
      exact ⟨ctx.trans first.ctx, err.trans first.err, registrations.trans first.registrations⟩

theorem connRdmaHandleCq_eq {ctx : RxContext} (small : ctx.recvLength < 2 ^ 32)
    {completions : List Completion}
    (fits : ctx.rxOffset + inFlight completions ≤ ctx.recvLength) :
    ctx.connRdmaHandleCq completions =
      .ok { ctx with rxOffset := ctx.rxOffset + inFlight completions } := by
  induction completions generalizing ctx with
  | nil => rfl
  | cons completion rest induction =>
      have total : inFlight (completion :: rest) = announced completion + inFlight rest := by
        simp [inFlight]
      have here : ctx.handleCompletion completion =
          .ok { ctx with rxOffset := ctx.rxOffset + announced completion } := by
        cases completion with
        | recvImm length =>
            change inFlight (.recvImm length :: rest) = length + inFlight rest at total
            change ctx.connRdmaHandleRecvImm length =
              .ok { ctx with rxOffset := ctx.rxOffset + length }
            unfold RxContext.connRdmaHandleRecvImm
            rw [Nat.mod_eq_of_lt (by omega), Nat.mod_eq_of_lt (by omega)]
            exact if_pos (by omega)
        | registerXferMemory length allocated | keepalive | rdmaWrite | send => rfl
      have later := @induction { ctx with rxOffset := ctx.rxOffset + announced completion } small
        (by dsimp only; omega)
      unfold RxContext.connRdmaHandleCq at later ⊢
      rw [List.foldlM_cons, here, bind_ok, later, total, Nat.add_assoc]

/-- A call of `valkeyRdmaWaitEvent`. -/
structure Waited (s : Receiving) (result : Status × Receiving) : Prop where
  conserved : Conserved result.2
  registrations : result.2.registrations = s.registrations
  fine : result.1 = .ok → result.2.err = s.err

theorem waited (conserved : Conserved s) (wait : Wait) :
    Ensures (s.valkeyRdmaWaitEvent wait) (fun _ => False) (Waited s) := by
  have arrived := conserved_server conserved wait.arrives
  obtain ⟨-, sameErr, same⟩ := @sameClient_server s wait.arrives
  unfold valkeyRdmaWaitEvent
  generalize wait.arrives.foldl serverStep s = middle at arrived sameErr same
  obtain ⟨length, buffer, order, pending, inside, delivered, remaining⟩ := arrived
  have split : inFlight middle.cq =
      inFlight (middle.cq.take wait.polls) + inFlight (middle.cq.drop wait.polls) := by
    rw [← inFlight_append, List.take_append_drop]
  have small : middle.ctx.recvLength < 2 ^ 32 := length ▸ (by decide : defaultRxLen < 2 ^ 32)
  have polled := @connRdmaHandleCq_eq middle.ctx small (middle.cq.take wait.polls) (by omega)
  dsimp only
  rw [polled, bind_ok]
  have kept (err : Bool) (weaker : err = false → middle.err = false) : Conserved { middle with
      ctx := { middle.ctx with
        rxOffset := middle.ctx.rxOffset + inFlight (middle.cq.take wait.polls) }
      cq := middle.cq.drop wait.polls
      err := err } := by
    refine ⟨length, buffer, ?_, ?_, inside, delivered, fun fine => ?_⟩
    · dsimp only
      omega
    · dsimp only
      omega
    · obtain ⟨all, written, count⟩ := remaining (weaker fine)
      refine ⟨?_, written, count⟩
      dsimp only
      omega
  split
  · refine ⟨kept _ fun fine => ?_, same, fun impossible => (nomatch impossible)⟩
    exact (Bool.or_eq_false_iff.mp fine).1
  · exact ⟨kept _ id, same, fun _ => sameErr⟩

/-- A chunk has been taken from the buffer, and the reader has not copied it. -/
structure Handed (s : Receiving) (chunk : Nat × Nat) : Prop where
  conserved : Conserved { s with ctx := { s.ctx with recvOffset := chunk.1 } }
  fine : s.err = false
  reaches : chunk.1 + chunk.2 = s.ctx.recvOffset
  all : s.ctx.recvOffset = s.ctx.rxOffset

theorem serverStep_recvOffset (offset : Nat) (event : ServerEvent) :
    ({ s with ctx := { s.ctx with recvOffset := offset } } : Receiving).serverStep event =
      { s.serverStep event with ctx := { s.ctx with recvOffset := offset } } := by
  cases event with
  | write bytes =>
      unfold serverStep
      dsimp only
      split
      · rfl
      · rfl
  | completes completion => cases completion <;> rfl

/-- The server does not write where the chunk is. -/
theorem handed_server {chunk : Nat × Nat} (handed : Handed s chunk) (events : List ServerEvent) :
    Handed (events.foldl serverStep s) chunk := by
  induction events generalizing s with
  | nil => exact handed
  | cons event rest induction =>
      obtain ⟨conserved, fine, reaches, all⟩ := handed
      have same := @sameClient_serverStep s event
      refine induction ⟨?_, same.err.trans fine, ?_, ?_⟩
      · rw [same.ctx, ← serverStep_recvOffset]
        exact conserved_serverStep conserved event
      · rw [same.ctx]
        exact reaches
      · rw [same.ctx]
        exact all

theorem handed_handOver (conserved : Conserved s) (fine : s.err = false) {chunk : Nat × Nat}
    {next : Receiving} (taken : s.handOver = some (chunk, next)) : Handed next chunk := by
  unfold handOver at taken
  split at taken
  · rename_i some
    cases taken
    refine ⟨conserved, fine, ?_, rfl⟩
    dsimp only
    omega
  · cases taken

/-- The copy leaves what follows the chunk. -/
theorem conserved_copied {chunk : Nat × Nat} (handed : Handed s chunk) :
    Conserved { s with delivered := s.delivered ++ s.copied chunk } := by
  obtain ⟨⟨length, buffer, order, pending, inside, delivered, remaining⟩, fine, reaches, all⟩ :=
    handed
  obtain ⟨polled, written, count⟩ := remaining fine
  dsimp only at length buffer order pending inside delivered polled written count
  have window : (s.recvBuf.take s.serverOffset).drop chunk.1 =
      s.copied chunk ++ (s.recvBuf.take s.serverOffset).drop s.ctx.recvOffset := by
    rw [← reaches, ← List.drop_drop, copied]
    conv_lhs => rw [← List.take_append_drop chunk.2 ((s.recvBuf.take s.serverOffset).drop chunk.1)]
    rw [List.drop_take, List.take_take, Nat.min_eq_left (by omega)]
  have size : (s.copied chunk).length = chunk.2 := by
    rw [copied, List.length_take, List.length_drop]
    omega
  rw [window, ← List.append_assoc] at written
  refine ⟨length, buffer, Nat.le_of_eq all, pending, inside, ?_, fun _ => ⟨polled, written, ?_⟩⟩
  · exact written ▸ List.prefix_append _ _
  · rw [List.length_append, count, size]
    dsimp only
    omega

/-- What `valkeyRdmaReadZC` gives. -/
structure Reads (s : Receiving) (result : Option (Nat × Nat) × Receiving) : Prop where
  registrations : result.2.registrations = s.registrations
  nothing : result.1 = none → Conserved result.2
  chunk : ∀ chunk, result.1 = some chunk → Handed result.2 chunk

theorem reads_none {next : Receiving} (same : next.registrations = s.registrations)
    (conserved : Conserved next) : Reads s (none, next) :=
  ⟨same, fun _ => conserved, fun _ impossible => nomatch impossible⟩

theorem reads_handOver (conserved : Conserved s) (fine : s.err = false) {chunk : Nat × Nat}
    {next : Receiving} (taken : s.handOver = some (chunk, next)) : Reads s (some chunk, next) := by
  refine ⟨?_, fun impossible => (nomatch impossible), fun other same => ?_⟩
  · unfold handOver at taken
    split at taken
    · cases taken
      rfl
    · cases taken
  · cases same
    exact handed_handOver conserved fine taken

theorem conserved_error (conserved : Conserved s) : Conserved { s with err := true } :=
  ⟨conserved.length, conserved.buffer, conserved.order, conserved.pending, conserved.inside,
    conserved.delivered, fun impossible => (nomatch impossible)⟩

/-- By induction on the waits. A wait that succeeds sets no error. -/
theorem reads_readFrom (conserved : Conserved s) (fine : s.err = false) (waits : List Wait) :
    Ensures (s.readFrom waits) (fun _ => False) (Reads s) := by
  induction waits generalizing s with
  | nil =>
      unfold readFrom
      cases taken : s.handOver with
      | some pair => exact reads_handOver conserved fine taken
      | none => exact reads_none rfl (conserved_error conserved)
  | cons wait rest induction =>
      unfold readFrom
      cases taken : s.handOver with
      | some pair => exact reads_handOver conserved fine taken
      | none =>
          refine (waited conserved wait).bind fun result after => ?_
          obtain ⟨status, middle⟩ := result
          cases status with
          | err => exact reads_none after.registrations after.conserved
          | ok =>
              refine (induction after.conserved ((after.fine rfl).trans fine)).mono
                fun result read => ?_
              exact ⟨read.registrations.trans after.registrations, read.nothing, read.chunk⟩

theorem reads_valkeyRdmaReadZC (conserved : Conserved s) (fine : s.err = false) (first : Wait)
    (rest : List Wait) :
    Ensures (s.valkeyRdmaReadZC first rest) (fun _ => False) (Reads s) := by
  refine (waited conserved first).bind fun result after => ?_
  obtain ⟨status, middle⟩ := result
  cases status with
  | err => exact reads_none after.registrations after.conserved
  | ok =>
      refine (reads_readFrom after.conserved ((after.fine rfl).trans fine) rest).mono
        fun result read => ?_
      exact ⟨read.registrations.trans after.registrations, read.nothing, read.chunk⟩

/-- The buffer is registered again only when all of its bytes have been delivered. -/
def Registers (s next : Receiving) : Prop :=
  next.registrations = s.registrations ∨
    next.registrations = s.registrations + 1 ∧ next.delivered = next.written ∧
      next.delivered.length = next.registrations * defaultRxLen

theorem registers_valkeyRdmaReadZCDone (conserved : Conserved s) (fine : s.err = false)
    (all : s.ctx.recvOffset = s.ctx.rxOffset) (sent : Bool) :
    Conserved (s.valkeyRdmaReadZCDone sent).2 ∧ Registers s (s.valkeyRdmaReadZCDone sent).2 ∧
      ((s.valkeyRdmaReadZCDone sent).1 = .ok →
        (s.valkeyRdmaReadZCDone sent).2.err = false ∧
          (s.valkeyRdmaReadZCDone sent).2.ctx.recvOffset =
            (s.valkeyRdmaReadZCDone sent).2.ctx.rxOffset) := by
  unfold valkeyRdmaReadZCDone
  split
  · rename_i full
    obtain ⟨length, buffer, order, pending, inside, delivered, remaining⟩ := conserved
    obtain ⟨polled, written, count⟩ := remaining fine
    have nothing : inFlight s.cq = 0 := by omega
    have everything : s.written = s.delivered := by
      rw [written, List.drop_eq_nil_of_le, List.append_nil]
      rw [List.length_take]
      omega
    have size : s.delivered.length = (s.registrations + 1) * defaultRxLen := by
      rw [count, full, length, Nat.succ_mul]
    have registers (err : Bool) (offset : Nat) : Registers s { s with
        ctx := { s.ctx with rxOffset := 0, recvOffset := 0 }
        registrations := s.registrations + 1
        err := err
        serverOffset := offset } := .inr ⟨rfl, everything.symm, size⟩
    have reset : s.written = s.delivered ++ (s.recvBuf.take 0).drop 0 := by
      rw [everything, List.take_zero, List.drop_zero, List.append_nil]
    unfold connRdmaRegisterRx
    cases sent with
    | true =>
        refine ⟨⟨length, buffer, Nat.le_refl _, ?_, Nat.zero_le _, delivered, fun _ => ?_⟩,
          registers _ _, fun _ => ⟨fine, rfl⟩⟩
        · change 0 + inFlight s.cq ≤ 0
          omega
        · refine ⟨?_, reset, size.trans (Nat.add_zero _).symm⟩
          change 0 + inFlight s.cq = 0
          omega
    | false =>
        refine ⟨⟨length, buffer, Nat.le_refl _, ?_, inside, delivered,
          fun impossible => (nomatch impossible)⟩, registers _ _,
          fun impossible => (nomatch impossible)⟩
        change 0 + inFlight s.cq ≤ s.serverOffset
        omega
  · exact ⟨conserved, .inl rfl, fun _ => ⟨fine, all⟩⟩

/-- What a read keeps, and what one that succeeds has done. -/
structure Finished (s : Receiving) (result : Status × Receiving) : Prop where
  conserved : Conserved result.2
  registers : Registers s result.2
  succeeds : result.1 = .ok →
    result.2.err = false ∧ result.2.ctx.recvOffset = result.2.ctx.rxOffset

theorem finished_valkeyBufferRead (conserved : Conserved s) (read : Read) :
    Ensures (s.valkeyBufferRead read) (fun _ => False) (Finished s) := by
  unfold valkeyBufferRead
  split
  · exact ⟨conserved, .inl rfl, fun impossible => (nomatch impossible)⟩
  · rename_i errorless
    have fine : s.err = false := Bool.eq_false_of_not_eq_true errorless
    refine (reads_valkeyRdmaReadZC conserved fine read.first read.rest).bind fun result reads => ?_
    obtain ⟨chunk, middle⟩ := result
    cases chunk with
    | none =>
        exact ⟨reads.nothing rfl, .inl reads.registrations, fun impossible => (nomatch impossible)⟩
    | some chunk =>
        have handed := handed_server (reads.chunk chunk rfl) read.copying
        have same := @sameClient_server middle read.copying
        dsimp only
        generalize read.copying.foldl serverStep middle = copying at handed same
        have registrations := same.registrations.trans reads.registrations
        split
        · have after := conserved_server (conserved_copied handed) read.finishing
          have last := @sameClient_server
            { copying with delivered := copying.delivered ++ copying.copied chunk } read.finishing
          generalize List.foldl serverStep
            { copying with delivered := copying.delivered ++ copying.copied chunk } read.finishing =
              finishing at after last
          have all : finishing.ctx.recvOffset = finishing.ctx.rxOffset := by
            rw [last.ctx]
            exact handed.all
          obtain ⟨kept, registers, succeeds⟩ := registers_valkeyRdmaReadZCDone after
            (last.err.trans handed.fine) all read.sent
          refine ⟨kept, ?_, succeeds⟩
          have before := last.registrations.trans registrations
          unfold Registers at registers ⊢
          rw [before] at registers
          exact registers
        · have aside := conserved_error handed.conserved
          refine ⟨⟨aside.length, aside.buffer, ?_, aside.pending, aside.inside, aside.delivered,
            fun impossible => (nomatch impossible)⟩, .inl registrations,
            fun impossible => (nomatch impossible)⟩
          exact Nat.le_of_eq handed.all

theorem conserved_step (conserved : Conserved s) (event : Event) :
    Ensures (step s event) (fun _ => False) fun next => Conserved next ∧ Registers s next := by
  cases event with
  | server event =>
      exact ⟨conserved_serverStep conserved event, .inl (sameClient_serverStep event).registrations⟩
  | bufferRead read =>
      refine (finished_valkeyBufferRead conserved read).bind fun result finished => ?_
      exact ⟨finished.conserved, finished.registers⟩
  | writeWait wait =>
      unfold step
      dsimp only
      split
      · exact ⟨conserved, .inl rfl⟩
      · refine (waited conserved wait).bind fun result after => ?_
        exact ⟨after.conserved, .inl after.registrations⟩

end Steps

/-! ## Runs -/

/-- The bytes of which the client knows. -/
def received (s : Receiving) : Nat := s.registrations * defaultRxLen + s.ctx.rxOffset

/-- The offsets are ordered, every byte is either delivered, in order, or in the buffer, and the
buffer is not registered again too early. -/
structure Keeps (s next : Receiving) : Prop where
  ordered : next.ctx.Ordered
  delivered : next.delivered <+: next.written
  remaining : next.err = false →
    next.written = next.delivered ++ (next.recvBuf.take next.serverOffset).drop next.ctx.recvOffset
  registers : Registers s next

/-- What an event does to a connection. A read that succeeds has delivered everything that the
client knows. -/
structure InOrder (s : Receiving) (event : Event) : Prop where
  before : s.ctx.Ordered
  keeps : ∃ next, step s event = .ok next ∧ Keeps s next
  between : ∀ read chunk middle arrives, event = .bufferRead read → s.err = false →
    s.valkeyRdmaReadZC read.first read.rest = .ok (chunk, middle) →
      (List.foldl serverStep middle arrives).ctx.Ordered
  delivers : ∀ read next, event = .bufferRead read → s.valkeyBufferRead read = .ok (.ok, next) →
    next.delivered = next.written.take next.received

section Runs

variable {s : Receiving}

theorem Conserved.ordered (conserved : Conserved s) : s.ctx.Ordered := by
  obtain ⟨length, -, order, pending, inside, -, -⟩ := conserved
  refine ⟨order, ?_⟩
  omega

theorem ordered_readZC (conserved : Conserved s) (fine : s.err = false) {first : Wait}
    {rest : List Wait} {chunk : Option (Nat × Nat)} {middle : Receiving}
    (result : s.valkeyRdmaReadZC first rest = .ok (chunk, middle)) : middle.ctx.Ordered := by
  have reads := (reads_valkeyRdmaReadZC conserved fine first rest).of_ok result
  cases chunk with
  | none => exact (reads.nothing rfl).ordered
  | some chunk =>
      obtain ⟨aside, -, -, all⟩ := reads.chunk chunk rfl
      exact ⟨Nat.le_of_eq all, aside.ordered.2⟩

theorem inOrder (conserved : Conserved s) (event : Event) : InOrder s event := by
  have stepped := conserved_step conserved event
  refine ⟨conserved.ordered, ?_, ?_, ?_⟩
  · cases taken : step s event with
    | ok next =>
        rw [taken] at stepped
        obtain ⟨after, registers⟩ := stepped
        exact ⟨next, rfl, after.ordered, after.delivered, fun fine => (after.remaining fine).2.1,
          registers⟩
    | error fault =>
        rw [taken] at stepped
        exact stepped.elim
  · intro read chunk middle arrives _ fine result
    rw [(sameClient_server arrives).ctx]
    exact ordered_readZC conserved fine result
  · intro read next _ result
    have finished := (finished_valkeyBufferRead conserved read).of_ok result
    obtain ⟨fine, all⟩ := finished.succeeds rfl
    obtain ⟨-, written, count⟩ := finished.conserved.remaining fine
    dsimp only at fine all written count
    rw [received, ← all, ← count, written, List.take_left]

end Runs

end Receiving

end Libvalkey.Rdma
