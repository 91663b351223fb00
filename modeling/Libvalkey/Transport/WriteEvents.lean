import Libvalkey.Foundation.Runs
import Libvalkey.Transport.Output

/-! # Write events of TLS connections

`tls.c`: the handlers of the read and the write event of an asynchronous connection, which share
the flags that tell what OpenSSL waits for. -/

namespace Libvalkey

open Runs OutputContext

/-! ## The handlers -/

/-- What an `SSL_read` comes to: bytes, a want, or an error. -/
inductive TlsReadOutcome
  | bytes
  | wantRead
  | wantWrite
  | fails
  deriving DecidableEq, Repr

/-- The failure that an `SSL_write` reports. -/
def WriteOutcome.failure : WriteOutcome → Option WriteFailure
  | .takes _ => none
  | .fails failure _ => some failure

/-- The part of `valkeyAsyncContext` that is about writing. `writing` is set by `_EL_ADD_WRITE`
and cleared by `_EL_DEL_WRITE`, and `latest` is what the latest `SSL_write` reported. -/
structure AsyncTls where
  c : OutputContext
  writing : Bool
  latest : Option WriteFailure

/-- The connection is gone. -/
inductive Disconnected
  | disconnected
  deriving DecidableEq, Repr

namespace AsyncTls

/-- A new connection. -/
def new : AsyncTls where
  c := newOutput false true
  writing := false
  latest := none

/-- A change of the flags. -/
def setTls (s : AsyncTls) (change : ValkeyTLS → ValkeyTLS) : AsyncTls :=
  { s with c := { s.c with privctx := s.c.privctx.map change } }

def wantRead (s : AsyncTls) : Bool := s.c.privctx.any (·.wantRead)

def pendingWrite (s : AsyncTls) : Bool := s.c.privctx.any (·.pendingWrite)

/-- `valkeyBufferWrite`, which calls `SSL_write` if there is something to write. -/
def bufferWrite (s : AsyncTls) (outcome : WriteOutcome) : Except Disconnected (Bool × AsyncTls) :=
  let latest := if s.c.obuf.length > 0 then outcome.failure else s.latest
  match s.c.valkeyBufferWrite outcome with
  | (.err, _, _) => .error .disconnected
  | (.ok, done, c) => .ok (done.getD false, { s with c := c, latest := latest })

/-- `valkeyBufferRead` with `valkeyTLSRead`. What is read goes to the reader. -/
def bufferRead (s : AsyncTls) (outcome : TlsReadOutcome) : Except Disconnected AsyncTls :=
  if s.c.err ≠ none then .error .disconnected
  else
    match outcome with
    | .bytes => .ok s
    | .wantRead => .ok (s.setTls fun tls => { tls with wantRead := true })
    | .wantWrite => .ok (s.setTls fun tls => { tls with pendingWrite := true })
    | .fails => .error .disconnected

/-- A command is appended, and a write is scheduled. -/
def asyncCommand (s : AsyncTls) (cmd : Bytes) : AsyncTls :=
  { s with c := (s.c.valkeyAppendCmdLen cmd).2, writing := true }

/-- The write that a read event makes up for. -/
def writePending (s : AsyncTls) (outcome : WriteOutcome) : Except Disconnected AsyncTls := do
  if s.pendingWrite then
    -- This is probably just a write event.
    let (done, s) ← (s.setTls fun tls => { tls with pendingWrite := false }).bufferWrite outcome
    if done then return s
    else return { s with writing := true }
  else return s

/-- `valkeyTLSAsyncRead`. The callbacks append commands. -/
def valkeyTLSAsyncRead (s : AsyncTls) (write : WriteOutcome) (read : TlsReadOutcome)
    (callbacks : List Bytes) : Except Disconnected AsyncTls := do
  let s ← (s.setTls fun tls => { tls with wantRead := false }).writePending write
  let s ← s.bufferRead read
  return callbacks.foldl asyncCommand s

def valkeyTLSAsyncWrite (s : AsyncTls) (outcome : WriteOutcome) :
    Except Disconnected AsyncTls := do
  let (done, s) ← (s.setTls fun tls => { tls with pendingWrite := false }).bufferWrite outcome
  if done then return { s with writing := false }
  else if s.wantRead then
    -- Need to read before the write.
    return { s.setTls fun tls => { tls with pendingWrite := true } with writing := false }
  else return { s with writing := true }

/-- A command of the user, or an event of the loop. -/
inductive Event
  | command (cmd : Bytes)
  | read (write : WriteOutcome) (read : TlsReadOutcome) (callbacks : List Bytes)
  | write (outcome : WriteOutcome)

def step (s : AsyncTls) : Event → Except Disconnected AsyncTls
  | .command cmd => .ok (s.asyncCommand cmd)
  | .read write read callbacks => s.valkeyTLSAsyncRead write read callbacks
  | .write outcome => s.valkeyTLSAsyncWrite outcome

/-! ## What is scheduled -/

/-- Output waits for a write event, or for the read that the latest `SSL_write` asked for. -/
def Scheduled (s : AsyncTls) : Prop :=
  s.c.obuf ≠ [] → s.writing = true ∨ s.latest = some .wantRead

/-- The `SSL_write` does not take all of the output, or it waits until the socket is writable. -/
def Leaves (c : OutputContext) (tls : ValkeyTLS) : WriteOutcome → Prop
  | .takes count => min count (toInt32 (c.offeredLength tls)).toNat < c.obuf.length
  | .fails .wantWrite _ => c.obuf ≠ []
  | .fails _ _ => False

/-- A write event that begins with `wantRead` set takes all of the output. -/
def Unhindered (s : AsyncTls) : Event → Prop
  | .write outcome => s.c.err = none → ∀ tls, s.c.privctx = some tls → tls.wantRead = true →
      ¬Leaves s.c tls outcome
  | .command _ | .read _ _ _ => True

/-- An open connection. -/
structure Open (s : AsyncTls) : Prop where
  conserved : Conserved s.c
  blocking : s.c.blocking = false
  tls : ∃ tls, s.c.privctx = some tls

/-- Where no write event will come, a read event writes. -/
structure Waiting (s : AsyncTls) : Prop where
  isOpen : Open s
  scheduled : s.c.obuf ≠ [] → s.writing = true ∨ s.latest = some .wantRead ∧ s.pendingWrite = true

/-! ## What a write comes to -/

section Writing

variable {c : OutputContext} {tls : ValkeyTLS}

/-- The flags after a write that does not fail. -/
structure TlsWritten (c : OutputContext) (tls : ValkeyTLS) (outcome : WriteOutcome)
    (result : Status × Option Bool × OutputContext) : Prop where
  blocking : result.2.2.blocking = c.blocking
  flags : result.1 = .ok → ∃ next, result.2.2.privctx = some next ∧
    (next.wantRead = true ↔
      tls.wantRead = true ∨ c.obuf ≠ [] ∧ outcome.failure = some .wantRead)
  left : result.1 = .ok ∧ result.2.2.obuf ≠ [] ↔
    c.err = none ∧ c.obuf ≠ [] ∧ (outcome.failure = some .wantRead ∨ Leaves c tls outcome)

/-- The bytes that an `SSL_write` takes. -/
def takenBytes (c : OutputContext) (tls : ValkeyTLS) (count : Nat) : Nat :=
  min count (toInt32 (c.offeredLength tls)).toNat

theorem valkeyTLSWrite_takes (privctx : c.privctx = some tls) (count : Nat) :
    ∃ next flags, c.valkeyTLSWrite tls (.takes count) = ((takenBytes c tls count : Int), next) ∧
      next.obuf = c.obuf ∧ next.blocking = c.blocking ∧ next.privctx = some flags ∧
        flags.wantRead = tls.wantRead := by
  unfold valkeyTLSWrite
  dsimp only
  split
  · exact ⟨_, { tls with lastLen := 0 }, rfl, rfl, rfl, rfl, rfl⟩
  · rename_i none
    have zero : takenBytes c tls count = 0 := Nat.eq_zero_of_not_pos none
    rw [zero]
    exact ⟨_, tls, rfl, rfl, rfl, privctx, rfl⟩

theorem valkeyTLSWrite_wants (blocking : c.blocking = false) {failure : WriteFailure}
    (wants : failure = .wantRead ∨ failure = .wantWrite) (error : ContextError) :
    ∃ next flags, c.valkeyTLSWrite tls (.fails failure error) = (((0 : Nat) : Int), next) ∧
      next.obuf = c.obuf ∧ next.blocking = c.blocking ∧ next.privctx = some flags ∧
        (flags.wantRead = true ↔ tls.wantRead = true ∨ failure = .wantRead) := by
  have nonblocking : ¬c.blocking = true := by simp [blocking]
  unfold valkeyTLSWrite
  rcases wants with rfl | rfl
  · dsimp only [maybeCheckWant]
    rw [if_neg nonblocking]
    exact ⟨_, _, rfl, rfl, rfl, rfl, by simp⟩
  · dsimp only [maybeCheckWant]
    rw [if_neg nonblocking]
    exact ⟨_, _, rfl, rfl, rfl, rfl, by simp⟩

theorem valkeyTLSWrite_fails {failure : WriteFailure}
    (other : ¬(failure = .wantRead ∨ failure = .wantWrite)) (error : ContextError) :
    ∃ next, c.valkeyTLSWrite tls (.fails failure error) = (-1, next) ∧
      next.blocking = c.blocking := by
  unfold valkeyTLSWrite
  cases failure with
  | wantRead => exact absurd (.inl rfl) other
  | wantWrite => exact absurd (.inr rfl) other
  | wouldBlock | interrupted | other => exact ⟨_, rfl, rfl⟩

/-- A write that does not fail drops what was taken. -/
theorem valkeyBufferWrite_of_write {next : OutputContext} {outcome : WriteOutcome} {count : Nat}
    (fine : c.err = none) (some : c.obuf ≠ []) (small : c.obuf.length ≤ ssizeMax)
    (write : c.write outcome = ((count : Int), next)) (obuf : next.obuf = c.obuf) :
    c.valkeyBufferWrite outcome = (.ok, Option.some (decide ((c.obuf.drop count).length = 0)),
      { next with obuf := c.obuf.drop count }) := by
  unfold OutputContext.valkeyBufferWrite
  rw [if_neg (not_not.mpr fine), if_pos (List.length_pos_of_ne_nil some), write]
  dsimp only
  rw [if_neg (by omega)]
  split
  · split
    · rename_i all
      have whole : count = c.obuf.length := by rw [← obuf]; exact_mod_cast all
      rw [whole, List.drop_length]
      rfl
    · rw [if_neg (by rw [obuf]; exact not_lt.mpr small), Int.toNat_natCast, obuf]
      rfl
  · rename_i none
    obtain rfl : count = 0 := by omega
    rw [List.drop_zero, ← obuf]
    rfl

theorem tlsWritten (privctx : c.privctx = some tls) (small : c.obuf.length ≤ ssizeMax)
    (blocking : c.blocking = false) (outcome : WriteOutcome) :
    TlsWritten c tls outcome (c.valkeyBufferWrite outcome) := by
  by_cases failed : c.err = none
  swap
  · unfold OutputContext.valkeyBufferWrite
    rw [if_pos failed]
    exact ⟨rfl, fun impossible => (by cases impossible), by simp [failed]⟩
  by_cases empty : c.obuf = []
  · unfold OutputContext.valkeyBufferWrite
    rw [if_neg (not_not.mpr failed), if_neg (by simp [empty])]
    exact ⟨rfl, fun _ => ⟨tls, privctx, by simp [empty]⟩, by simp [OutputContext.done, empty]⟩
  have dispatch : c.write outcome = c.valkeyTLSWrite tls outcome := by
    rw [OutputContext.write, privctx]
  cases outcome with
  | takes count =>
      obtain ⟨next, flags, result, obuf, same, privctx, kept⟩ := valkeyTLSWrite_takes privctx count
      rw [valkeyBufferWrite_of_write failed empty small (dispatch.trans result) obuf]
      refine ⟨same, fun _ => ⟨flags, privctx, by simp [kept, WriteOutcome.failure]⟩, ?_⟩
      have leaves : Leaves c tls (.takes count) ↔ takenBytes c tls count < c.obuf.length := Iff.rfl
      simp [WriteOutcome.failure, failed, empty, leaves]
  | fails failure error =>
      by_cases wants : failure = .wantRead ∨ failure = .wantWrite
      · obtain ⟨next, flags, result, obuf, same, privctx, kept⟩ :=
          @valkeyTLSWrite_wants c tls blocking failure wants error
        rw [valkeyBufferWrite_of_write failed empty small (dispatch.trans result) obuf]
        refine ⟨same, fun _ => ⟨flags, privctx, by simp [kept, empty, WriteOutcome.failure]⟩, ?_⟩
        rcases wants with rfl | rfl
        · simp [WriteOutcome.failure, failed, empty]
        · simp [WriteOutcome.failure, failed, empty, Leaves]
      · obtain ⟨next, result, same⟩ := @valkeyTLSWrite_fails c tls failure wants error
        unfold OutputContext.valkeyBufferWrite
        rw [if_neg (not_not.mpr failed), if_pos (List.length_pos_of_ne_nil empty), dispatch, result]
        refine ⟨same, fun impossible => (by cases impossible), ?_⟩
        constructor
        · rintro ⟨impossible, _⟩
          cases impossible
        · rintro ⟨_, _, reported | leaves⟩
          · exact absurd (.inl (Option.some.inj reported)) wants
          · cases failure with
            | wantWrite => exact absurd (.inr rfl) wants
            | wantRead | wouldBlock | interrupted | other => cases leaves

end Writing

/-! ## Along a run -/

variable {s next : AsyncTls}

theorem conserved_setTls (conserved : Conserved s.c) {change : ValkeyTLS → ValkeyTLS}
    (same : ∀ tls, (change tls).lastLen = tls.lastLen) : Conserved (s.setTls change).c := by
  obtain ⟨bytes, small, inside, repeats, again⟩ := conserved
  refine ⟨bytes, small, ?_, repeats, ?_⟩
  · intro changed member
    obtain ⟨tls, held, rfl⟩ := Option.map_eq_some_iff.mp member
    exact same tls ▸ inside tls held
  · intro changed member
    obtain ⟨tls, held, rfl⟩ := Option.map_eq_some_iff.mp member
    exact same tls ▸ again tls held

theorem Open.setTls (isOpen : Open s) {change : ValkeyTLS → ValkeyTLS}
    (same : ∀ tls, (change tls).lastLen = tls.lastLen) : Open (s.setTls change) := by
  obtain ⟨tls, held⟩ := isOpen.tls
  refine ⟨conserved_setTls isOpen.conserved same, isOpen.blocking, change tls, ?_⟩
  rw [AsyncTls.setTls, held]
  rfl

/-- What a call of `valkeyBufferWrite` does to an open connection. -/
structure Written (s : AsyncTls) (outcome : WriteOutcome) (done : Bool)
    (next : AsyncTls) : Prop where
  isOpen : Open next
  done : done = true ↔ next.c.obuf = []
  writing : next.writing = s.writing
  latest : s.c.obuf ≠ [] → next.latest = outcome.failure
  wantRead : next.wantRead = true ↔
    s.wantRead = true ∨ s.c.obuf ≠ [] ∧ outcome.failure = some .wantRead
  left : next.c.obuf ≠ [] → s.c.err = none ∧ s.c.obuf ≠ [] ∧
    (outcome.failure = some .wantRead ∨ ∀ tls, s.c.privctx = some tls → Leaves s.c tls outcome)

theorem bufferWrite_cases (isOpen : Open s) (outcome : WriteOutcome) :
    Checked.Ensures (s.bufferWrite outcome) (fun _ => True)
      fun result => Written s outcome result.1 result.2 := by
  obtain ⟨tls, held⟩ := isOpen.tls
  have written := tlsWritten held isOpen.conserved.small isOpen.blocking outcome
  have buffer := bufferWritten isOpen.conserved outcome
  unfold bufferWrite
  cases result : s.c.valkeyBufferWrite outcome with
  | mk status rest =>
      rw [result] at written buffer
      cases status with
      | err => trivial
      | ok =>
          obtain ⟨flags, privctx, wants⟩ := written.flags rfl
          have done := buffer.reported.done rfl
          refine ⟨⟨buffer.conserved, written.blocking.trans isOpen.blocking, flags, privctx⟩,
            ?_, rfl, ?_, ?_, ?_⟩
          · dsimp only at done ⊢
            rw [done]
            simp
          · intro some
            exact if_pos (List.length_pos_of_ne_nil some)
          · dsimp only [AsyncTls.wantRead] at privctx ⊢
            rw [privctx, held]
            exact wants
          · intro left
            obtain ⟨fine, some, why⟩ := written.left.mp ⟨rfl, left⟩
            refine ⟨fine, some, why.imp_right fun leaves other same => ?_⟩
            exact Option.some.inj (held.symm.trans same) ▸ leaves

/-- Output is left. -/
theorem bufferWrite_leaves (isOpen : Open s) (fine : s.c.err = none) {tls : ValkeyTLS}
    (held : s.c.privctx = some tls) {outcome : WriteOutcome} (leaves : Leaves s.c tls outcome) :
    ∃ next, s.bufferWrite outcome = .ok (false, next) ∧ next.c.obuf ≠ [] := by
  have some : s.c.obuf ≠ [] := by
    rintro empty
    cases outcome with
    | takes count => simp [Leaves, empty] at leaves
    | fails failure error =>
        cases failure with
        | wantWrite => exact leaves empty
        | wantRead | wouldBlock | interrupted | other => exact leaves
  have written := tlsWritten held isOpen.conserved.small isOpen.blocking outcome
  have buffer := bufferWritten isOpen.conserved outcome
  obtain ⟨ok, left⟩ := written.left.mpr ⟨fine, some, .inr leaves⟩
  have done := buffer.reported.done ok
  unfold bufferWrite
  cases result : s.c.valkeyBufferWrite outcome with
  | mk status rest =>
      rw [result] at ok left done
      obtain rfl : status = .ok := ok
      dsimp only at left done ⊢
      have undone : decide (rest.2.obuf = []) = false := by simpa using left
      rw [done, undone]
      exact ⟨_, rfl, left⟩

theorem leaves_setTls {tls : ValkeyTLS} {change : ValkeyTLS → ValkeyTLS}
    (same : (change tls).lastLen = tls.lastLen) (outcome : WriteOutcome) :
    Leaves (s.setTls change).c (change tls) outcome ↔ Leaves s.c tls outcome := by
  cases outcome with
  | takes count =>
      unfold Leaves offeredLength
      rw [same]
      rfl
  | fails failure error => cases failure <;> exact Iff.rfl

theorem wantRead_setTls {change : ValkeyTLS → ValkeyTLS}
    (same : ∀ tls, (change tls).wantRead = tls.wantRead) :
    (s.setTls change).wantRead = s.wantRead := by
  unfold AsyncTls.wantRead AsyncTls.setTls
  cases s.c.privctx with
  | none => rfl
  | some tls => exact same tls

/-- A write event. -/
theorem waiting_valkeyTLSAsyncWrite (waiting : Waiting s) {outcome : WriteOutcome}
    (unhindered : Unhindered s (.write outcome)) :
    Checked.Ensures (s.valkeyTLSAsyncWrite outcome) (fun _ => True) Waiting := by
  obtain ⟨tls, held⟩ := waiting.isOpen.tls
  let cleared : AsyncTls := s.setTls fun tls => { tls with pendingWrite := false }
  have isOpen : Open cleared := waiting.isOpen.setTls fun _ => rfl
  have same : cleared.wantRead = s.wantRead := wantRead_setTls fun _ => rfl
  have flags : cleared.c.privctx = some { tls with pendingWrite := false } := by
    rw [show cleared.c.privctx = s.c.privctx.map _ from rfl, held]
    rfl
  apply (bufferWrite_cases isOpen outcome).bind
  rintro ⟨done, middle⟩ written
  dsimp only at written ⊢
  obtain ⟨open', finished, _, latest, wantRead, left⟩ := written
  split
  · rename_i done
    refine ⟨⟨open'.conserved, open'.blocking, open'.tls⟩, fun some => ?_⟩
    exact absurd (finished.mp done) some
  rename_i unfinished
  obtain ⟨fine, some, why⟩ := left fun empty => unfinished (finished.mpr empty)
  split
  · rename_i wants
    -- The flag is not left over from before.
    have reported : outcome.failure = Option.some .wantRead := by
      rcases why with reported | leaves
      · exact reported
      rcases wantRead.mp wants with before | now
      · have set : tls.wantRead = true := by
          rw [same, AsyncTls.wantRead, held] at before
          exact before
        exact absurd ((leaves_setTls rfl outcome).mp (leaves _ flags))
          (unhindered fine tls held set)
      · exact now.2
    have kept := open'.setTls (fun _ => rfl : ∀ tls : ValkeyTLS,
      ({ tls with pendingWrite := true } : ValkeyTLS).lastLen = tls.lastLen)
    obtain ⟨flags, privctx⟩ := open'.tls
    refine ⟨⟨kept.conserved, kept.blocking, kept.tls⟩, fun _ => .inr ⟨?_, ?_⟩⟩
    · exact (latest some).trans reported
    · unfold AsyncTls.pendingWrite AsyncTls.setTls
      rw [privctx]
      rfl
  · exact ⟨⟨open'.conserved, open'.blocking, open'.tls⟩, fun _ => .inl rfl⟩

theorem waiting_writePending (waiting : Waiting s) (outcome : WriteOutcome) :
    Checked.Ensures (s.writePending outcome) (fun _ => True)
      fun next => Open next ∧ (next.c.obuf ≠ [] → next.writing = true) := by
  unfold writePending
  split
  · have isOpen : Open (s.setTls fun tls => { tls with pendingWrite := false }) :=
      waiting.isOpen.setTls fun _ => rfl
    apply (bufferWrite_cases isOpen outcome).bind
    rintro ⟨done, middle⟩ written
    obtain ⟨open', finished, _⟩ := written
    dsimp only at finished ⊢
    split
    · rename_i done
      exact ⟨open', fun left => absurd (finished.mp done) left⟩
    · exact ⟨⟨open'.conserved, open'.blocking, open'.tls⟩, fun _ => rfl⟩
  · rename_i none
    refine ⟨waiting.isOpen, fun some => (waiting.scheduled some).resolve_right ?_⟩
    exact fun both => none both.2

theorem open_bufferRead (isOpen : Open s) (outcome : TlsReadOutcome) :
    Checked.Ensures (s.bufferRead outcome) (fun _ => True)
      fun next => Open next ∧ next.c.obuf = s.c.obuf ∧ next.writing = s.writing := by
  unfold bufferRead
  split
  · trivial
  · cases outcome with
    | bytes => exact ⟨isOpen, rfl, rfl⟩
    | wantRead => exact ⟨isOpen.setTls fun _ => rfl, rfl, rfl⟩
    | wantWrite => exact ⟨isOpen.setTls fun _ => rfl, rfl, rfl⟩
    | fails => trivial

theorem waiting_asyncCommand (isOpen : Open s) (cmd : Bytes) : Waiting (s.asyncCommand cmd) := by
  have conserved := conserved_append isOpen.conserved cmd
  refine ⟨⟨conserved, ?_, ?_⟩, fun _ => .inl rfl⟩
  · unfold asyncCommand OutputContext.valkeyAppendCmdLen
    split
    · exact isOpen.blocking
    · exact isOpen.blocking
  · unfold asyncCommand OutputContext.valkeyAppendCmdLen
    split
    · exact isOpen.tls
    · exact isOpen.tls

theorem waiting_commands (waiting : Waiting s) (cmds : List Bytes) :
    Waiting (cmds.foldl asyncCommand s) := by
  induction cmds generalizing s with
  | nil => exact waiting
  | cons cmd rest induction => exact induction (waiting_asyncCommand waiting.isOpen cmd)

/-- A read event. -/
theorem waiting_valkeyTLSAsyncRead (waiting : Waiting s) (write : WriteOutcome)
    (read : TlsReadOutcome) (callbacks : List Bytes) :
    Checked.Ensures (s.valkeyTLSAsyncRead write read callbacks) (fun _ => True) Waiting := by
  have cleared : Waiting (s.setTls fun tls => { tls with wantRead := false }) := by
    refine ⟨waiting.isOpen.setTls fun _ => rfl, fun some => ?_⟩
    apply (waiting.scheduled some).imp_right
    rintro ⟨latest, pending⟩
    refine ⟨latest, ?_⟩
    obtain ⟨tls, held⟩ := waiting.isOpen.tls
    unfold AsyncTls.pendingWrite AsyncTls.setTls at *
    rw [held] at pending ⊢
    exact pending
  apply (waiting_writePending cleared write).bind
  rintro middle ⟨isOpen, writing⟩
  apply (open_bufferRead isOpen read).bind
  rintro last ⟨isOpen, obuf, same⟩
  apply waiting_commands
  refine ⟨isOpen, fun some => .inl ?_⟩
  rw [same]
  exact writing (obuf ▸ some)

theorem waiting_step (waiting : Waiting s) {event : Event} (unhindered : Unhindered s event) :
    Checked.Ensures (s.step event) (fun _ => True) Waiting := by
  cases event with
  | command cmd => exact waiting_asyncCommand waiting.isOpen cmd
  | read write read callbacks => exact waiting_valkeyTLSAsyncRead waiting write read callbacks
  | write outcome => exact waiting_valkeyTLSAsyncWrite waiting unhindered

theorem Waiting.schedules (waiting : Waiting s) : Scheduled s :=
  fun some => (waiting.scheduled some).imp_right And.left

/-- Where the flag is left over and not all is written, nothing is scheduled. -/
theorem unhindered_of_scheduled (waiting : Waiting s) {event : Event}
    (scheduled : ∀ next, s.step event = .ok next → Scheduled next) : Unhindered s event := by
  cases event with
  | command cmd => trivial
  | read write read callbacks => trivial
  | write outcome =>
      intro fine tls held set leaves
      let cleared : AsyncTls := s.setTls fun tls => { tls with pendingWrite := false }
      have isOpen : Open cleared := waiting.isOpen.setTls fun _ => rfl
      have flags : cleared.c.privctx = some { tls with pendingWrite := false } := by
        rw [show cleared.c.privctx = s.c.privctx.map _ from rfl, held]
        rfl
      obtain ⟨middle, result, some⟩ :=
        bufferWrite_leaves isOpen fine flags ((leaves_setTls rfl outcome).mpr leaves)
      have written := (bufferWrite_cases isOpen outcome).of_ok result
      have wants : middle.wantRead = true := by
        refine written.wantRead.mpr (.inl ?_)
        rw [AsyncTls.wantRead, flags]
        exact set
      have taken : s.step (.write outcome) =
          .ok { middle.setTls fun tls =>
            { tls with pendingWrite := true } with writing := false } := by
        change s.valkeyTLSAsyncWrite outcome = _
        unfold valkeyTLSAsyncWrite
        rw [show s.setTls _ = cleared from rfl, result, Checked.bind_ok]
        dsimp only
        rw [if_neg Bool.false_ne_true, if_pos wants]
        rfl
      rcases scheduled _ taken some with impossible | reported
      · cases impossible
      have asked := (written.latest (written.left some).2.1).symm.trans reported
      cases outcome with
      | takes count => cases asked
      | fails failure error =>
          cases Option.some.inj asked
          exact leaves

theorem waiting_new : Waiting new :=
  ⟨⟨conserved_newOutput false true, rfl, _, rfl⟩, fun some => absurd rfl some⟩

/-- In every run, output waits for a write event or for the read that the latest `SSL_write` asked
for, if and only if no write event that begins with `wantRead` set leaves output behind. -/
theorem tls_output_scheduled_iff (events : List Event) :
    Always step (fun s event => ∀ next, s.step event = .ok next → Scheduled next) new events ↔
      Always step Unhindered new events := by
  apply always_iff step _ _ events waiting_new
  · intro s event waiting
    constructor
    · exact unhindered_of_scheduled waiting
    · intro unhindered next taken
      exact ((waiting_step waiting unhindered).of_ok taken).schedules
  · intro s event next waiting unhindered taken
    exact (waiting_step waiting unhindered).of_ok taken

/-- An `SSL_read` has asked for a read, and then an `SSL_write` asks for a write. -/
theorem tls_output_waits : ∃ final,
    run step new [.command (ascii "PING"), .read (.takes 0) .wantRead [],
        .write (.fails .wantWrite ⟨.io, []⟩)] = .ok final ∧ ¬Scheduled final := by
  refine ⟨_, rfl, fun scheduled => ?_⟩
  rcases scheduled (by decide) with writing | latest
  · cases writing
  · cases latest

end AsyncTls

end Libvalkey
