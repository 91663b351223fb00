import Mathlib.Data.List.Chain
import Libvalkey.Cluster.Client

/-! # The output buffer

`valkey.c` and `tls.c`: commands are appended to the output buffer, and writes take bytes from
its front. No allocation is larger than `SSIZE_MAX`, and the other ones succeed. -/

namespace Libvalkey

/-! ## Contexts -/

/-- `valkeyTLS`: `lastLen` is the length of an `SSL_write` that has to be repeated. -/
structure ValkeyTLS where
  lastLen : Nat
  wantRead : Bool
  pendingWrite : Bool
  deriving DecidableEq, Repr

/-- The length that `SSL_write` was called with, and whether it asked to be called again. -/
structure Offer where
  length : Nat
  again : Bool
  deriving DecidableEq, Repr

/-- The part of `valkeyContext` that writes use. `privctx` is there for TLS. `appended` and
`transferred` are the bytes that were appended and those that the network took, and `offers`
the calls of `SSL_write`. -/
structure OutputContext where
  err : Option ContextError
  blocking : Bool
  obuf : Bytes
  privctx : Option ValkeyTLS
  appended : Bytes
  transferred : Bytes
  offers : List Offer
  deriving DecidableEq, Repr

/-- A connection that has been established. -/
def newOutput (blocking : Bool) (tls : Bool) : OutputContext where
  err := none
  blocking := blocking
  obuf := []
  privctx := if tls then some { lastLen := 0, wantRead := false, pendingWrite := false } else none
  appended := []
  transferred := []
  offers := []

/-- `EWOULDBLOCK`, `EINTR`, `SSL_ERROR_WANT_READ`, `SSL_ERROR_WANT_WRITE` and what else
there is. -/
inductive WriteFailure
  | wouldBlock
  | interrupted
  | wantRead
  | wantWrite
  | other
  deriving DecidableEq, Repr

/-- What the network does with the bytes that it is offered: it takes some of them, at most
all, or fails with an error. -/
inductive WriteOutcome
  | takes (count : Nat)
  | fails (failure : WriteFailure) (error : ContextError)

namespace OutputContext

/-! ## Writing -/

/-- The network takes bytes from the front of the buffer, which stay in it for now. -/
def transfer (c : OutputContext) (count : Nat) : OutputContext :=
  { c with transferred := c.transferred ++ c.obuf.take count }

def valkeyNetWrite (c : OutputContext) : WriteOutcome → Int × OutputContext
  | .takes count =>
      let taken := min count c.obuf.length
      (taken, c.transfer taken)
  | .fails failure error =>
      if (failure = .wouldBlock ∧ ¬c.blocking) ∨ failure = .interrupted then (0, c)
      else (-1, { c with err := some error })

/-- The length of an `SSL_write`. -/
def offeredLength (c : OutputContext) (tls : ValkeyTLS) : Nat :=
  if tls.lastLen ≠ 0 then tls.lastLen else c.obuf.length

/-- `maybeCheckWant` -/
def maybeCheckWant (tls : ValkeyTLS) : WriteFailure → Option ValkeyTLS
  | .wantRead => some { tls with wantRead := true }
  | .wantWrite => some { tls with pendingWrite := true }
  | .wouldBlock | .interrupted | .other => none

/-- The length is passed to `SSL_write` as an `int`. -/
def valkeyTLSWrite (c : OutputContext) (tls : ValkeyTLS) : WriteOutcome → Int × OutputContext
  | .takes count =>
      let len := c.offeredLength tls
      let taken := min count (toInt32 len).toNat
      let c := { c with offers := c.offers ++ [Offer.mk len false] }
      if taken > 0 then (taken, { c.transfer taken with privctx := some { tls with lastLen := 0 } })
      else (0, c)
  | .fails failure error =>
      let len := c.offeredLength tls
      let tls := { tls with lastLen := len }
      let c := { c with offers := c.offers ++ [Offer.mk len true], privctx := some tls }
      match maybeCheckWant tls failure with
      | some tls =>
          if c.blocking then (-1, { c with err := some error }) else
            (0, { c with privctx := some tls })
      | none => (-1, { c with err := some error })

/-- `c->funcs->write` -/
def write (c : OutputContext) (outcome : WriteOutcome) : Int × OutputContext :=
  match c.privctx with
  | none => c.valkeyNetWrite outcome
  | some tls => c.valkeyTLSWrite tls outcome

def outOfMemory : ContextError := ⟨.oom, ascii "Out of memory"⟩

/-- `*done` -/
def done (c : OutputContext) : Status × Option Bool × OutputContext :=
  (.ok, some (decide (c.obuf.length = 0)), c)

def valkeyBufferWrite (c : OutputContext) (outcome : WriteOutcome) :
    Status × Option Bool × OutputContext :=
  if c.err ≠ none then (.err, none, c)
  else if c.obuf.length > 0 then
    let (nwritten, c) := c.write outcome
    if nwritten < 0 then (.err, none, c)
    else if nwritten > 0 then
      if nwritten = c.obuf.length then { c with obuf := [] }.done
      else if c.obuf.length > ssizeMax then (.err, none, { c with err := some outOfMemory })
      else { c with obuf := c.obuf.drop nwritten.toNat }.done
    else c.done
  else c.done

/-! ## Appending -/

def valkeyAppendCmdLen (c : OutputContext) (cmd : Bytes) : Status × OutputContext :=
  if c.obuf.length + cmd.length > ssizeMax then (.err, { c with err := some outOfMemory })
  else (.ok, { c with obuf := c.obuf ++ cmd, appended := c.appended ++ cmd })

/-- A command is appended, or a write is tried. -/
inductive Event
  | append (cmd : Bytes)
  | write (outcome : WriteOutcome)

def step (c : OutputContext) : Event → OutputContext
  | .append cmd => (c.valkeyAppendCmdLen cmd).2
  | .write outcome => (c.valkeyBufferWrite outcome).2.2

def run (c : OutputContext) (events : List Event) : OutputContext := events.foldl step c

/-! ## What is kept -/

/-- An `SSL_write` after one that asked to be called again has the same length. -/
def Repeats (offers : List Offer) : Prop :=
  offers.IsChain fun first second => first.again = true → second.length = first.length

/-- An `SSL_write` that has to be repeated can be, and those that were repeated had the same
length. -/
structure Retries (privctx : Option ValkeyTLS) (offers : List Offer) (available : Nat) : Prop where
  inside : ∀ tls ∈ privctx, tls.lastLen ≤ available
  repeats : Repeats offers
  again : ∀ tls ∈ privctx, ∀ offer ∈ offers.getLast?, offer.again = true →
    tls.lastLen = offer.length ∧ offer.length ≠ 0

/-- The buffer holds the bytes that were appended and not transferred. -/
structure Conserved (c : OutputContext) : Prop where
  bytes : c.transferred ++ c.obuf = c.appended
  small : c.obuf.length ≤ ssizeMax
  retries : Retries c.privctx c.offers c.obuf.length

/-- What a write does: it fails, or bytes from the front of the buffer are transferred. -/
structure Wrote (c : OutputContext) (result : Int × OutputContext) : Prop where
  obuf : result.2.obuf = c.obuf
  appended : result.2.appended = c.appended
  bytes : (result.1 < 0 ∧ result.2.transferred = c.transferred) ∨
    ∃ count : Nat, result.1 = count ∧ count ≤ c.obuf.length ∧
      result.2.transferred = c.transferred ++ c.obuf.take count
  retries : Retries result.2.privctx result.2.offers (c.obuf.length - result.1.toNat)

section Writing

variable {c : OutputContext}

theorem wrote_nothing (retries : Retries c.privctx c.offers c.obuf.length)
    (err : Option ContextError) : Wrote c (-1, { c with err := err }) where
  obuf := rfl
  appended := rfl
  bytes := .inl ⟨by simp, rfl⟩
  retries := retries

theorem wrote_valkeyNetWrite (plain : c.privctx = none) (conserved : Conserved c)
    (outcome : WriteOutcome) : Wrote c (c.valkeyNetWrite outcome) := by
  have retries (available : Nat) : Retries c.privctx c.offers available := by
    refine ⟨?_, conserved.retries.repeats, conserved.retries.again⟩
    rw [plain]
    exact fun _ impossible => nomatch impossible
  cases outcome with
  | takes count =>
      refine ⟨rfl, rfl, .inr ⟨min count c.obuf.length, rfl, min_le_right _ _, rfl⟩, ?_⟩
      exact retries _
  | fails failure error =>
      unfold valkeyNetWrite
      dsimp only
      split
      · exact ⟨rfl, rfl, .inr ⟨0, rfl, Nat.zero_le _, by simp⟩, retries _⟩
      · exact wrote_nothing conserved.retries (some error)

/-- An `SSL_write` is called with the length of the one that it repeats. -/
theorem Retries.repeats_concat {tls : ValkeyTLS}
    (retries : Retries (some tls) c.offers c.obuf.length)
    (again : Bool) : Repeats (c.offers ++ [Offer.mk (c.offeredLength tls) again]) := by
  unfold Repeats
  rw [List.isChain_append]
  refine ⟨retries.repeats, List.isChain_singleton _, ?_⟩
  intro first last second here asks
  obtain rfl : Offer.mk (c.offeredLength tls) again = second := by simpa using here
  obtain ⟨same, positive⟩ := retries.again tls rfl first last asks
  unfold offeredLength
  rw [if_pos (same ▸ positive)]
  exact same

theorem offeredLength_le {tls : ValkeyTLS} (retries : Retries (some tls) c.offers c.obuf.length) :
    c.offeredLength tls ≤ c.obuf.length := by
  unfold offeredLength
  split
  · exact retries.inside tls rfl
  · exact le_rfl

theorem offeredLength_pos {tls : ValkeyTLS} (waiting : 0 < c.obuf.length) :
    c.offeredLength tls ≠ 0 := by
  unfold offeredLength
  split
  · assumption
  · omega

theorem toInt32_le (len : Nat) : (toInt32 len).toNat ≤ len := by
  rw [toInt32, Int.bmod_def]
  split
  · omega
  · omega

theorem maybeCheckWant_lastLen {tls next : ValkeyTLS} {failure : WriteFailure}
    (wants : maybeCheckWant tls failure = some next) : next.lastLen = tls.lastLen := by
  cases failure with
  | wantRead =>
      cases wants
      rfl
  | wantWrite =>
      cases wants
      rfl
  | wouldBlock => cases wants
  | interrupted => cases wants
  | other => cases wants

theorem wrote_valkeyTLSWrite {tls : ValkeyTLS} (privctx : c.privctx = some tls)
    (conserved : Conserved c) (waiting : 0 < c.obuf.length) (outcome : WriteOutcome) :
    Wrote c (c.valkeyTLSWrite tls outcome) := by
  have retries := conserved.retries
  rw [privctx] at retries
  have inside := offeredLength_le retries
  have positive := @offeredLength_pos c tls waiting
  cases outcome with
  | takes count =>
      unfold valkeyTLSWrite
      dsimp only
      have bound : min count (toInt32 (c.offeredLength tls)).toNat ≤ c.obuf.length :=
        (min_le_right _ _).trans ((toInt32_le _).trans inside)
      have calm (privctx : Option ValkeyTLS) {offer : Offer}
          (last : offer ∈ (c.offers ++ [Offer.mk (c.offeredLength tls) false]).getLast?) :
          offer.again = false := by
        obtain rfl : Offer.mk (c.offeredLength tls) false = offer := by simpa using last
        rfl
      split
      · refine ⟨rfl, rfl, .inr ⟨_, rfl, bound, rfl⟩, ?_, retries.repeats_concat false, ?_⟩
        · rintro _ ⟨⟩
          exact Nat.zero_le _
        · intro _ _ offer last asks
          exact absurd asks (by simp [calm none last])
      · refine ⟨rfl, rfl, .inr ⟨0, rfl, Nat.zero_le _, by simp⟩, ?_,
          retries.repeats_concat false, ?_⟩
        · exact conserved.retries.inside
        · intro _ _ offer last asks
          exact absurd asks (by simp [calm none last])
  | fails failure error =>
      have repeated (again : Option ValkeyTLS) (same : ∀ next ∈ again,
          next.lastLen = c.offeredLength tls) : Retries again
            (c.offers ++ [Offer.mk (c.offeredLength tls) true]) c.obuf.length := by
        refine ⟨?_, retries.repeats_concat true, ?_⟩
        · intro next member
          rw [same next member]
          exact inside
        · intro next member offer last _
          obtain rfl : Offer.mk (c.offeredLength tls) true = offer := by simpa using last
          exact ⟨same next member, positive⟩
      have failed := repeated (some { tls with lastLen := c.offeredLength tls }) (by simp)
      unfold valkeyTLSWrite
      dsimp only
      split
      · rename_i next wants
        have same : next.lastLen = c.offeredLength tls := maybeCheckWant_lastLen wants
        split
        · exact ⟨rfl, rfl, .inl ⟨by simp, rfl⟩, failed⟩
        · refine ⟨rfl, rfl, .inr ⟨0, rfl, Nat.zero_le _, by simp⟩, repeated (some next) ?_⟩
          rintro _ ⟨⟩
          exact same
      · exact ⟨rfl, rfl, .inl ⟨by simp, rfl⟩, failed⟩

theorem wrote_write (conserved : Conserved c) (waiting : 0 < c.obuf.length)
    (outcome : WriteOutcome) : Wrote c (c.write outcome) := by
  unfold write
  split
  · rename_i plain
    exact wrote_valkeyNetWrite plain conserved outcome
  · rename_i tls privctx
    exact wrote_valkeyTLSWrite privctx conserved waiting outcome

/-- `*done` is set if and only if the buffer is empty, and a write that fails leaves the buffer
as it is. -/
structure Reported (c : OutputContext) (result : Status × Option Bool × OutputContext) : Prop where
  done : result.1 = .ok → result.2.1 = some (decide (result.2.2.obuf = []))
  failed : result.1 = .err → result.2.1 = none ∧ result.2.2.obuf = c.obuf

/-- What one call of `valkeyBufferWrite` does. -/
structure BufferWritten (c : OutputContext) (result : Status × Option Bool × OutputContext) :
    Prop where
  conserved : Conserved result.2.2
  appended : result.2.2.appended = c.appended
  reported : Reported c result

theorem bufferWritten_done {next : OutputContext} (conserved : Conserved next)
    (appended : next.appended = c.appended) : BufferWritten c next.done := by
  refine ⟨conserved, appended, ?_, ?_⟩
  · intro _
    simp [OutputContext.done]
  · intro failed
    cases failed

theorem bufferWritten (conserved : Conserved c) (outcome : WriteOutcome) :
    BufferWritten c (c.valkeyBufferWrite outcome) := by
  unfold valkeyBufferWrite
  split
  · exact ⟨conserved, rfl, fun impossible => (nomatch impossible), fun _ => ⟨rfl, rfl⟩⟩
  split
  · rename_i waiting
    have wrote := wrote_write conserved waiting outcome
    generalize c.write outcome = result at wrote
    obtain ⟨nwritten, next⟩ := result
    obtain ⟨obuf, appended, bytes, retries⟩ := wrote
    dsimp only at obuf appended bytes retries ⊢
    rcases bytes with ⟨negative, transferred⟩ | ⟨count, rfl, bound, transferred⟩
    · rw [if_pos negative]
      rw [Int.toNat_of_nonpos negative.le, Nat.sub_zero, ← obuf] at retries
      refine ⟨⟨?_, obuf ▸ conserved.small, retries⟩, appended,
        fun impossible => (nomatch impossible), fun _ => ⟨rfl, obuf⟩⟩
      rw [transferred, obuf, appended]
      exact conserved.bytes
    · rw [if_neg (by omega)]
      rw [Int.toNat_natCast] at retries
      have split := conserved.bytes
      rw [← List.take_append_drop count c.obuf, ← List.append_assoc, ← transferred, ← appended]
        at split
      have kept : Conserved { next with obuf := c.obuf.drop count } := by
        refine ⟨split, ?_, ?_⟩
        · rw [List.length_drop]
          exact (Nat.sub_le _ _).trans conserved.small
        · rw [List.length_drop]
          exact retries
      split
      · split
        · rename_i all
          rw [obuf, Nat.cast_inj] at all
          rw [all, List.drop_length] at kept
          exact bufferWritten_done kept appended
        · rw [if_neg (by rw [obuf]; exact not_lt.mpr conserved.small), obuf, Int.toNat_natCast]
          exact bufferWritten_done kept appended
      · rename_i none
        obtain rfl : count = 0 := by omega
        rw [List.drop_zero, ← obuf] at kept
        exact bufferWritten_done kept appended
  · exact bufferWritten_done conserved rfl

theorem conserved_append (conserved : Conserved c) (cmd : Bytes) :
    Conserved (c.valkeyAppendCmdLen cmd).2 := by
  unfold valkeyAppendCmdLen
  split
  · exact ⟨conserved.bytes, conserved.small, conserved.retries⟩
  · rename_i fits
    obtain ⟨inside, repeats, again⟩ := conserved.retries
    refine ⟨?_, ?_, fun tls member => (inside tls member).trans ?_, repeats, again⟩
    · dsimp only
      rw [← List.append_assoc, conserved.bytes]
    · rw [List.length_append]
      exact not_lt.mp fits
    · rw [List.length_append]
      exact Nat.le_add_right _ _

theorem conserved_step (conserved : Conserved c) (event : Event) : Conserved (c.step event) := by
  cases event with
  | append cmd => exact conserved_append conserved cmd
  | write outcome => exact (bufferWritten conserved outcome).conserved

theorem conserved_run (conserved : Conserved c) (events : List Event) :
    Conserved (c.run events) := by
  induction events generalizing c with
  | nil => exact conserved
  | cons event events induction => exact induction (conserved_step conserved event)

theorem conserved_newOutput (blocking tls : Bool) : Conserved (newOutput blocking tls) := by
  refine ⟨rfl, Nat.zero_le _, ?_, List.isChain_nil, fun _ _ _ impossible => nomatch impossible⟩
  cases tls with
  | true =>
      rintro _ ⟨⟩
      exact le_rfl
  | false => exact fun _ impossible => nomatch impossible

end Writing

/-- The commands of a run that were accepted, one after another. -/
def accepted (c : OutputContext) : List Event → Bytes
  | [] => []
  | .append cmd :: events =>
      (if (c.valkeyAppendCmdLen cmd).1 = .ok then cmd else []) ++
        (c.step (.append cmd)).accepted events
  | .write outcome :: events => (c.step (.write outcome)).accepted events

theorem appended_run {c : OutputContext} (conserved : Conserved c) (events : List Event) :
    (c.run events).appended = c.appended ++ c.accepted events := by
  induction events generalizing c with
  | nil => exact (List.append_nil _).symm
  | cons event events induction =>
      have continues := induction (conserved_step conserved event)
      cases event with
      | append cmd =>
          have appended : (c.step (.append cmd)).appended =
              c.appended ++ if (c.valkeyAppendCmdLen cmd).1 = .ok then cmd else [] := by
            unfold step valkeyAppendCmdLen
            dsimp only
            split
            · simp
            · simp
          rw [accepted, ← List.append_assoc, ← appended]
          exact continues
      | write outcome =>
          have appended := (bufferWritten conserved outcome).appended
          rw [accepted, ← appended]
          exact continues

/-- Bytes leave the output buffer in the order in which they were appended, none is lost or sent
twice, and an `SSL_write` that has to be repeated is. -/
theorem output_in_order (blocking tls : Bool) (events : List Event) :
    ((newOutput blocking tls).run events).transferred ++
        ((newOutput blocking tls).run events).obuf = (newOutput blocking tls).accepted events ∧
      Repeats ((newOutput blocking tls).run events).offers ∧
        ∀ outcome, Reported ((newOutput blocking tls).run events)
          (((newOutput blocking tls).run events).valkeyBufferWrite outcome) := by
  have fresh := conserved_newOutput blocking tls
  have conserved := conserved_run fresh events
  refine ⟨?_, conserved.retries.repeats, fun outcome => (bufferWritten conserved outcome).reported⟩
  rw [conserved.bytes, appended_run fresh events]
  rfl

end OutputContext

end Libvalkey
