import Libvalkey.Reader.FrameStream
import Libvalkey.Transport.Output

/-! # Pushed and returned replies

`valkey.c`: replies are taken from the reader one after the other. Pushed ones go to the push
callback, if there is one, and the others to the caller of `valkeyGetReply`. -/

namespace Libvalkey

open ValkeyReader Incremental

variable {Double : Type}

/-! ## Contexts -/

/-- What a read of the network comes to: bytes, nothing for now, or an error. -/
inductive ReadOutcome
  | bytes (bytes : Bytes)
  | nothing
  | fails (error : ContextError)

/-- A reply that was passed to `push_cb` or returned, with the objects at that time. -/
structure TakenReply (Double : Type) where
  pushed : Bool
  reply : Nat
  objects : ReplyHeap Double

/-- The part of `valkeyContext` that `valkeyGetReply` uses. `pushCb` says whether `push_cb` is
set, and `writes` and `reads` are what the next writes and reads come to. `received` are the bytes
that were read and `taken` the replies, in order. -/
structure ReplyContext (Double : Type) where
  output : OutputContext
  reader : ValkeyReader (ReplyHeap Double) Nat
  pushCb : Bool
  writes : List WriteOutcome
  reads : List ReadOutcome
  received : Bytes
  taken : List (TakenReply Double)

/-- The bytes that reads bring. -/
def arriving (reads : List ReadOutcome) : Bytes :=
  reads.flatMap fun outcome =>
    match outcome with
    | .bytes bytes => bytes
    | .nothing | .fails _ => []

/-- The error of a reader, for `valkeySetError`. -/
def readerError (r : ValkeyReader (ReplyHeap Double) Nat) : Option ContextError :=
  r.err.map fun type => ⟨type, ascii r.errstr⟩

/-- `valkeyIsPushReply` -/
def isPushReply (objects : ReplyHeap Double) (reply : Nat) : Bool :=
  objects[reply]?.join.any fun r => r.type == .push

namespace ReplyContext

def setReaderError (c : ReplyContext Double) : ReplyContext Double :=
  { c with output := { c.output with err := readerError c.reader } }

/-- A reply leaves the library. -/
def take (c : ReplyContext Double) (pushed : Bool) (reply : Nat) : ReplyContext Double :=
  { c with taken := c.taken ++ [⟨pushed, reply, c.reader.heap⟩] }

/-! ## Reading and writing -/

/-- `valkeyBufferRead`. Without a status the read has not returned yet. -/
def valkeyBufferRead (c : ReplyContext Double) : Option Status × ReplyContext Double :=
  if c.output.err ≠ none then (some .err, c)
  else
    match valkeyReaderGetReadBuf (defaultFunctions Double) c.reader (1024 * 16) with
    | (.err, r) => (some .err, { c with reader := r }.setReaderError)
    | (.ok, r) =>
        match c.reads with
        | [] =>
            if c.output.blocking then (none, { c with reader := r })
            else (some .ok, { c with reader := r })
        | .bytes bytes :: reads =>
            (some .ok,
              { c with
                reader := valkeyReaderCommitRead r bytes
                reads := reads
                received := c.received ++ bytes })
        | .nothing :: reads => (some .ok, { c with reader := r, reads := reads })
        | .fails error :: reads =>
            (some .err,
              { c with reader := r, reads := reads, output := { c.output with err := some error } })

/-- `valkeyBufferWrite`. Without a status the write has not returned yet. -/
def valkeyBufferWrite (c : ReplyContext Double) :
    Option (Status × Option Bool) × ReplyContext Double :=
  match c.writes with
  | [] =>
      if c.output.err = none ∧ c.output.obuf ≠ [] then (none, c)
      else
        let (status, wdone, output) := c.output.valkeyBufferWrite (.takes 0)
        (some (status, wdone), { c with output := output })
  | outcome :: writes =>
      let (status, wdone, output) := c.output.valkeyBufferWrite outcome
      (some (status, wdone),
        { c with
          output := output
          writes := if c.output.err = none ∧ c.output.obuf ≠ [] then writes else c.writes })

/-! ## Replies -/

section Replies

variable (ffc : DoubleParser Double)

def valkeyHandledPushReply (c : ReplyContext Double) (reply : Nat) : Bool × ReplyContext Double :=
  if c.pushCb && isPushReply c.reader.heap reply then (true, c.take true reply)
  else (false, c)

def valkeyGetReplyFromReader (c : ReplyContext Double) :
    Status × Option Nat × ReplyContext Double :=
  match valkeyReaderGetReply ffc (defaultFunctions Double) c.reader with
  | (.err, _, r) => (.err, none, { c with reader := r }.setReaderError)
  | (.ok, reply, r) => (.ok, reply, { c with reader := r })

/-- The loop of `valkeyNextInBandReplyFromReader`. -/
def nextInBandReply : Nat → ReplyContext Double → Status × Option Nat × ReplyContext Double
  | 0, c => (.ok, none, c)
  | fuel + 1, c =>
      match c.valkeyGetReplyFromReader ffc with
      | (.err, _, c) => (.err, none, c)
      | (.ok, none, c) => (.ok, none, c)
      | (.ok, some reply, c) =>
          match c.valkeyHandledPushReply reply with
          | (true, c) => nextInBandReply fuel c
          | (false, c) => (.ok, some reply, c)

/-- A reply takes at least one byte, so the unread bytes bound the number of replies. -/
def valkeyNextInBandReplyFromReader (c : ReplyContext Double) :
    Status × Option Nat × ReplyContext Double :=
  nextInBandReply ffc (c.reader.unread.length + 1) c

/-- The end of `valkeyGetReply`. A caller without a place for the reply gets it freed. -/
def setReply (c : ReplyContext Double) (aux : Option Nat) :
    Option (Status × Option Nat) × ReplyContext Double :=
  match aux with
  | none => (some (.ok, none), c)
  | some reply => (some (.ok, some reply), c.take false reply)

/-- Write until done. -/
def writeUntilDone : Nat → ReplyContext Double → Option Status × ReplyContext Double
  | 0, c => (none, c)
  | fuel + 1, c =>
      match c.valkeyBufferWrite with
      | (none, c) => (none, c)
      | (some (.err, _), c) => (some .err, c)
      | (some (.ok, wdone), c) => if wdone = some true then (some .ok, c) else writeUntilDone fuel c

/-- Read until there is a reply. -/
def readUntilReply : Nat → ReplyContext Double →
    Option (Status × Option Nat) × ReplyContext Double
  | 0, c => (none, c)
  | fuel + 1, c =>
      match c.valkeyBufferRead with
      | (none, c) => (none, c)
      | (some .err, c) => (some (.err, none), c)
      | (some .ok, c) =>
          match c.valkeyNextInBandReplyFromReader ffc with
          | (.err, _, c) => (some (.err, none), c)
          | (.ok, none, c) => readUntilReply fuel c
          | (.ok, some reply, c) => c.setReply (some reply)

/-- `valkeyGetReply`. Without a status the call has not returned yet. A round of one of the loops
needs a write or a read, except the last one. -/
def valkeyGetReply (c : ReplyContext Double) :
    Option (Status × Option Nat) × ReplyContext Double :=
  match c.valkeyNextInBandReplyFromReader ffc with
  | (.err, _, c) => (some (.err, none), c)
  | (.ok, some reply, c) => c.setReply (some reply)
  | (.ok, none, c) =>
      if c.output.blocking then
        match writeUntilDone (c.writes.length + 1) c with
        | (none, c) => (none, c)
        | (some .err, c) => (some (.err, none), c)
        | (some .ok, c) => readUntilReply ffc (c.reads.length + 1) c
      else c.setReply none

/-! ## Runs -/

/-- What a user does with a context. -/
inductive Call
  | append (cmd : Bytes)
  | bufferWrite
  | bufferRead
  | getReply

/-- A call, and whether it has returned. -/
def call (c : ReplyContext Double) : Call → Bool × ReplyContext Double
  | .append cmd => (true, { c with output := (c.output.valkeyAppendCmdLen cmd).2 })
  | .bufferWrite => (c.valkeyBufferWrite.1.isSome, c.valkeyBufferWrite.2)
  | .bufferRead => (c.valkeyBufferRead.1.isSome, c.valkeyBufferRead.2)
  | .getReply => ((c.valkeyGetReply ffc).1.isSome, (c.valkeyGetReply ffc).2)

/-- Calls up to one that does not return. -/
def run : ReplyContext Double → List Call → ReplyContext Double
  | c, [] => c
  | c, first :: rest =>
      match c.call ffc first with
      | (true, c) => run c rest
      | (false, c) => c

end Replies

end ReplyContext

/-- A context with a new reader. -/
def newReplies (output : OutputContext) (maxelements : Int) (pushCb : Bool)
    (writes : List WriteOutcome) (reads : List ReadOutcome) : ReplyContext Double where
  output := output
  reader := newReader Nat [] maxelements
  pushCb := pushCb
  writes := writes
  reads := reads
  received := []
  taken := []

/-! ## What is kept -/

section Following

variable (ffc : DoubleParser Double) (maxelements : Int)

/-- What a stream comes to, fed to a new reader. -/
abbrev streamRun (bytes : Bytes) :=
  (readerConsumer ffc (defaultFunctions Double)).run (newReader Nat [] maxelements) bytes

/-- What is left to come of the bytes that were received. -/
abbrev pendingRun (r : ValkeyReader (ReplyHeap Double) Nat) :=
  (readerConsumer ffc (defaultFunctions Double)).run r.park r.unread

def TakenReply.output (taken : TakenReply Double) : Option Nat × ReplyHeap Double :=
  (some taken.reply, taken.objects)

/-- The replies that were taken are the first ones of what was received, and they went where they
belong. -/
structure FollowsStream (start c : ReplyContext Double) : Prop where
  ready : Ready c.reader
  run : streamRun ffc maxelements c.received =
    (c.taken.map TakenReply.output ++ (pendingRun ffc c.reader).1, (pendingRun ffc c.reader).2)
  small : c.reader.buf.length + (arriving c.reads).length ≤ ssizeMax
  whole : c.received ++ arriving c.reads = arriving start.reads
  unfailed : (streamRun ffc maxelements (arriving start.reads)).2.failure? = none
  pushCb : c.pushCb = start.pushCb
  routed : ∀ t ∈ c.taken, t.pushed = (c.pushCb && isPushReply t.objects t.reply)

end Following

section Steps

variable {ffc : DoubleParser Double} {maxelements : Int} {start c : ReplyContext Double}

theorem FollowsStream.pending_unfailed (follows : FollowsStream ffc maxelements start c) :
    (pendingRun ffc c.reader).2.failure? = none := by
  have received : (streamRun ffc maxelements c.received).2.failure? = none :=
    (readerConsumer ffc (defaultFunctions Double)).run_prefix_not_failed (arriving c.reads)
      (follows.whole ▸ follows.unfailed)
  rwa [follows.run] at received

theorem FollowsStream.short (follows : FollowsStream ffc maxelements start c) :
    readsOverlongLine ffc (defaultFunctions Double) c.reader.park c.reader.unread = false := by
  rw [readsOverlongLine_false_iff]
  intro overlong
  have unfailed := follows.pending_unfailed
  rw [pendingRun, overlong] at unfailed
  cases unfailed

/-- Another way to the same bytes does not matter. -/
theorem FollowsStream.of_reader (follows : FollowsStream ffc maxelements start c)
    {r : ValkeyReader (ReplyHeap Double) Nat} (ready : Ready r) (park : r.park = c.reader.park)
    (unread : r.unread = c.reader.unread) (shorter : r.buf.length ≤ c.reader.buf.length) :
    FollowsStream ffc maxelements start { c with reader := r } where
  ready := ready
  run := by
    dsimp only
    rw [pendingRun, park, unread]
    exact follows.run
  small := (Nat.add_le_add_right shorter _).trans follows.small
  whole := follows.whole
  unfailed := follows.unfailed
  pushCb := follows.pushCb
  routed := follows.routed

theorem FollowsStream.of_output (follows : FollowsStream ffc maxelements start c)
    (output : OutputContext) (writes : List WriteOutcome) :
    FollowsStream ffc maxelements start { c with output := output, writes := writes } :=
  ⟨follows.ready, follows.run, follows.small, follows.whole, follows.unfailed, follows.pushCb,
    follows.routed⟩

/-- Bytes arrive. -/
theorem FollowsStream.receive (follows : FollowsStream ffc maxelements start c) {bytes : Bytes}
    {reads : List ReadOutcome} (next : c.reads = .bytes bytes :: reads)
    {r : ValkeyReader (ReplyHeap Double) Nat}
    (got : valkeyReaderGetReadBuf (defaultFunctions Double) c.reader (1024 * 16) = (.ok, r)) :
    FollowsStream ffc maxelements start
      { c with
        reader := valkeyReaderCommitRead r bytes
        reads := reads
        received := c.received ++ bytes } := by
  have small := follows.small
  have split : arriving c.reads = bytes ++ arriving reads := by
    rw [next, arriving, List.flatMap_cons]
    rfl
  rw [split, List.length_append] at small
  obtain ⟨ready, park, unread, length⟩ := receive_of_ready (defaultFunctions Double) follows.ready
    (.read (1024 * 16) bytes) (show 1024 * 16 ≤ ssizeMax by decide)
    (by dsimp only [Chunk.bytes]; omega)
  have same : Libvalkey.receive (defaultFunctions Double) c.reader (.read (1024 * 16) bytes) =
      valkeyReaderCommitRead r bytes := by rw [Libvalkey.receive, got]
  rw [same] at ready park unread length
  dsimp only [Chunk.bytes] at unread length
  refine ⟨ready, ?_, ?_, ?_, follows.unfailed, follows.pushCb, follows.routed⟩
  · dsimp only
    rw [pendingRun, park, unread, streamRun, ← Consumer.feed_run, ← Consumer.feed_run]
    have received : (readerConsumer ffc (defaultFunctions Double)).run
        (newReader Nat [] maxelements)
        c.received = (c.taken.map TakenReply.output ++ (pendingRun ffc c.reader).1,
          (pendingRun ffc c.reader).2) := follows.run
    rw [received, Consumer.feed_prepend]
  · dsimp only
    omega
  · dsimp only
    rw [List.append_assoc, ← split]
    exact follows.whole

/-! ## Taking replies -/

theorem getReply_err {r last : ValkeyReader (ReplyHeap Double) Nat} {reply : Option Nat}
    (failed : valkeyReaderGetReply ffc (defaultFunctions Double) r = (.err, reply, last)) :
    last.err ≠ none := by
  unfold valkeyReaderGetReply at failed
  split at failed
  · rename_i dead
    cases failed
    exact dead
  split at failed
  · cases failed
  dsimp only at failed
  split at failed
  · rename_i dead
    cases failed
    exact dead
  split at failed
  · cases failed
  · cases failed

/-- The next reply is there, or the bytes that were received bring no more replies. -/
theorem FollowsStream.next (follows : FollowsStream ffc maxelements start c) :
    (∃ last, c.valkeyGetReplyFromReader ffc = (.ok, none, { c with reader := last }) ∧
        FollowsStream ffc maxelements start { c with reader := last } ∧
          (pendingRun ffc last).1 = []) ∨
      ∃ reply last, c.valkeyGetReplyFromReader ffc = (.ok, some reply, { c with reader := last }) ∧
        last.unread.length < c.reader.unread.length ∧
        ∀ pushed, pushed = (c.pushCb && isPushReply last.heap reply) →
          FollowsStream ffc maxelements start ({ c with reader := last }.take pushed reply) := by
  unfold ReplyContext.valkeyGetReplyFromReader
  rcases valkeyReaderGetReply_cases ffc (defaultFunctions Double) follows.ready follows.short with
    ⟨status, last, got, none, tracks, sameBuf⟩ | ⟨reply, last, got, ready, sameBuf, shorter, run⟩
  · left
    have unfailed := follows.pending_unfailed
    generalize outcome : (pendingRun ffc c.reader).2 = stands at unfailed
    have standing : (readerConsumer ffc (defaultFunctions Double)).run c.reader.park
        c.reader.unread =
        ([], stands) := Prod.ext none outcome
    rw [outcome] at tracks
    cases tracks with
    | @waiting next rest lastReady same =>
        have alive := lastReady.alive
        have ok : status = .ok := by
          cases status with
          | ok => rfl
          | err => exact absurd alive (getReply_err got)
        subst ok
        rw [got]
        have last_run : pendingRun ffc last = ([], .waiting next rest) := by
          have fed := (readerConsumer ffc (defaultFunctions Double)).feed_run c.reader.park
            c.reader.unread []
          have resumed := same []
          rw [standing, List.append_nil, standing] at fed
          rw [List.append_nil, List.append_nil] at resumed
          rw [pendingRun, ← resumed]
          simpa [Consumer.feed] using fed
        refine ⟨last, rfl, ⟨lastReady, ?_, ?_, follows.whole, follows.unfailed, follows.pushCb,
    follows.routed⟩, by rw [last_run]⟩
        · dsimp only
          rw [last_run, follows.run, pendingRun, standing]
        · dsimp only
          rw [sameBuf alive]
          exact follows.small
    | stopped dead err errstr => cases unfailed
  · right
    rw [got]
    refine ⟨reply, last, rfl, shorter, ?_⟩
    rintro pushed rfl
    refine ⟨ready, ?_, ?_, follows.whole, follows.unfailed, follows.pushCb, ?_⟩
    · dsimp only [ReplyContext.take]
      have received := follows.run
      rw [pendingRun, run] at received
      rw [received, List.map_append, List.append_assoc]
      rfl
    · dsimp only [ReplyContext.take]
      rw [sameBuf]
      exact follows.small
    · intro t member
      rcases List.mem_append.mp member with earlier | here
      · exact follows.routed t earlier
      · obtain rfl := List.mem_singleton.mp here
        rfl

/-- Pushed replies are taken, and nothing is read or written. -/
structure Passes (c last : ReplyContext Double) : Prop where
  taken : ∃ pushes, last.taken = c.taken ++ pushes ∧ ∀ t ∈ pushes, t.pushed = true
  blocking : last.output.blocking = c.output.blocking
  pushCb : last.pushCb = c.pushCb

theorem Passes.refl (c : ReplyContext Double) : Passes c c :=
  ⟨⟨[], (List.append_nil _).symm, nofun⟩, rfl, rfl⟩

theorem Passes.trans {first second third : ReplyContext Double} (before : Passes first second)
    (after : Passes second third) : Passes first third where
  taken := by
    obtain ⟨early, earlyTaken, earlyPushed⟩ := before.taken
    obtain ⟨late, lateTaken, latePushed⟩ := after.taken
    refine ⟨early ++ late, by rw [lateTaken, earlyTaken, List.append_assoc], ?_⟩
    intro t member
    rcases List.mem_append.mp member with inside | inside
    · exact earlyPushed t inside
    · exact latePushed t inside
  blocking := after.blocking.trans before.blocking
  pushCb := after.pushCb.trans before.pushCb

/-- All replies that were received are taken. -/
def NoneLeft (ffc : DoubleParser Double) (c : ReplyContext Double) : Prop :=
  (pendingRun ffc c.reader).1 = []

/-- What the search for a reply that is not pushed comes to. -/
inductive InBand (ffc : DoubleParser Double) (maxelements : Int) (start c : ReplyContext Double) :
    Status × Option Nat × ReplyContext Double → Prop
  | none {last : ReplyContext Double} (follows : FollowsStream ffc maxelements start last)
      (passes : Passes c last)
      (reads : last.reads = c.reads) (drained : NoneLeft ffc last) :
      InBand ffc maxelements start c (.ok, none, last)
  | reply {reply : Nat} {last : ReplyContext Double}
      (follows : FollowsStream ffc maxelements start (last.take false reply))
      (passes : Passes c last)
      (reads : last.reads = c.reads) : InBand ffc maxelements start c (.ok, some reply, last)

theorem inBand_nextInBandReply (fuel : Nat) (follows : FollowsStream ffc maxelements start c)
    (enough : c.reader.unread.length < fuel) :
    InBand ffc maxelements start c (c.nextInBandReply ffc fuel) := by
  induction fuel generalizing c with
  | zero => exact absurd enough (Nat.not_lt_zero _)
  | succ fuel induction =>
      unfold ReplyContext.nextInBandReply
      rcases follows.next with ⟨last, got, later, drained⟩ | ⟨reply, last, got, shorter, later⟩
      · rw [got]
        exact .none later ⟨⟨[], (List.append_nil _).symm, nofun⟩, rfl, rfl⟩ rfl drained
      · rw [got]
        dsimp only
        unfold ReplyContext.valkeyHandledPushReply
        dsimp only
        by_cases handled : (c.pushCb && isPushReply last.heap reply) = true
        · rw [if_pos handled]
          dsimp only
          have passes : Passes c ({ c with reader := last }.take true reply) := by
            refine ⟨⟨[_], rfl, ?_⟩, rfl, rfl⟩
            intro t member
            rw [List.mem_singleton.mp member]
          have found := induction (later true handled.symm) (by
            dsimp only [ReplyContext.take]
            omega)
          generalize ReplyContext.nextInBandReply ffc fuel _ = result at found ⊢
          cases found with
          | none follows further reads drained =>
              exact .none follows (passes.trans further) reads drained
          | reply follows further reads => exact .reply follows (passes.trans further) reads
        · rw [if_neg handled]
          dsimp only
          refine .reply (later false ?_) ⟨⟨[], (List.append_nil _).symm, nofun⟩, rfl, rfl⟩ rfl
          exact (Bool.not_eq_true _ ▸ handled).symm

theorem FollowsStream.inBand (follows : FollowsStream ffc maxelements start c) :
    InBand ffc maxelements start c (c.valkeyNextInBandReplyFromReader ffc) :=
  inBand_nextInBandReply _ follows (Nat.lt_succ_self _)

/-! ## Calls -/

/-- What a call for a reply comes to. -/
inductive ReplyResult (ffc : DoubleParser Double) (maxelements : Int)
    (start c : ReplyContext Double) : Option (Status × Option Nat) × ReplyContext Double → Prop
  | reply {reply : Nat} {last : ReplyContext Double}
      (follows : FollowsStream ffc maxelements start (last.take false reply))
      (passes : Passes c last) :
      ReplyResult ffc maxelements start c (some (.ok, some reply), last.take false reply)
  | nothing {last : ReplyContext Double} (follows : FollowsStream ffc maxelements start last)
      (passes : Passes c last) (unblocked : c.output.blocking = false)
      (drained : NoneLeft ffc last) :
      ReplyResult ffc maxelements start c (some (.ok, none), last)
  | fails {last : ReplyContext Double} (follows : FollowsStream ffc maxelements start last)
      (passes : Passes c last) (failed : last.output.err ≠ none) :
      ReplyResult ffc maxelements start c (some (.err, none), last)
  | waits {last : ReplyContext Double} (follows : FollowsStream ffc maxelements start last)
      (passes : Passes c last) (blocked : c.output.blocking = true)
      (exhausted : last.writes = [] ∧ last.output.obuf ≠ [] ∨ last.reads = [])
      (drained : NoneLeft ffc last) :
      ReplyResult ffc maxelements start c (none, last)

theorem ReplyResult.after {first : ReplyContext Double} (passes : Passes c first)
    {result : Option (Status × Option Nat) × ReplyContext Double}
    (answer : ReplyResult ffc maxelements start first result) :
    ReplyResult ffc maxelements start c result := by
  have blocking := passes.blocking
  cases answer with
  | reply follows further => exact .reply follows (passes.trans further)
  | nothing follows further unblocked drained =>
      exact .nothing follows (passes.trans further) (blocking ▸ unblocked) drained
  | fails follows further failed => exact .fails follows (passes.trans further) failed
  | waits follows further blocked exhausted drained =>
      exact .waits follows (passes.trans further) (blocking ▸ blocked) exhausted drained

/-- What a read comes to: it brings what the network has, it fails, or it does not return. -/
inductive BufferRead (ffc : DoubleParser Double) (maxelements : Int)
    (start c : ReplyContext Double) : Option Status × ReplyContext Double → Prop
  | brings {last : ReplyContext Double} (follows : FollowsStream ffc maxelements start last)
      (passes : Passes c last)
      (fewer : last.reads.length < c.reads.length ∨ c.output.blocking = false) :
      BufferRead ffc maxelements start c (some .ok, last)
  | fails {last : ReplyContext Double} (follows : FollowsStream ffc maxelements start last)
      (passes : Passes c last) (failed : last.output.err ≠ none) :
      BufferRead ffc maxelements start c (some .err, last)
  | waits {last : ReplyContext Double} (follows : FollowsStream ffc maxelements start last)
      (passes : Passes c last) (blocked : c.output.blocking = true) (exhausted : c.reads = [])
      (sameReads : last.reads = [])
      (same : pendingRun ffc last.reader = pendingRun ffc c.reader) :
      BufferRead ffc maxelements start c (none, last)

theorem FollowsStream.bufferRead (follows : FollowsStream ffc maxelements start c) :
    BufferRead ffc maxelements start c c.valkeyBufferRead := by
  have unmoved {last : ReplyContext Double} (taken : last.taken = c.taken)
      (blocking : last.output.blocking = c.output.blocking) (pushCb : last.pushCb = c.pushCb) :
      Passes c last :=
    ⟨⟨[], by rw [taken, List.append_nil], nofun⟩, blocking, pushCb⟩
  unfold ReplyContext.valkeyBufferRead
  split
  · rename_i failed
    exact .fails follows (.refl c) failed
  have small : c.reader.buf.length ≤ ssizeMax := (Nat.le_add_right _ _).trans follows.small
  obtain ⟨r, got, park, unread, inside, shorter⟩ := valkeyReaderGetReadBuf_of_ready
    (defaultFunctions Double) follows.ready (1024 * 16) (by decide) small
  have sameErr : r.park.err = c.reader.park.err := by rw [park]
  have sameTask : r.park.task = c.reader.park.task := by rw [park]
  have sameReply : r.park.reply = c.reader.park.reply := by rw [park]
  have ready : Ready r := by
    refine ⟨sameErr.trans follows.ready.alive, inside, ?_⟩
    have started := follows.ready.started
    unfold Started at started ⊢
    rw [show r.task = c.reader.task from sameTask, show r.reply = c.reader.reply from sameReply]
    exact started
  have moved := follows.of_reader ready park unread shorter
  rw [got]
  dsimp only
  split
  · rename_i exhausted
    split
    · rename_i blocked
      refine .waits moved (unmoved rfl rfl rfl) blocked exhausted exhausted ?_
      rw [pendingRun, pendingRun, park, unread]
    · rename_i unblocked
      exact .brings moved (unmoved rfl rfl rfl) (.inr (Bool.not_eq_true _ ▸ unblocked))
  · rename_i bytes reads next
    refine .brings (follows.receive next got) (unmoved rfl rfl rfl) (.inl ?_)
    rw [next]
    exact Nat.lt_succ_self _
  · rename_i reads next
    have nothing : arriving c.reads = arriving reads := by
      rw [next]
      rfl
    refine .brings ?_ (unmoved rfl rfl rfl) (.inl ?_)
    · exact ⟨ready, moved.run, nothing ▸ moved.small, nothing ▸ moved.whole, moved.unfailed,
      moved.pushCb, moved.routed⟩
    · rw [next]
      exact Nat.lt_succ_self _
  · rename_i error reads next
    have nothing : arriving c.reads = arriving reads := by
      rw [next]
      rfl
    refine .fails ?_ (unmoved rfl rfl rfl) (Option.some_ne_none _)
    exact ⟨ready, moved.run, nothing ▸ moved.small, nothing ▸ moved.whole, moved.unfailed,
      moved.pushCb, moved.routed⟩

theorem replyResult_readUntilReply (fuel : Nat) (follows : FollowsStream ffc maxelements start c)
    (blocked : c.output.blocking = true) (drained : NoneLeft ffc c)
    (enough : c.reads.length < fuel) :
    ReplyResult ffc maxelements start c (c.readUntilReply ffc fuel) := by
  induction fuel generalizing c with
  | zero => exact absurd enough (Nat.not_lt_zero _)
  | succ fuel induction =>
      have read := follows.bufferRead
      unfold ReplyContext.readUntilReply
      generalize c.valkeyBufferRead = result at read ⊢
      cases read with
      | @brings last later passes fewer =>
          have fewer : last.reads.length < c.reads.length := by
            apply fewer.resolve_right
            rw [blocked]
            decide
          dsimp only
          have found := later.inBand
          generalize last.valkeyNextInBandReplyFromReader ffc = result at found ⊢
          cases found with
          | @none next further more reads drained =>
              have blockedNext : next.output.blocking = true := by
                rw [more.blocking, passes.blocking, blocked]
              refine (induction further blockedNext drained ?_).after (passes.trans more)
              rw [reads]
              omega
          | reply further more reads => exact .reply further (passes.trans more)
      | fails later passes failed => exact .fails later passes failed
      | waits later passes _ exhausted reads same =>
          refine .waits later passes blocked (.inr reads) ?_
          rw [NoneLeft, same]
          exact drained

theorem write_blocking (output : OutputContext) (outcome : WriteOutcome) :
    (output.write outcome).2.blocking = output.blocking := by
  unfold OutputContext.write
  split
  · cases outcome with
    | takes count => rfl
    | fails failure error =>
        unfold OutputContext.valkeyNetWrite
        dsimp only
        split <;> rfl
  · cases outcome with
    | takes count =>
        unfold OutputContext.valkeyTLSWrite
        dsimp only
        split <;> rfl
    | fails failure error =>
        unfold OutputContext.valkeyTLSWrite
        dsimp only
        split
        · split <;> rfl
        · rfl

theorem write_err {output : OutputContext} {outcome : WriteOutcome}
    (failed : (output.write outcome).1 < 0) : (output.write outcome).2.err ≠ none := by
  unfold OutputContext.write at failed ⊢
  split
  · rename_i plain
    rw [plain] at failed
    cases outcome with
    | takes count => exact absurd failed (by simp [OutputContext.valkeyNetWrite])
    | fails failure error =>
        unfold OutputContext.valkeyNetWrite at failed ⊢
        dsimp only at failed ⊢
        split at failed
        · exact absurd failed (lt_irrefl 0)
        · rename_i fatal
          rw [if_neg fatal]
          exact Option.some_ne_none _
  · rename_i tls privctx
    rw [privctx] at failed
    cases outcome with
    | takes count =>
        unfold OutputContext.valkeyTLSWrite at failed
        dsimp only at failed
        split at failed
        · dsimp only at failed
          omega
        · exact absurd failed (lt_irrefl 0)
    | fails failure error =>
        unfold OutputContext.valkeyTLSWrite at failed ⊢
        dsimp only at failed ⊢
        split
        · rename_i wanted known
          rw [known] at failed
          dsimp only at failed
          split at failed
          · rename_i blocked
            rw [if_pos blocked]
            exact Option.some_ne_none _
          · exact absurd failed (lt_irrefl 0)
        · exact Option.some_ne_none _

/-- What a write of the buffer comes to. -/
structure BufferWrite (output : OutputContext) (result : Status × Option Bool × OutputContext) :
    Prop where
  blocking : result.2.2.blocking = output.blocking
  failed : result.1 = .err → result.2.2.err ≠ none
  dead : output.err ≠ none → result.1 = .err
  done : output.err = none → output.obuf = [] → result.2.1 = some true

theorem bufferWrite_valkeyBufferWrite (output : OutputContext) (outcome : WriteOutcome) :
    BufferWrite output (output.valkeyBufferWrite outcome) := by
  unfold OutputContext.valkeyBufferWrite
  split
  · rename_i failed
    exact ⟨rfl, fun _ => failed, fun _ => rfl, fun alive => absurd alive failed⟩
  rename_i going
  have dead {result : Status} (failed : output.err ≠ none) : result = .err := absurd failed going
  split
  swap
  · rename_i empty
    refine ⟨rfl, nofun, dead, fun _ _ => ?_⟩
    exact congrArg some (decide_eq_true (by omega))
  rename_i some
  have full (empty : output.obuf = []) : False := by
    rw [empty] at some
    exact absurd some (lt_irrefl 0)
  have kept := write_blocking output outcome
  have failing := @write_err output outcome
  generalize output.write outcome = result at kept failing
  obtain ⟨nwritten, last⟩ := result
  dsimp only at kept failing ⊢
  split
  · rename_i negative
    exact ⟨kept, fun _ => failing negative, dead, fun _ empty => (full empty).elim⟩
  split
  · split
    · exact ⟨kept, nofun, dead, fun _ empty => (full empty).elim⟩
    · split
      · exact ⟨kept, fun _ => Option.some_ne_none _, dead, fun _ empty => (full empty).elim⟩
      · exact ⟨kept, nofun, dead, fun _ empty => (full empty).elim⟩
  · exact ⟨kept, nofun, dead, fun _ empty => (full empty).elim⟩

/-- A write of the buffer of a context: it does not return, it fails, or it is done or needs more
writes. -/
inductive ContextWrite (c : ReplyContext Double) :
    Option (Status × Option Bool) × ReplyContext Double → Prop
  | waits (exhausted : c.writes = []) (pending : c.output.obuf ≠ []) : ContextWrite c (none, c)
  | fails {wdone : Option Bool} {output : OutputContext} (writes : List WriteOutcome)
      (blocking : output.blocking = c.output.blocking) (failed : output.err ≠ none) :
      ContextWrite c (some (.err, wdone), { c with output := output, writes := writes })
  | writes {wdone : Option Bool} {output : OutputContext} {writes : List WriteOutcome}
      (blocking : output.blocking = c.output.blocking)
      (done : wdone = some true ∨ writes.length < c.writes.length) :
      ContextWrite c (some (.ok, wdone), { c with output := output, writes := writes })

theorem contextWrite_valkeyBufferWrite (c : ReplyContext Double) :
    ContextWrite c c.valkeyBufferWrite := by
  have writes (outcome : WriteOutcome) (writes : List WriteOutcome)
      (fewer : c.output.err = none → c.output.obuf ≠ [] → writes.length < c.writes.length) :
      ContextWrite c
        (some ((c.output.valkeyBufferWrite outcome).1, (c.output.valkeyBufferWrite outcome).2.1),
          { c with output := (c.output.valkeyBufferWrite outcome).2.2, writes := writes }) := by
    have wrote := bufferWrite_valkeyBufferWrite c.output outcome
    generalize c.output.valkeyBufferWrite outcome = result at wrote ⊢
    obtain ⟨status, wdone, output⟩ := result
    cases status with
    | err => exact .fails writes wrote.blocking (wrote.failed rfl)
    | ok =>
        refine .writes wrote.blocking ?_
        by_cases called : c.output.err = none ∧ c.output.obuf ≠ []
        · exact .inr (fewer called.1 called.2)
        · left
          by_cases alive : c.output.err = none
          · apply wrote.done alive
            by_contra some
            exact called ⟨alive, some⟩
          · cases wrote.dead alive
  unfold ReplyContext.valkeyBufferWrite
  cases next : c.writes with
  | nil =>
      dsimp only
      split
      · rename_i called
        exact .waits next called.2
      · rename_i idle
        have wrote := writes (.takes 0) c.writes fun alive some => absurd ⟨alive, some⟩ idle
        rwa [next] at wrote
  | cons outcome rest =>
      dsimp only
      split
      · exact writes outcome rest fun _ _ => next ▸ Nat.lt_succ_self _
      · rename_i idle
        exact writes outcome (outcome :: rest) fun alive some => absurd ⟨alive, some⟩ idle

/-- What writing until done comes to. -/
structure Flushed (c : ReplyContext Double) (result : Option Status × ReplyContext Double) :
    Prop where
  rest : ∃ output writes, result.2 = { c with output := output, writes := writes } ∧
    output.blocking = c.output.blocking
  failed : result.1 = some .err → result.2.output.err ≠ none
  waits : result.1 = none → result.2.writes = [] ∧ result.2.output.obuf ≠ []

theorem flushed_writeUntilDone (fuel : Nat) (enough : c.writes.length < fuel) :
    Flushed c (ReplyContext.writeUntilDone fuel c) := by
  induction fuel generalizing c with
  | zero => exact absurd enough (Nat.not_lt_zero _)
  | succ fuel induction =>
      have wrote := contextWrite_valkeyBufferWrite c
      unfold ReplyContext.writeUntilDone
      generalize c.valkeyBufferWrite = result at wrote ⊢
      cases wrote with
      | waits exhausted pending =>
          exact ⟨⟨c.output, c.writes, rfl, rfl⟩, nofun, fun _ => ⟨exhausted, pending⟩⟩
      | fails writes blocking failed =>
          exact ⟨⟨_, writes, rfl, blocking⟩, fun _ => failed, nofun⟩
      | @writes wdone output writes blocking done =>
          dsimp only
          split
          · exact ⟨⟨output, writes, rfl, blocking⟩, nofun, nofun⟩
          · rename_i more
            have fewer := done.resolve_left more
            obtain ⟨⟨last, left, same, kept⟩, failed, waits⟩ :=
              @induction { c with output := output, writes := writes } (by dsimp only; omega)
            exact ⟨⟨last, left, same, kept.trans blocking⟩, failed, waits⟩

theorem FollowsStream.getReply (follows : FollowsStream ffc maxelements start c) :
    ReplyResult ffc maxelements start c (c.valkeyGetReply ffc) := by
  have found := follows.inBand
  unfold ReplyContext.valkeyGetReply
  generalize c.valkeyNextInBandReplyFromReader ffc = result at found ⊢
  cases found with
  | @none first later passes reads drained =>
      dsimp only
      split
      · rename_i blocked
        have wasBlocked : c.output.blocking = true := passes.blocking ▸ blocked
        have flushed := @flushed_writeUntilDone Double first _ (Nat.lt_succ_self _)
        generalize ReplyContext.writeUntilDone _ first = result at flushed ⊢
        obtain ⟨status, last⟩ := result
        obtain ⟨⟨output, writes, same, blocking⟩, failed, waits⟩ := flushed
        dsimp only at same failed waits
        subst same
        have written := later.of_output output writes
        have unread : Passes first { first with output := output, writes := writes } :=
          ⟨⟨[], (List.append_nil _).symm, nofun⟩, blocking, rfl⟩
        match status with
        | .none =>
            exact .waits written (passes.trans unread) wasBlocked (.inl (waits rfl)) drained
        | some .err => exact .fails written (passes.trans unread) (failed rfl)
        | some .ok =>
            dsimp only
            apply ReplyResult.after (passes.trans unread)
            exact replyResult_readUntilReply _ written (blocking.trans blocked) drained
              (Nat.lt_succ_self _)
      · rename_i unblocked
        apply ReplyResult.nothing later passes _ drained
        rw [← passes.blocking]
        exact Bool.not_eq_true _ ▸ unblocked
  | reply later passes reads => exact .reply later passes

/-! ## Runs -/

theorem ReplyResult.follows {result : Option (Status × Option Nat) × ReplyContext Double}
    (result_ : ReplyResult ffc maxelements start c result) :
    FollowsStream ffc maxelements start result.2 := by
  cases result_ with
  | reply follows passes => exact follows
  | nothing follows passes unblocked drained => exact follows
  | fails follows passes failed => exact follows
  | waits follows passes blocked exhausted drained => exact follows

theorem FollowsStream.call (follows : FollowsStream ffc maxelements start c)
    (call : ReplyContext.Call) : FollowsStream ffc maxelements start (c.call ffc call).2 := by
  cases call with
  | append cmd => exact follows.of_output _ c.writes
  | bufferWrite =>
      have wrote := contextWrite_valkeyBufferWrite c
      unfold ReplyContext.call
      dsimp only
      generalize c.valkeyBufferWrite = result at wrote ⊢
      cases wrote with
      | waits exhausted pending => exact follows
      | fails writes blocking failed => exact follows.of_output _ writes
      | @writes wdone output writes blocking done => exact follows.of_output output writes
  | bufferRead =>
      have read := follows.bufferRead
      unfold ReplyContext.call
      dsimp only
      generalize c.valkeyBufferRead = result at read ⊢
      cases read with
      | brings later passes fewer => exact later
      | fails later passes failed => exact later
      | waits later passes blocked exhausted reads same => exact later
  | getReply => exact follows.getReply.follows

theorem FollowsStream.run_calls (follows : FollowsStream ffc maxelements start c)
    (calls : List ReplyContext.Call) :
    FollowsStream ffc maxelements start (c.run ffc calls) := by
  induction calls generalizing c with
  | nil => exact follows
  | cons first rest induction =>
      have later := follows.call first
      unfold ReplyContext.run
      split
      · rename_i last same
        rw [same] at later
        exact induction later
      · rename_i last same
        rw [same] at later
        exact later

end Steps

/-! ## Order -/

def ReplyTree.isPush : ReplyTree → Bool
  | .aggregate .push _ => true
  | _ => false

/-- The replies that were taken are the first ones of the stream. The pushed ones went to `push_cb`,
if there is one, and the other ones were returned. -/
def TakenInOrder (ffc : DoubleParser Double) (trees : List ReplyTree) (pushCb : Bool)
    (taken : List (TakenReply Double)) : Prop :=
  List.Forall₂
    (fun t tree => Holds ffc t.objects t.reply tree ∧
      (t.pushed = true ↔ pushCb = true ∧ tree.isPush = true))
    taken (trees.take taken.length)

/-- Every reply of the stream that has arrived completely is taken. -/
def AllTaken (ffc : DoubleParser Double) (maxelements : Int) (trees : List ReplyTree)
    (c : ReplyContext Double) : Prop :=
  ∀ (count : Nat) (bytes left : Bytes), count ≤ trees.length →
    Frames ffc maxelements (trees.take count) bytes → c.received = bytes ++ left →
      count ≤ c.taken.length

/-- What a call returns. The pushed replies before it go to `push_cb`. -/
inductive GetsNext (ffc : DoubleParser Double) (maxelements : Int) (trees : List ReplyTree)
    (c : ReplyContext Double) : Option (Status × Option Nat) × ReplyContext Double → Prop
  | reply {reply : Nat} {last : ReplyContext Double} (pushes : List (TakenReply Double))
      (handled : ∀ t ∈ pushes, t.pushed = true)
      (taken : last.taken = c.taken ++ pushes ++ [⟨false, reply, last.reader.heap⟩]) :
      GetsNext ffc maxelements trees c (some (.ok, some reply), last)
  | nothing {last : ReplyContext Double} (pushes : List (TakenReply Double))
      (handled : ∀ t ∈ pushes, t.pushed = true) (taken : last.taken = c.taken ++ pushes)
      (unblocked : c.output.blocking = false) (all : AllTaken ffc maxelements trees last) :
      GetsNext ffc maxelements trees c (some (.ok, none), last)
  | fails {last : ReplyContext Double} (pushes : List (TakenReply Double))
      (handled : ∀ t ∈ pushes, t.pushed = true) (taken : last.taken = c.taken ++ pushes)
      (failed : last.output.err ≠ none) :
      GetsNext ffc maxelements trees c (some (.err, none), last)
  | waits {last : ReplyContext Double} (pushes : List (TakenReply Double))
      (handled : ∀ t ∈ pushes, t.pushed = true) (taken : last.taken = c.taken ++ pushes)
      (blocked : c.output.blocking = true)
      (exhausted : last.writes = [] ∧ last.output.obuf ≠ [] ∨ last.reads = [])
      (all : AllTaken ffc maxelements trees last) : GetsNext ffc maxelements trees c (none, last)

section Order

variable {ffc : DoubleParser Double} {maxelements : Int} {trees : List ReplyTree} {bytes : Bytes}

theorem Holds.isPush {objects : ReplyHeap Double} {reply : Nat} {tree : ReplyTree}
    (holds : Holds ffc objects reply tree) : isPushReply objects reply = tree.isPush := by
  cases holds with
  | mk object children =>
      unfold isPushReply
      rw [object]
      cases tree with
      | aggregate kind children => cases kind <;> rfl
      | _ => rfl

/-- The run on a stream of frames. -/
theorem streamRun_frames (frames : Frames ffc maxelements trees bytes)
    (short : ReplyTree.AllShortLines trees) (countable : ReplyTree.AllCountable trees)
    (more : Bytes) :
    ∃ (outputs : List (Option Nat × ReplyHeap Double))
      (last : ValkeyReader (ReplyHeap Double) Nat), List.Forall₂ (Decodes ffc) outputs trees ∧
      Ready last ∧ last.unread = more ∧
      streamRun ffc maxelements (bytes ++ more) =
        (outputs ++ (pendingRun ffc last).1, (pendingRun ffc last).2) := by
  have ready :
      Ready { newReader Nat ([] : ReplyHeap Double) maxelements with buf := bytes ++ more } :=
    ⟨rfl, Nat.zero_le _, fun two => by simp [newReader, valkeyReaderCreate] at two⟩
  obtain ⟨outputs, last, decodes, lastReady, _, _, unread, run⟩ :=
    run_frames frames short countable ready rfl rfl rfl
  exact ⟨outputs, last, decodes, lastReady, unread, run⟩

/-- A whole stream of frames is read without a failure. -/
theorem streamRun_whole (frames : Frames ffc maxelements trees bytes)
    (short : ReplyTree.AllShortLines trees) (countable : ReplyTree.AllCountable trees) :
    List.Forall₂ (Decodes ffc) (streamRun ffc maxelements bytes).1 trees ∧
      (streamRun ffc maxelements bytes).2.failure? = none := by
  obtain ⟨outputs, last, decodes, ready, unread, run⟩ := streamRun_frames frames short countable []
  obtain ⟨next, rest, waits⟩ := run_of_no_bytes ffc (defaultFunctions Double) ready unread
  have nothing : pendingRun ffc last = ([], .waiting next rest) := waits
  rw [List.append_nil, nothing, List.append_nil] at run
  rw [run]
  exact ⟨decodes, rfl⟩

theorem follows_newReplies {output : OutputContext} {pushCb : Bool} {writes : List WriteOutcome}
    {reads : List ReadOutcome} (fits : (arriving reads).length ≤ ssizeMax)
    (unfailed : (streamRun ffc maxelements (arriving reads)).2.failure? = none) :
    FollowsStream ffc maxelements (newReplies output maxelements pushCb writes reads)
      (newReplies output maxelements pushCb writes reads) where
  ready := ready_newReader [] maxelements
  run := rfl
  small := (Nat.zero_add _).trans_le fits
  whole := rfl
  unfailed := unfailed
  pushCb := rfl
  routed := nofun

variable {start c : ReplyContext Double}

/-- What was taken is what the stream begins with. -/
theorem FollowsStream.decodes (follows : FollowsStream ffc maxelements start c)
    (frames : Frames ffc maxelements trees bytes) (short : ReplyTree.AllShortLines trees)
    (countable : ReplyTree.AllCountable trees) (received : c.received <+: bytes) :
    List.Forall₂ (Decodes ffc) (c.taken.map TakenReply.output) (trees.take c.taken.length) := by
  obtain ⟨more, rfl⟩ := received
  have whole := (streamRun_whole frames short countable).1
  have fed : streamRun ffc maxelements (c.received ++ more) =
      (readerConsumer ffc (defaultFunctions Double)).feed (streamRun ffc maxelements c.received)
        more := ((readerConsumer ffc (defaultFunctions Double)).feed_run _ _ _).symm
  rw [fed, follows.run, Consumer.feed_prepend] at whole
  have first := List.forall₂_take c.taken.length whole
  rwa [List.take_append_of_le_length (List.length_map _).ge,
    List.take_of_length_le (List.length_map _).le] at first

theorem FollowsStream.inOrder (follows : FollowsStream ffc maxelements start c)
    (frames : Frames ffc maxelements trees bytes) (short : ReplyTree.AllShortLines trees)
    (countable : ReplyTree.AllCountable trees) (received : c.received <+: bytes) :
    TakenInOrder ffc trees c.pushCb c.taken := by
  have decodes := List.forall₂_map_left_iff.mp (follows.decodes frames short countable received)
  have routed := follows.routed
  unfold TakenInOrder
  generalize trees.take c.taken.length = first at decodes
  clear follows frames short countable received
  generalize c.taken = taken at decodes routed
  induction decodes with
  | nil => exact .nil
  | @cons t tree taken first decodes rest induction =>
      refine .cons ?_ (induction fun other member => routed other (List.mem_cons_of_mem _ member))
      obtain ⟨reply, same, holds⟩ := decodes
      obtain rfl : t.reply = reply := Option.some.inj same
      have holds : Holds ffc t.objects t.reply tree := holds
      refine ⟨holds, ?_⟩
      rw [routed t List.mem_cons_self, holds.isPush, Bool.and_eq_true]

theorem ReplyTree.AllShortLines.take (short : ReplyTree.AllShortLines trees) (count : Nat) :
    ReplyTree.AllShortLines (trees.take count) := by
  induction trees generalizing count with
  | nil => rwa [List.take_nil]
  | cons tree trees induction =>
      cases count with
      | zero => trivial
      | succ count => exact ⟨short.1, induction short.2 count⟩

theorem ReplyTree.AllCountable.take (countable : ReplyTree.AllCountable trees) (count : Nat) :
    ReplyTree.AllCountable (trees.take count) := by
  induction trees generalizing count with
  | nil => rwa [List.take_nil]
  | cons tree trees induction =>
      cases count with
      | zero => trivial
      | succ count => exact ⟨countable.1, induction countable.2 count⟩

theorem FollowsStream.allTaken (follows : FollowsStream ffc maxelements start c)
    (drained : NoneLeft ffc c) (short : ReplyTree.AllShortLines trees)
    (countable : ReplyTree.AllCountable trees) : AllTaken ffc maxelements trees c := by
  rintro count bytes left inside frames received
  obtain ⟨outputs, last, decodes, _, _, run⟩ :=
    streamRun_frames frames (short.take count) (countable.take count) left
  have same := follows.run
  rw [received, run, drained, List.append_nil] at same
  have lengths := congrArg (fun result => result.1.length) same
  dsimp only at lengths
  rw [List.length_append, List.length_map, decodes.length_eq, List.length_take] at lengths
  omega

/-- What a call returns, in terms of the replies of the stream. -/
theorem FollowsStream.getsNext (follows : FollowsStream ffc maxelements start c)
    (short : ReplyTree.AllShortLines trees) (countable : ReplyTree.AllCountable trees) :
    GetsNext ffc maxelements trees c (c.valkeyGetReply ffc) := by
  have result := follows.getReply
  generalize c.valkeyGetReply ffc = answer at result ⊢
  cases result with
  | @reply reply last later passes =>
      obtain ⟨pushes, taken, handled⟩ := passes.taken
      refine .reply pushes handled ?_
      dsimp only [ReplyContext.take]
      rw [taken]
  | nothing later passes unblocked drained =>
      obtain ⟨pushes, taken, handled⟩ := passes.taken
      exact .nothing pushes handled taken unblocked (later.allTaken drained short countable)
  | fails later passes failed =>
      obtain ⟨pushes, taken, handled⟩ := passes.taken
      exact .fails pushes handled taken failed
  | waits later passes blocked exhausted drained =>
      obtain ⟨pushes, taken, handled⟩ := passes.taken
      exact .waits pushes handled taken blocked exhausted (later.allTaken drained short countable)

end Order

/-- A context with a new reader after some calls. -/
def repliesAfter (ffc : DoubleParser Double) (output : OutputContext) (maxelements : Int)
    (pushCb : Bool) (writes : List WriteOutcome) (reads : List ReadOutcome)
    (calls : List ReplyContext.Call) : ReplyContext Double :=
  (newReplies output maxelements pushCb writes reads).run ffc calls

/-- The replies of a stream of frames whose lines and numbers of children fit an `int` are passed
to `push_cb` or returned, each once and in their order, however they arrive. -/
theorem replies_in_order (ffc : DoubleParser Double) (output : OutputContext) (maxelements : Int)
    (pushCb : Bool) (writes : List WriteOutcome) (reads : List ReadOutcome) (trees : List ReplyTree)
    (bytes : Bytes) (frames : Frames ffc maxelements trees bytes)
    (short : ReplyTree.AllShortLines trees) (countable : ReplyTree.AllCountable trees)
    (arrives : arriving reads <+: bytes) (fits : (arriving reads).length ≤ ssizeMax)
    (calls : List ReplyContext.Call) :
    TakenInOrder ffc trees pushCb
        (repliesAfter ffc output maxelements pushCb writes reads calls).taken ∧
      (repliesAfter ffc output maxelements pushCb writes reads calls).reader.err = none ∧
      GetsNext ffc maxelements trees (repliesAfter ffc output maxelements pushCb writes reads calls)
        ((repliesAfter ffc output maxelements pushCb writes reads calls).valkeyGetReply ffc) := by
  have unfailed : (streamRun ffc maxelements (arriving reads)).2.failure? = none := by
    obtain ⟨more, rfl⟩ := arrives
    exact (readerConsumer ffc (defaultFunctions Double)).run_prefix_not_failed more
      (streamRun_whole frames short countable).2
  have follows :=
    (@follows_newReplies _ _ _ output pushCb writes reads fits unfailed).run_calls calls
  have received : (repliesAfter ffc output maxelements pushCb writes reads calls).received
      <+: bytes :=
    List.IsPrefix.trans ⟨_, follows.whole⟩ arrives
  have ordered := follows.inOrder frames short countable received
  rw [follows.pushCb] at ordered
  exact ⟨ordered, follows.ready.alive, follows.getsNext short countable⟩

/-! ## Examples -/

/-- A pushed message and a status. -/
def pushedStatus : List ReplyTree :=
  [.aggregate .push [.string (ascii "a")], .status (ascii "OK")]

theorem frames_pushedStatus :
    Frames DoubleParser.namesOnly readerMaxArrayElements pushedStatus
      (ReplyTree.encodeAll pushedStatus) :=
  ReplyTree.AllEncodable.frames
    ⟨⟨⟨1, rfl, by decide, by decide⟩, trivial, trivial⟩, (by decide : Simple (ascii "OK")), trivial⟩
    (by decide)

/-- The call after both have arrived, in reads that cut the status. -/
def pushedStatusReplies : ReplyContext String :=
  repliesAfter DoubleParser.namesOnly (newOutput true false) readerMaxArrayElements true []
    [.bytes (ascii ">1\r\n$1\r\na\r\n+O"), .bytes (ascii "K\r\n")] [.getReply]

theorem replies_in_order_pushedStatus :
    TakenInOrder DoubleParser.namesOnly pushedStatus true pushedStatusReplies.taken ∧
      pushedStatusReplies.taken.map TakenReply.pushed = [true, false] := by
  refine ⟨?_, by rfl⟩
  exact (replies_in_order DoubleParser.namesOnly
    (newOutput true false) readerMaxArrayElements true []
    _ pushedStatus _ frames_pushedStatus
    ⟨⟨trivial, trivial⟩, (by decide : (ascii "OK").length + 2 < 2 ^ 31), trivial⟩
    ⟨⟨by decide, trivial, trivial⟩, trivial, trivial⟩ (by decide) (by decide) [.getReply]).1

/-- A reader that has received a status of `2^31` bytes. -/
def longStatusReader (text : Bytes) : ValkeyReader (ReplyHeap Double) Nat :=
  { newReader Nat [] readerMaxArrayElements with buf := (ReplyTree.status text).encode }

/-- The length of the line is negative as an `int`, and no string of that length can be made. -/
theorem getReply_long_status (ffc : DoubleParser Double) {text : Bytes} (simple : Simple text)
    (long : text.length = 2 ^ 31) :
    (valkeyReaderGetReply ffc (defaultFunctions Double) (longStatusReader text)).1 = .err := by
  have ready : Ready (longStatusReader text : ValkeyReader (ReplyHeap Double) Nat) :=
    ⟨rfl, Nat.zero_le _,
      fun two => by simp [longStatusReader, newReader, valkeyReaderCreate] at two⟩
  have atValue : AtValue (startReply (longStatusReader text : ValkeyReader (ReplyHeap Double) Nat))
      rootTask [] (ReplyType.status.byte :: (text ++ crlf)) := atValue_startReply ready rfl
  have item := @processItem_of_value Double ffc _ _ _ _ _ atValue
  have unread := unread_typed atValue.unread rootTask [] ReplyType.status
  have found : seekNewline (text ++ crlf) = some (2 ^ 31) := by
    rw [← long]
    simpa [crlf] using (endsAtFirstNewline_of_not_mem simple.1).seek []
  -- `len` is `-2^31`, and `2^64 - 2^31` as a `size_t`.
  have line : readLine (typed (startReply (longStatusReader text)) rootTask [] ReplyType.status) =
      some (text ++ crlf, -2147483648,
        { typed (startReply (longStatusReader text : ValkeyReader (ReplyHeap Double) Nat)) rootTask []
            ReplyType.status with
          pos := moveCursor (typed (startReply (longStatusReader text :
            ValkeyReader (ReplyHeap Double) Nat)) rootTask [] ReplyType.status).pos (-2147483646)
          overflow := false }) := by
    rw [readLine, unread, found]
    rfl
  have processed : processItem ffc (defaultFunctions Double) (startReply (longStatusReader text)) =
      (.err, valkeyReaderSetErrorOOM (defaultFunctions Double)
        { typed (startReply (longStatusReader text : ValkeyReader (ReplyHeap Double) Nat)) rootTask []
            ReplyType.status with
          pos := moveCursor (typed (startReply (longStatusReader text :
            ValkeyReader (ReplyHeap Double) Nat)) rootTask [] ReplyType.status).pos (-2147483646)
          overflow := false }) := by
    rw [item]
    exact (processLineItem_of_line ffc (defaultFunctions Double) rfl line).trans rfl
  unfold valkeyReaderGetReply
  rw [if_neg (not_not.mpr ready.alive),
    if_neg (by simp [longStatusReader, ReplyTree.encode, encodeLine]),
    processItems, if_neg (startReply_task_ne_nil _), processed]
  rfl

/-- A status of `2^31` bytes is a frame, and it is lost. -/
theorem lost_of_long_status (ffc : DoubleParser Double) {text : Bytes} (simple : Simple text)
    (long : text.length = 2 ^ 31) :
    Frames ffc readerMaxArrayElements [.status text] ((ReplyTree.status text).encode ++ []) ∧
      (ReplyTree.status text).encode.length ≤ ssizeMax ∧
      ((repliesAfter ffc (newOutput false false) readerMaxArrayElements false []
        [.bytes (ReplyTree.status text).encode] [.bufferRead]).valkeyGetReply ffc).1 =
          some (.err, none) := by
  have lost := getReply_long_status ffc simple long
  refine ⟨.cons (.line (.status simple)) .nil, ?_, ?_⟩
  · rw [ReplyTree.encode, encodeLine, List.length_cons, List.length_append, long]
    decide
  · have received : repliesAfter ffc (newOutput false false) readerMaxArrayElements false []
        [.bytes (ReplyTree.encode (.status text))] [.bufferRead] =
          { (newReplies (newOutput false false) readerMaxArrayElements false [] [] :
              ReplyContext Double) with
            reader := longStatusReader text
            received := ReplyTree.encode (.status text) } := rfl
    rw [received, ReplyContext.valkeyGetReply, ReplyContext.valkeyNextInBandReplyFromReader,
      ReplyContext.nextInBandReply, ReplyContext.valkeyGetReplyFromReader]
    dsimp only
    generalize valkeyReaderGetReply ffc (defaultFunctions Double) (longStatusReader text) = result
      at lost ⊢
    obtain ⟨status, reply, last⟩ := result
    dsimp only at lost
    subst lost
    rfl

theorem long_status_lost :
    let text := List.replicate (2 ^ 31) 'a'.toUInt8
    Frames DoubleParser.namesOnly readerMaxArrayElements [.status text]
        ((ReplyTree.status text).encode ++ []) ∧
      (ReplyTree.status text).encode.length ≤ ssizeMax ∧
      ((repliesAfter DoubleParser.namesOnly (newOutput false false) readerMaxArrayElements false []
        [.bytes (ReplyTree.status text).encode] [.bufferRead]).valkeyGetReply
          DoubleParser.namesOnly).1 = some (.err, none) :=
  lost_of_long_status DoubleParser.namesOnly
    ⟨fun member => absurd (List.eq_of_mem_replicate member) (by decide),
      fun member => absurd (List.eq_of_mem_replicate member) (by decide)⟩
    List.length_replicate

end Libvalkey
