import Libvalkey.Reader.Stream
import Libvalkey.Reply.Objects

/-! # Chunks

The replies and the error that a reader comes to depend on the bytes it is fed,
not on the way they are cut into chunks. -/

namespace Libvalkey

open ValkeyReader Incremental

variable {Heap Obj Double : Type}

/-- Bytes handed to `valkeyReaderFeed`, or put into the buffer that
`valkeyReaderGetReadBuf` returned and then committed. -/
inductive Chunk
  | feed (buf : Bytes)
  | read (minbytes : Nat) (bytes : Bytes)

namespace Chunk

def bytes : Chunk → Bytes
  | .feed buf => buf
  | .read _ bytes => bytes

/-- The caller asks for a buffer that can exist. -/
def InRange : Chunk → Prop
  | .feed _ => True
  | .read minbytes _ => minbytes ≤ ssizeMax

end Chunk

def receive (fn : ReplyObjectFunctions Heap Obj Double) (r : ValkeyReader Heap Obj) :
    Chunk → ValkeyReader Heap Obj
  | .feed buf => (valkeyReaderFeed fn r buf).2
  | .read minbytes bytes =>
      match valkeyReaderGetReadBuf fn r minbytes with
      | (.err, r) => r
      | (.ok, r) => valkeyReaderCommitRead r bytes

section Drain

variable (ffc : DoubleParser Double) (fn : ReplyObjectFunctions Heap Obj Double)

/-- Call `valkeyReaderGetReply` until it yields nothing. A reply is kept with the
heap at the time it was completed. -/
def drain : Nat → ValkeyReader Heap Obj → List (Obj × Heap) × ValkeyReader Heap Obj
  | 0, r => ([], r)
  | fuel + 1, r =>
      match valkeyReaderGetReply ffc fn r with
      | (.ok, some reply, r) =>
          let later := drain fuel r
          ((reply, r.heap) :: later.1, later.2)
      | (_, _, r) => ([], r)

/-- Drain the reader after every chunk. A reply takes at least one byte, so the
unread bytes bound the number of replies. -/
def receiveAll : List Chunk → ValkeyReader Heap Obj →
    List (Obj × Heap) × ValkeyReader Heap Obj
  | [], r => ([], r)
  | chunk :: rest, r =>
      let r := receive fn r chunk
      let now := drain ffc fn (r.unread.length + 1) r
      let later := receiveAll rest now.2
      (now.1 ++ later.1, later.2)

/-- A call of `readLine`, somewhere in the stream, finds a line that takes
`2^31` bytes or more with its `\r\n`. -/
def readsOverlongLine (r : ValkeyReader Heap Obj) (stream : Bytes) : Bool :=
  match ((readerConsumer ffc fn).run r stream).2 with
  | .failed .overlongLine => true
  | _ => false

end Drain

/-! ## Draining -/

section Draining

variable {r : ValkeyReader Heap Obj} (ffc : DoubleParser Double)
  (fn : ReplyObjectFunctions Heap Obj Double)

/-- A reader that can go on. -/
structure Ready (r : ValkeyReader Heap Obj) : Prop where
  alive : r.err = none
  inside : r.pos ≤ r.buf.length
  started : Started r

theorem Ready.self_aligned (ready : Ready r) : Aligned [] r r :=
  ⟨rfl, (List.append_nil _).symm, ready.inside, ready.inside⟩

theorem Ready.startReply (ready : Ready r) : Ready (startReply r) := by
  have fields := startReply_fields r
  refine ⟨fields.2.1.trans ready.alive, by rw [fields.2.2.2.1, fields.2.2.2.2]; exact ready.inside,
    ?_⟩
  unfold Libvalkey.startReply
  split
  · intro two
    simp at two
  · exact ready.started

/-- The consumer makes the step that the reader makes. -/
theorem streamStep_of_ready (ready : Ready r) :
    streamStep ffc fn r.park r.unread = nextItem ffc fn (startReply r) := by
  have loaded := aligned_load ready.inside []
  rw [List.append_nil] at loaded
  rw [streamStep_of_alive ffc fn (show r.park.err = none from ready.alive), load_park]
  exact nextItem_realign ffc fn (aligned_startReply loaded) (startReply_task_ne_nil r)
    ready.startReply.alive

/-- Where the loop over the items of a reply stops, against the run of the consumer. -/
inductive Stops (r last : ValkeyReader Heap Obj) :
    List (Option Obj × Heap) × Outcome (ValkeyReader Heap Obj) UInt8 (ReaderFailure Heap Obj) →
      Prop
  | failed (dead : last.err ≠ none) : Stops r last ([], .failed (.stopped last))
  | waiting (ready : Ready last) (sameBuf : last.buf = r.buf) (busy : last.task ≠ []) :
      Stops r last ([], .waiting last.park last.unread)
  | replied {reply : Obj} (ready : Ready last) (sameBuf : last.buf = r.buf)
      (done : last.task = []) (replied : last.reply = some reply)
      (shorter : last.unread.length < r.unread.length)
      {later : List (Option Obj × Heap) ×
        Outcome (ValkeyReader Heap Obj) UInt8 (ReaderFailure Heap Obj)}
      (rest : (readerConsumer ffc fn).run { last with reply := none }.park last.unread = later) :
      Stops r last ((some reply, last.heap) :: later.1, later.2)

theorem Stops.weaken {next last : ValkeyReader Heap Obj}
    {done : List (Option Obj × Heap) ×
      Outcome (ValkeyReader Heap Obj) UInt8 (ReaderFailure Heap Obj)}
    (stops : Stops ffc fn next last done) (sameBuf : next.buf = r.buf)
    (shorter : next.unread.length ≤ r.unread.length) : Stops ffc fn r last done := by
  cases stops with
  | failed dead => exact .failed dead
  | waiting ready keptBuf busy => exact .waiting ready (keptBuf.trans sameBuf) busy
  | replied ready keptBuf done replied fewer rest =>
      exact .replied ready (keptBuf.trans sameBuf) done replied (by omega) rest

theorem processItems_of_done (fuel : Nat) (done : r.task = []) :
    processItems ffc fn fuel r = r := by
  cases fuel with
  | zero => rfl
  | succ fuel => rw [processItems, if_pos done]

theorem readsOverlongLine_false_iff (input : Bytes) :
    readsOverlongLine ffc fn r input = false ↔
      ((readerConsumer ffc fn).run r input).2 ≠ .failed .overlongLine := by
  unfold readsOverlongLine
  split
  · rename_i overlong
    simp [overlong]
  · rename_i other
    simpa using other

theorem processItems_stops (fuel : Nat) (ready : Ready r) (busy : r.task ≠ [])
    (enough : r.unread.length < fuel) (short : readsOverlongLine ffc fn r.park r.unread = false) :
    Stops ffc fn r (processItems ffc fn fuel r)
      ((readerConsumer ffc fn).run r.park r.unread) := by
  induction fuel generalizing r with
  | zero => exact absurd enough (Nat.not_lt_zero _)
  | succ fuel induction =>
      have step : (readerConsumer ffc fn).step r.park r.unread = nextItem ffc fn r := by
        have started := streamStep_of_ready ffc fn ready
        rwa [startReply_of_busy busy] at started
      have shortItem : overlongLine r = false := by
        by_contra overlong
        rw [readsOverlongLine_false_iff] at short
        apply short
        rw [Consumer.run_of_failed _ (step.trans _)]
        simp only [nextItem, if_pos (by simpa using overlong)]
      rw [nextItem, shortItem] at step
      simp only [Bool.false_eq_true, if_false] at step
      have leaves := leaves_processItem ffc fn ready.started busy
      rw [processItems, if_neg busy]
      rcases processItem_cases ffc fn ready.self_aligned busy shortItem with ⟨continues, _⟩ |
        ⟨waiting, _, waits, stillAlive, stillBusy, aligned, _⟩
      · generalize processItem ffc fn r = result at step leaves continues
        cases continues with
        | @ok next _ aligned consumed alive =>
            have nextReady : Ready next :=
              ⟨alive.trans ready.alive, aligned.inside, fun _ => leaves.2⟩
            by_cases done : next.task = []
            · obtain ⟨reply, replied⟩ := Option.isSome_iff_exists.mp leaves.2
              rw [itemVerdict_of_done done] at step
              rw [Consumer.run_of_progress _ step, replied]
              simp only [processItems_of_done ffc fn fuel done]
              exact .replied nextReady leaves.1 done replied consumed rfl
            · have progress : (readerConsumer ffc fn).step r.park r.unread =
                  .progress [] next.park next.unread := by
                rw [step, itemVerdict, if_neg done]
              have sameRun := Consumer.run_of_progress _ progress
              rw [List.nil_append] at sameRun
              rw [readsOverlongLine_false_iff, sameRun] at short
              rw [sameRun]
              exact (induction nextReady done (by omega)
                ((readsOverlongLine_false_iff ffc fn _).mpr short)).weaken ffc fn leaves.1
                  (by omega)
        | @failed next dead =>
            have failed : (readerConsumer ffc fn).step r.park r.unread =
                .failed (.stopped next) := by
              rw [step, itemVerdict, if_neg dead]
            rw [Consumer.run_of_failed _ failed]
            exact .failed dead
      · rw [waits] at step leaves ⊢
        have waitingAlive : waiting.err = none := stillAlive.trans ready.alive
        obtain ⟨sameBuf, sameReply, sameDepth, _⟩ := leaves waitingAlive
        have starved : (readerConsumer ffc fn).step r.park r.unread =
            .starved waiting.park waiting.unread := by
          rw [step, itemVerdict, if_pos waitingAlive]
        rw [Consumer.run_of_starved _ starved]
        refine .waiting ⟨waitingAlive, aligned.inside, ?_⟩ sameBuf stillBusy
        intro two
        rw [sameReply]
        exact ready.started (by rwa [← sameDepth])

/-- A reader without unread bytes waits. -/
theorem run_of_no_bytes (ready : Ready r) (empty : r.unread = []) :
    ∃ next rest, (readerConsumer ffc fn).run r.park r.unread = ([], .waiting next rest) := by
  have fields := startReply_fields r
  obtain ⟨short, waiting, waits, alive⟩ := processItem_of_no_bytes ffc fn
    ready.startReply.inside (startReply_task_ne_nil r) (fields.1.trans empty)
  have waitingAlive : waiting.err = none := alive.trans ready.startReply.alive
  have starved : (readerConsumer ffc fn).step r.park r.unread =
      .starved waiting.park waiting.unread := by
    refine (streamStep_of_ready ffc fn ready).trans ?_
    simp [nextItem, short, waits, itemVerdict, waitingAlive]
  exact ⟨_, _, Consumer.run_of_starved _ starved⟩

/-- Starting a reply changes nothing for the consumer. -/
theorem run_startReply (ready : Ready r) :
    (readerConsumer ffc fn).run (startReply r).park (startReply r).unread =
      (readerConsumer ffc fn).run r.park r.unread := by
  have started := streamStep_of_ready ffc fn ready.startReply
  rw [startReply_of_busy (startReply_task_ne_nil r), ← streamStep_of_ready ffc fn ready] at started
  rw [(startReply_fields r).1] at started ⊢
  exact Consumer.run_eq_of_step_eq _ started

/-- Both stand at the same place: they come to the same with any bytes that follow. -/
inductive Tracks (r : ValkeyReader Heap Obj) :
    Outcome (ValkeyReader Heap Obj) UInt8 (ReaderFailure Heap Obj) → Prop
  | waiting {next : ValkeyReader Heap Obj} {rest : Bytes} (ready : Ready r)
      (same : ∀ more, (readerConsumer ffc fn).run next (rest ++ more) =
        (readerConsumer ffc fn).run r.park (r.unread ++ more)) : Tracks r (.waiting next rest)
  | stopped {final : ValkeyReader Heap Obj} (dead : r.err ≠ none) (err : r.err = final.err)
      (errstr : r.errstr = final.errstr) : Tracks r (.failed (.stopped final))

/-- What the consumer puts out for a reply. -/
def emitted (reply : Obj × Heap) : Option Obj × Heap := (some reply.1, reply.2)

/-- The result of one call of `valkeyReaderGetReply`, against the run of the consumer. -/
theorem valkeyReaderGetReply_cases (ready : Ready r)
    (short : readsOverlongLine ffc fn r.park r.unread = false) :
    (∃ status last, valkeyReaderGetReply ffc fn r = (status, none, last) ∧
        ((readerConsumer ffc fn).run r.park r.unread).1 = [] ∧
        Tracks ffc fn last ((readerConsumer ffc fn).run r.park r.unread).2 ∧
        (last.err = none → last.buf = r.buf)) ∨
      ∃ reply last, valkeyReaderGetReply ffc fn r = (.ok, some reply, last) ∧ Ready last ∧
        last.buf = r.buf ∧ last.unread.length < r.unread.length ∧
        (readerConsumer ffc fn).run r.park r.unread =
          (emitted (reply, last.heap) :: ((readerConsumer ffc fn).run last.park last.unread).1,
            ((readerConsumer ffc fn).run last.park last.unread).2) := by
  unfold valkeyReaderGetReply
  rw [if_neg (not_not.mpr ready.alive)]
  by_cases noBytes : r.buf.length = 0
  · left
    have empty : r.unread = [] := by simp [unread, List.length_eq_zero_iff.mp noBytes]
    obtain ⟨next, rest, run⟩ := run_of_no_bytes ffc fn ready empty
    refine ⟨.ok, r, if_pos noBytes, by rw [run], ?_, fun _ => rfl⟩
    rw [run]
    refine .waiting ready (fun more => ?_)
    have fed := (readerConsumer ffc fn).feed_run r.park r.unread more
    rw [run] at fed
    simpa [Consumer.feed] using fed
  rw [if_neg noBytes]
  have fields := startReply_fields r
  have sameRun := run_startReply ffc fn ready
  have stops := processItems_stops ffc fn (r.unread.length + 1) ready.startReply
    (startReply_task_ne_nil r) (by rw [fields.1]; omega) (by
      rw [readsOverlongLine_false_iff, sameRun, ← readsOverlongLine_false_iff]
      exact short)
  rw [sameRun] at stops
  dsimp only
  generalize processItems ffc fn (r.unread.length + 1) (startReply r) = last at stops ⊢
  generalize (readerConsumer ffc fn).run r.park r.unread = done at stops ⊢
  cases stops with
  | failed dead =>
      left
      exact ⟨.err, last, if_pos dead, rfl, .stopped dead rfl rfl,
        fun alive => absurd alive dead⟩
  | waiting lastReady sameBuf busy =>
      left
      refine ⟨.ok, last, ?_, rfl, .waiting lastReady (fun _ => rfl),
        fun _ => sameBuf.trans fields.2.2.2.2⟩
      rw [if_neg (not_not.mpr lastReady.alive), if_neg busy]
  | @replied reply lastReady sameBuf done replied shorter later rest =>
      right
      refine ⟨reply, { last with reply := none }, ?_,
        ⟨lastReady.alive, lastReady.inside, fun two => by simp [done] at two⟩,
        sameBuf.trans fields.2.2.2.2, by rw [← fields.1]; exact shorter, ?_⟩
      · rw [if_neg (not_not.mpr lastReady.alive), if_pos done, replied]
      · rw [← rest]
        rfl

theorem getReply_of_dead (dead : r.err ≠ none) :
    valkeyReaderGetReply ffc fn r = (.err, none, r) := by
  rw [valkeyReaderGetReply, if_pos dead]

theorem drain_of_dead (fuel : Nat) (dead : r.err ≠ none) : drain ffc fn fuel r = ([], r) := by
  cases fuel with
  | zero => rfl
  | succ fuel => rw [drain, getReply_of_dead ffc fn dead]

theorem drain_tracks (fuel : Nat) (ready : Ready r) (enough : r.unread.length < fuel)
    (short : readsOverlongLine ffc fn r.park r.unread = false) :
    ((readerConsumer ffc fn).run r.park r.unread).1 = (drain ffc fn fuel r).1.map emitted ∧
      Tracks ffc fn (drain ffc fn fuel r).2 ((readerConsumer ffc fn).run r.park r.unread).2 ∧
      ((drain ffc fn fuel r).2.err = none → (drain ffc fn fuel r).2.buf = r.buf) := by
  induction fuel generalizing r with
  | zero => exact absurd enough (Nat.not_lt_zero _)
  | succ fuel induction =>
      rw [drain]
      rcases valkeyReaderGetReply_cases ffc fn ready short with
        ⟨status, last, got, noOutput, tracks, sameBuf⟩ |
        ⟨reply, last, got, lastReady, sameBuf, shorter, run⟩
      · rw [got]
        cases status <;> exact ⟨noOutput, tracks, sameBuf⟩
      · rw [got]
        rw [readsOverlongLine_false_iff, run, ← readsOverlongLine_false_iff] at short
        obtain ⟨outputs, tracks, lastBuf⟩ := induction lastReady (by omega) short
        rw [run]
        exact ⟨by simp [outputs], tracks, fun alive => (lastBuf alive).trans sameBuf⟩

/-! ## Chunks -/

theorem valkeyReaderGetReadBuf_of_ready (ready : Ready r) (minbytes : Nat)
    (inRange : minbytes ≤ ssizeMax) (small : r.buf.length ≤ ssizeMax) :
    ∃ next, valkeyReaderGetReadBuf fn r minbytes = (.ok, next) ∧ next.park = r.park ∧
      next.unread = r.unread ∧ next.pos ≤ next.buf.length ∧ next.buf.length ≤ r.buf.length := by
  unfold valkeyReaderGetReadBuf
  rw [if_neg (not_not.mpr ready.alive), if_neg (by omega)]
  by_cases consumed : r.pos > 0
  · rw [if_pos consumed, if_neg (by omega)]
    exact ⟨_, rfl, rfl, by simp [unread], Nat.zero_le _, by simp [unread]⟩
  · rw [if_neg consumed]
    exact ⟨r, rfl, rfl, rfl, ready.inside, Nat.le_refl _⟩

/-- A ready reader has the bytes of the chunk after its unread bytes. -/
theorem receive_of_ready (ready : Ready r) (chunk : Chunk) (inRange : chunk.InRange)
    (small : r.buf.length + chunk.bytes.length ≤ ssizeMax) :
    Ready (receive fn r chunk) ∧ (receive fn r chunk).park = r.park ∧
      (receive fn r chunk).unread = r.unread ++ chunk.bytes ∧
      (receive fn r chunk).buf.length ≤ r.buf.length + chunk.bytes.length := by
  have committed : ∀ minbytes bytes, minbytes ≤ ssizeMax →
      r.buf.length + bytes.length ≤ ssizeMax →
      ∃ next, valkeyReaderGetReadBuf fn r minbytes = (.ok, next) ∧
        Ready (valkeyReaderCommitRead next bytes) ∧
        (valkeyReaderCommitRead next bytes).park = r.park ∧
        (valkeyReaderCommitRead next bytes).unread = r.unread ++ bytes ∧
        (valkeyReaderCommitRead next bytes).buf.length ≤ r.buf.length + bytes.length := by
    intro minbytes bytes inRange small
    obtain ⟨next, got, samePark, sameUnread, inside, noLonger⟩ :=
      valkeyReaderGetReadBuf_of_ready fn ready minbytes inRange (by omega)
    have sameErr : next.park.err = r.park.err := by rw [samePark]
    have sameTask : next.park.task = r.park.task := by rw [samePark]
    have sameReply : next.park.reply = r.park.reply := by rw [samePark]
    simp only [park] at sameErr sameTask sameReply
    refine ⟨next, got, ⟨sameErr.trans ready.alive, ?_, ?_⟩, samePark, ?_, ?_⟩
    · simp only [valkeyReaderCommitRead, List.length_append]
      omega
    · simpa only [Started, valkeyReaderCommitRead, sameTask, sameReply] using ready.started
    · simp only [unread, valkeyReaderCommitRead, List.drop_append_of_le_length inside]
      simpa only [unread] using congrArg (· ++ bytes) sameUnread
    · simp only [valkeyReaderCommitRead, List.length_append]
      omega
  cases chunk with
  | read minbytes bytes =>
      obtain ⟨next, got, result⟩ := committed minbytes bytes inRange small
      simpa only [receive, got, Chunk.bytes] using result
  | feed buf =>
      simp only [receive, valkeyReaderFeed, if_neg (not_not.mpr ready.alive), Chunk.bytes]
      by_cases some : buf.length ≥ 1
      · obtain ⟨next, got, result⟩ := committed buf.length buf
          (by simp only [Chunk.bytes] at small; omega) small
        simpa only [if_pos some, got] using result
      · have empty : buf = [] := List.length_eq_zero_iff.mp (by omega)
        simp [empty, ready]

theorem receive_of_dead (dead : r.err ≠ none) (chunk : Chunk) : receive fn r chunk = r := by
  cases chunk <;> simp [receive, valkeyReaderFeed, valkeyReaderGetReadBuf, dead]

/-- Chunk after chunk, the reader stands where the consumer does. -/
theorem receiveAll_tracks (chunks : List Chunk)
    {outcome : Outcome (ValkeyReader Heap Obj) UInt8 (ReaderFailure Heap Obj)}
    (tracks : Tracks ffc fn r outcome) (inRange : ∀ chunk ∈ chunks, chunk.InRange)
    (small : r.err = none →
      r.buf.length + (chunks.map Chunk.bytes).flatten.length ≤ ssizeMax)
    (short : ((chunks.map Chunk.bytes).foldl (readerConsumer ffc fn).feed ([], outcome)).2 ≠
      .failed .overlongLine) :
    ((chunks.map Chunk.bytes).foldl (readerConsumer ffc fn).feed ([], outcome)).1 =
        (receiveAll ffc fn chunks r).1.map emitted ∧
      Tracks ffc fn (receiveAll ffc fn chunks r).2
        ((chunks.map Chunk.bytes).foldl (readerConsumer ffc fn).feed ([], outcome)).2 := by
  induction chunks generalizing r outcome with
  | nil => exact ⟨rfl, tracks⟩
  | cons chunk rest induction =>
      simp only [List.map_cons, List.foldl_cons, List.flatten_cons, List.length_append,
        receiveAll] at small short ⊢
      have restInRange : ∀ chunk ∈ rest, chunk.InRange := fun chunk member =>
        inRange chunk (List.mem_cons_of_mem _ member)
      cases tracks with
      | @stopped final dead err errstr =>
          rw [receive_of_dead fn dead, drain_of_dead ffc fn _ dead]
          exact induction (.stopped dead err errstr) restInRange
            (fun alive => absurd alive dead) short
      | @waiting next unused ready same =>
          have fits := small ready.alive
          obtain ⟨received, samePark, unread, length⟩ := receive_of_ready fn ready chunk
            (inRange chunk List.mem_cons_self) (by omega)
          generalize receive fn r chunk = now at received samePark unread length ⊢
          have fed : (readerConsumer ffc fn).feed ([], .waiting next unused) chunk.bytes =
              (readerConsumer ffc fn).run now.park now.unread := by
            simp only [Consumer.feed, List.nil_append, same, samePark, unread]
          have shortNow : readsOverlongLine ffc fn now.park now.unread = false := by
            rw [readsOverlongLine_false_iff]
            intro overlong
            apply short
            rw [fed, ← Prod.mk.eta (p := (readerConsumer ffc fn).run now.park now.unread),
              overlong, Consumer.foldl_feed_of_failed]
          obtain ⟨outputs, nowTracks, sameBuf⟩ := drain_tracks ffc fn (now.unread.length + 1)
            received (Nat.lt_succ_self _) shortNow
          have split := Consumer.foldl_feed_prepend (readerConsumer ffc fn)
            ((readerConsumer ffc fn).run now.park now.unread).1
            ([], ((readerConsumer ffc fn).run now.park now.unread).2) (rest.map Chunk.bytes)
          rw [List.append_nil, Prod.mk.eta, ← fed] at split
          rw [split] at short ⊢
          rw [fed] at short ⊢
          obtain ⟨later, laterTracks⟩ := induction nowTracks restInRange
            (fun alive => by rw [sameBuf alive]; omega) short
          exact ⟨by rw [outputs, later, List.map_append], laterTracks⟩

/-- The error of a reader, if it has one. -/
def failure (r : ValkeyReader Heap Obj) : Option (ErrorType × String) :=
  r.err.map fun type => (type, r.errstr)

theorem Tracks.failure_eq {s : ValkeyReader Heap Obj}
    {outcome : Outcome (ValkeyReader Heap Obj) UInt8 (ReaderFailure Heap Obj)}
    (left : Tracks ffc fn r outcome) (right : Tracks ffc fn s outcome) :
    failure r = failure s := by
  cases left with
  | waiting ready same =>
      cases right with
      | waiting otherReady otherSame => simp [failure, ready.alive, otherReady.alive]
  | stopped dead err errstr =>
      cases right with
      | stopped otherDead otherErr otherErrstr =>
          simp [failure, err, errstr, otherErr, otherErrstr]

theorem emitted_injective :
    Function.Injective (emitted : Obj × Heap → Option Obj × Heap) := by
  rintro ⟨obj, heap⟩ ⟨obj', heap'⟩ same
  simpa [emitted] using same

theorem ready_newReader (heap : Heap) (maxelements : Int) :
    Ready (newReader Obj heap maxelements) :=
  ⟨rfl, Nat.le_refl _, fun two => by simp [newReader, valkeyReaderCreate] at two⟩

/-- Fed chunk by chunk, a new reader follows the run of the consumer on the stream. -/
theorem receiveAll_newReader (heap : Heap) (maxelements : Int) (chunks : List Chunk)
    (inRange : ∀ chunk ∈ chunks, chunk.InRange)
    (fits : (chunks.map Chunk.bytes).flatten.length ≤ ssizeMax)
    (short : readsOverlongLine ffc fn (newReader Obj heap maxelements)
      (chunks.map Chunk.bytes).flatten = false) :
    ((readerConsumer ffc fn).run (newReader Obj heap maxelements)
        (chunks.map Chunk.bytes).flatten).1 =
        (receiveAll ffc fn chunks (newReader Obj heap maxelements)).1.map emitted ∧
      Tracks ffc fn (receiveAll ffc fn chunks (newReader Obj heap maxelements)).2
        ((readerConsumer ffc fn).run (newReader Obj heap maxelements)
          (chunks.map Chunk.bytes).flatten).2 := by
  have ready : Ready (newReader Obj heap maxelements) := ready_newReader heap maxelements
  obtain ⟨next, rest, start⟩ := run_of_no_bytes ffc fn ready rfl
  have start' : (readerConsumer ffc fn).run (newReader Obj heap maxelements) [] =
      ([], .waiting next rest) := start
  have tracks : Tracks ffc fn (newReader Obj heap maxelements) (.waiting next rest) := by
    refine .waiting ready (fun more => ?_)
    have fed := (readerConsumer ffc fn).feed_run (newReader Obj heap maxelements) [] more
    rw [start'] at fed
    have same : (readerConsumer ffc fn).run next (rest ++ more) =
        (readerConsumer ffc fn).run (newReader Obj heap maxelements) more := by
      simpa [Consumer.feed] using fed
    exact same
  have whole := (readerConsumer ffc fn).foldl_feed_run (newReader Obj heap maxelements) []
    (chunks.map Chunk.bytes)
  rw [start', List.nil_append] at whole
  have followed := receiveAll_tracks ffc fn chunks tracks inRange (fun _ => by
    simpa [newReader, valkeyReaderCreate] using fits)
  rw [whole] at followed
  exact followed ((readsOverlongLine_false_iff ffc fn _).mp short)

/-- The replies, with the heap at the completion of each, and the error do not
depend on the chunks in which a stream arrives. -/
theorem receiveAll_split (heap : Heap) (maxelements : Int) (chunks : List Chunk)
    (inRange : ∀ chunk ∈ chunks, chunk.InRange)
    (fits : (chunks.map Chunk.bytes).flatten.length ≤ ssizeMax)
    (short : readsOverlongLine ffc fn (newReader Obj heap maxelements)
      (chunks.map Chunk.bytes).flatten = false) :
    let split := receiveAll ffc fn chunks (newReader Obj heap maxelements)
    let whole := receiveAll ffc fn [.feed (chunks.map Chunk.bytes).flatten]
      (newReader Obj heap maxelements)
    split.1 = whole.1 ∧ failure split.2 = failure whole.2 := by
  have byChunks := receiveAll_newReader ffc fn heap maxelements chunks inRange fits short
  have atOnce := receiveAll_newReader ffc fn heap maxelements
    [.feed (chunks.map Chunk.bytes).flatten] (by simp [Chunk.InRange])
    (by simpa [Chunk.bytes] using fits) (by simpa [Chunk.bytes] using short)
  simp only [List.map_cons, List.map_nil, Chunk.bytes, List.flatten_cons, List.flatten_nil,
    List.append_nil] at atOnce
  refine ⟨?_, byChunks.2.failure_eq ffc fn atOnce.2⟩
  apply emitted_injective.list_map
  rw [← byChunks.1, atOnce.1]

/-- An array that is cut inside its first element, with an error after it. -/
theorem receiveAll_split_array :
    let chunks : List Chunk :=
      [.feed (ascii "*2\r\n:1"), .read 16 (ascii "7\r\n+o"), .feed (ascii "k\r\n?")]
    let split := receiveAll DoubleParser.namesOnly (defaultFunctions String) chunks
      (newReader Nat [] readerMaxArrayElements)
    let whole := receiveAll DoubleParser.namesOnly (defaultFunctions String)
      [.feed (chunks.map Chunk.bytes).flatten] (newReader Nat [] readerMaxArrayElements)
    split.1 = whole.1 ∧ failure split.2 = failure whole.2 :=
  receiveAll_split DoubleParser.namesOnly (defaultFunctions String) [] readerMaxArrayElements
    [.feed (ascii "*2\r\n:1"), .read 16 (ascii "7\r\n+o"), .feed (ascii "k\r\n?")]
    (by simp [Chunk.InRange, ssizeMax]) (by decide) (by decide)

end Draining

end Libvalkey
