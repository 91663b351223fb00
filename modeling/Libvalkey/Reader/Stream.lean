import Libvalkey.Reader.Items

/-! # The reader as an incremental consumer

One call of `processItem`, with the emission of the reply that it completes, is
a step of a consumer of bytes. The state of the consumer is a parked reader. -/

namespace Libvalkey

open ValkeyReader Incremental

variable {Heap Obj Double : Type}

/-- Why a reader stops for good. -/
inductive ReaderFailure (Heap Obj : Type)
  | overlongLine
  | stopped (r : ValkeyReader Heap Obj)

abbrev ReaderVerdict (Heap Obj : Type) :=
  Verdict (ValkeyReader Heap Obj) UInt8 (Option Obj × Heap) (ReaderFailure Heap Obj)

/-- What a processed item means for the stream. -/
def itemVerdict : Status × ValkeyReader Heap Obj → ReaderVerdict Heap Obj
  | (.ok, next) =>
      if next.task = [] then
        .progress [(next.reply, next.heap)] { next with reply := none }.park next.unread
      else .progress [] next.park next.unread
  | (.err, next) =>
      if next.err = none then .starved next.park next.unread else .failed (.stopped next)

/-- The next item of a reader with an open task. -/
def nextItem (ffc : DoubleParser Double) (fn : ReplyObjectFunctions Heap Obj Double)
    (r : ValkeyReader Heap Obj) : ReaderVerdict Heap Obj :=
  if overlongLine r then .failed .overlongLine else itemVerdict (processItem ffc fn r)

def streamStep (ffc : DoubleParser Double) (fn : ReplyObjectFunctions Heap Obj Double)
    (r : ValkeyReader Heap Obj) (input : Bytes) : ReaderVerdict Heap Obj :=
  if r.err ≠ none then .failed (.stopped r.park)
  else nextItem ffc fn (startReply (r.load input))

theorem itemVerdict_of_done {next : ValkeyReader Heap Obj} (done : next.task = []) :
    itemVerdict (.ok, next) =
      .progress [(next.reply, next.heap)] { next with reply := none }.park next.unread := by
  rw [itemVerdict, if_pos done]

section Laws

variable {more : Bytes} {r later : ValkeyReader Heap Obj}
  (ffc : DoubleParser Double) (fn : ReplyObjectFunctions Heap Obj Double)

theorem startReply_task_ne_nil (r : ValkeyReader Heap Obj) : (startReply r).task ≠ [] := by
  unfold startReply
  split
  · simp
  · assumption

theorem startReply_of_busy (busy : r.task ≠ []) : startReply r = r := by
  rw [startReply, if_neg busy]

theorem aligned_startReply (aligned : Aligned more r later) :
    Aligned more (startReply r) (startReply later) := by
  unfold startReply
  rw [aligned.task_eq]
  split
  · exact aligned.map (fun s => { s with task := [rootTask] })
      (fun _ => rfl) (fun _ => rfl) (fun _ => rfl)
  · exact aligned

theorem startReply_fields (r : ValkeyReader Heap Obj) :
    (startReply r).unread = r.unread ∧ (startReply r).err = r.err ∧
      (startReply r).reply = r.reply ∧ (startReply r).pos = r.pos ∧
      (startReply r).buf = r.buf := by
  unfold startReply
  split <;> simp [unread]

theorem aligned_load_load (r : ValkeyReader Heap Obj) (input more : Bytes) :
    Aligned more (r.load input) (r.load (input ++ more)) := by
  have loaded := aligned_load (r := r.load input) (Nat.zero_le _) more
  rwa [unread_load] at loaded

/-- What an item that does not wait comes to, with more bytes after it. -/
theorem Continues.verdict {result resultLater : Status × ValkeyReader Heap Obj}
    (continues : Continues more r result resultLater) :
    (∃ outputs next rest, rest.length < r.unread.length ∧
        itemVerdict result = .progress outputs next rest ∧
        itemVerdict resultLater = .progress outputs next (rest ++ more)) ∨
      ∃ stopped, stopped.err ≠ none ∧ itemVerdict result = .failed (.stopped stopped) ∧
        itemVerdict resultLater = .failed (.stopped stopped) := by
  cases continues with
  | @ok next nextLater aligned consumed alive =>
      left
      by_cases done : next.task = []
      · have doneLater : nextLater.task = [] := by rw [aligned.task_eq, done]
        refine ⟨[(next.reply, next.heap)], { next with reply := none }.park, next.unread,
          consumed, itemVerdict_of_done done, ?_⟩
        have cleared := aligned.map (fun s => { s with reply := none })
          (fun _ => rfl) (fun _ => rfl) (fun _ => rfl)
        rw [itemVerdict_of_done doneLater, cleared.park, aligned.reply_eq, aligned.heap_eq,
          aligned.unread]
      · have busyLater : nextLater.task ≠ [] := by rwa [aligned.task_eq]
        exact ⟨[], next.park, next.unread, consumed, by simp [itemVerdict, done],
          by simp [itemVerdict, busyLater, aligned.park, aligned.unread]⟩
  | @failed next dead =>
      right
      exact ⟨next, dead, by simp [itemVerdict, dead], by simp [itemVerdict, dead]⟩

/-- Where the unread bytes lie in the buffer does not matter. -/
theorem nextItem_realign (aligned : Aligned [] r later) (busy : r.task ≠ [])
    (alive : r.err = none) : nextItem ffc fn later = nextItem ffc fn r := by
  unfold nextItem
  cases overlong : overlongLine r with
  | true => simp [overlongLine_later aligned overlong]
  | false =>
      rcases processItem_cases ffc fn aligned busy overlong with ⟨continues, shortLater⟩ |
        ⟨waiting, waitingLater, waits, stillAlive, _, stillAligned, _, sameOverlong, waitsLater⟩
      · rw [shortLater]
        rcases continues.verdict with ⟨outputs, next, rest, _, now, after⟩ |
          ⟨stopped, _, now, after⟩
        · simp [now, after]
        · simp [now, after]
      · have noNewline : overlongLine later = false := by
          by_contra overlongLater
          have backwards : Aligned [] later r :=
            ⟨aligned.park.symm, by rw [List.append_nil, aligned.unread_nil],
              aligned.laterInside, aligned.inside⟩
          have overlongAgain := overlongLine_later backwards (by simpa using overlongLater)
          simp [overlongAgain] at overlong
        have aliveLater : waitingLater.err = none := by
          rw [stillAligned.err_eq, stillAlive, alive]
        simp [noNewline, waits, waitsLater rfl, itemVerdict, stillAlive, alive, aliveLater,
          stillAligned.park, stillAligned.unread]

/-- The three courses that the next item can take when more bytes arrive. -/
theorem nextItem_later (aligned : Aligned more r later) (busy : r.task ≠ [])
    (alive : r.err = none) :
    (∃ outputs next rest, rest.length < r.unread.length ∧
        nextItem ffc fn r = .progress outputs next rest ∧
        nextItem ffc fn later = .progress outputs next (rest ++ more)) ∨
      (∃ failure, nextItem ffc fn r = .failed failure ∧
        nextItem ffc fn later = .failed failure) ∨
      ∃ next rest, nextItem ffc fn r = .starved next rest ∧ next.err = none ∧ next.task ≠ [] ∧
        nextItem ffc fn later = nextItem ffc fn (next.load (rest ++ more)) := by
  cases overlong : overlongLine r with
  | true =>
      right; left
      exact ⟨.overlongLine, by simp [nextItem, overlong],
        by simp [nextItem, overlongLine_later aligned overlong]⟩
  | false =>
      rcases processItem_cases ffc fn aligned busy overlong with ⟨continues, shortLater⟩ |
        ⟨waiting, waitingLater, waits, stillAlive, stillBusy, stillAligned, sameCourse,
          sameOverlong, _⟩
      · rcases continues.verdict with ⟨outputs, next, rest, shorter, now, after⟩ |
          ⟨stopped, _, now, after⟩
        · left
          exact ⟨outputs, next, rest, shorter, by simp [nextItem, overlong, now],
            by simp [nextItem, shortLater, after]⟩
        · right; left
          exact ⟨.stopped stopped, by simp [nextItem, overlong, now],
            by simp [nextItem, shortLater, after]⟩
      · right; right
        have waitingAlive : waiting.err = none := by rw [stillAlive, alive]
        refine ⟨waiting.park, waiting.unread,
          by simp [nextItem, overlong, waits, itemVerdict, waitingAlive], waitingAlive,
          stillBusy, ?_⟩
        have samePlace : Aligned [] waitingLater (waiting.load (waiting.unread ++ more)) :=
          ⟨stillAligned.park.symm, by simp [stillAligned.unread], stillAligned.laterInside,
            Nat.zero_le _⟩
        calc nextItem ffc fn later
            = nextItem ffc fn waitingLater := by simp only [nextItem, sameCourse, sameOverlong]
          _ = nextItem ffc fn (waiting.park.load (waiting.unread ++ more)) := by
              rw [load_park]
              exact (nextItem_realign ffc fn samePlace (by rwa [stillAligned.task_eq])
                (by rw [stillAligned.err_eq, waitingAlive])).symm

theorem streamStep_of_dead (dead : r.err ≠ none) (input : Bytes) :
    streamStep ffc fn r input = .failed (.stopped r.park) := by
  simp [streamStep, dead]

theorem streamStep_of_alive (alive : r.err = none) (input : Bytes) :
    streamStep ffc fn r input = nextItem ffc fn (startReply (r.load input)) := by
  simp [streamStep, alive]

/-- The courses of a step, by what it does on the bytes that are there. -/
theorem streamStep_later (r : ValkeyReader Heap Obj) (input more : Bytes) :
    (∃ outputs next rest, rest.length < input.length ∧
        streamStep ffc fn r input = .progress outputs next rest ∧
        streamStep ffc fn r (input ++ more) = .progress outputs next (rest ++ more)) ∨
      (∃ failure, streamStep ffc fn r input = .failed failure ∧
        streamStep ffc fn r (input ++ more) = .failed failure) ∨
      ∃ next rest, streamStep ffc fn r input = .starved next rest ∧
        streamStep ffc fn r (input ++ more) = streamStep ffc fn next (rest ++ more) := by
  by_cases alive : r.err = none
  · have aligned := aligned_startReply (aligned_load_load r input more)
    have fields := startReply_fields (r.load input)
    have startedAlive : (startReply (r.load input)).err = none := by
      rw [fields.2.1]
      exact alive
    rw [streamStep_of_alive ffc fn alive, streamStep_of_alive ffc fn alive]
    rcases nextItem_later ffc fn aligned (startReply_task_ne_nil _) startedAlive with
      ⟨outputs, next, rest, shorter, now, after⟩ | ⟨failure, now, after⟩ |
      ⟨next, rest, now, nextAlive, nextBusy, after⟩
    · left
      rw [fields.1, unread_load] at shorter
      exact ⟨outputs, next, rest, shorter, now, after⟩
    · right; left
      exact ⟨failure, now, after⟩
    · right; right
      refine ⟨next, rest, now, ?_⟩
      rw [after, streamStep_of_alive ffc fn nextAlive,
        startReply_of_busy (r := next.load (rest ++ more)) nextBusy]
  · right; left
    exact ⟨.stopped r.park, streamStep_of_dead ffc fn alive input,
      streamStep_of_dead ffc fn alive (input ++ more)⟩

/-- The reader as a consumer of bytes that puts out replies. -/
def readerConsumer : Consumer (ValkeyReader Heap Obj) UInt8 (Option Obj × Heap)
    (ReaderFailure Heap Obj) where
  step := streamStep ffc fn
  progress_shorter := by
    intro r input outputs next rest decided
    rcases streamStep_later ffc fn r input [] with ⟨_, _, _, shorter, now, _⟩ |
      ⟨_, now, _⟩ | ⟨_, _, now, _⟩
    · rw [now] at decided
      cases decided
      exact shorter
    · simp [now] at decided
    · simp [now] at decided
  progress_append := by
    intro r input outputs next rest more decided
    rcases streamStep_later ffc fn r input more with ⟨_, _, _, _, now, after⟩ |
      ⟨_, now, _⟩ | ⟨_, _, now, _⟩
    · rw [now] at decided
      cases decided
      exact after
    · simp [now] at decided
    · simp [now] at decided
  failed_append := by
    intro r input failure more decided
    rcases streamStep_later ffc fn r input more with ⟨_, _, _, _, now, _⟩ |
      ⟨_, now, after⟩ | ⟨_, _, now, _⟩
    · simp [now] at decided
    · rw [now] at decided
      cases decided
      exact after
    · simp [now] at decided
  starved_append := by
    intro r input next rest more decided
    rcases streamStep_later ffc fn r input more with ⟨_, _, _, _, now, _⟩ |
      ⟨_, now, _⟩ | ⟨_, _, now, after⟩
    · simp [now] at decided
    · simp [now] at decided
    · rw [now] at decided
      cases decided
      exact after

end Laws

end Libvalkey
