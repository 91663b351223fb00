import Libvalkey.Foundation.Incremental
import Libvalkey.Reader.Resume

/-! # The reader as an incremental consumer

One call of `processItem`, with the emission of a completed reply, is a step of
an incremental consumer of bytes. -/

namespace Libvalkey

open ValkeyReader Incremental

variable {Heap Obj Double : Type}

/-- Items that are read with `readLine`, which keeps the length in an `int`. -/
def ReplyType.readsLine : ReplyType → Bool
  | .string => false
  | .verb => false
  | _ => true

/-- The bytes at which the next item calls `readLine`. -/
def lineStart (r : ValkeyReader Heap Obj) : Option Bytes :=
  match r.task with
  | [] => none
  | cur :: _ =>
      match cur.type with
      | some type => if type.readsLine then some r.unread else none
      | none =>
          match r.unread with
          | [] => none
          | byte :: rest =>
              match typeOfByte byte with
              | some type => if type.readsLine then some rest else none
              | none => none

/-- The next item reads a line that does not fit an `int` with its `\r\n`. -/
def overlongLine (r : ValkeyReader Heap Obj) : Bool :=
  match lineStart r with
  | none => false
  | some input =>
      match seekNewline input with
      | none => false
      | some offset => decide (2 ^ 31 ≤ offset + 2)

section Cases

variable {more : Bytes} {r later : ValkeyReader Heap Obj}

theorem lineStart_later (aligned : Aligned more r later) {input : Bytes}
    (start : lineStart r = some input) : lineStart later = some (input ++ more) := by
  unfold lineStart at start ⊢
  rw [aligned.task_eq, aligned.unread]
  cases task : r.task with
  | nil => simp [task] at start
  | cons cur rest =>
      simp only [task] at start ⊢
      cases type : cur.type with
      | some type =>
          simp only [type] at start ⊢
          split at start
          · rename_i line
            cases start
            rw [if_pos line]
          · simp at start
      | none =>
          simp only [type] at start ⊢
          cases unread : r.unread with
          | nil => simp [unread] at start
          | cons byte bytes =>
              simp only [unread, List.cons_append] at start ⊢
              cases kind : typeOfByte byte with
              | none => simp [kind] at start
              | some type =>
                  simp only [kind] at start ⊢
                  split at start
                  · rename_i line
                    cases start
                    rw [if_pos line]
                  · simp at start

theorem overlongLine_later (aligned : Aligned more r later) (overlong : overlongLine r = true) :
    overlongLine later = true := by
  unfold overlongLine at overlong ⊢
  cases start : lineStart r with
  | none => simp [start] at overlong
  | some input =>
      simp only [start, lineStart_later aligned start] at overlong ⊢
      cases found : seekNewline input with
      | none => simp [found] at overlong
      | some offset =>
          simp only [found, seekNewline_append more found] at overlong ⊢
          exact overlong

/-- What a function that processes an item does on aligned readers: the same, or it
waits in a state from which the later reader takes the same course. -/
def Resumes (more : Bytes) (r later : ValkeyReader Heap Obj)
    (process : ValkeyReader Heap Obj → Status × ValkeyReader Heap Obj) : Prop :=
  (Continues more r (process r) (process later) ∧
      ∃ offset, seekNewline r.unread = some offset) ∨
    ∃ waiting waitingLater, process r = (.err, waiting) ∧
      waiting.err = r.err ∧ waiting.task = r.task ∧ Aligned more waiting waitingLater ∧
      waitingLater.unread = later.unread ∧ process later = process waitingLater ∧
      (more = [] → process later = (.err, waitingLater))

section Typed

variable {cur : ReadTask Obj} {rest : List (ReadTask Obj)}

theorem processLineItem_resumes (ffc : DoubleParser Double)
    (fn : ReplyObjectFunctions Heap Obj Double) (aligned : Aligned more r later)
    (task : r.task = cur :: rest)
    (short : ∀ offset, seekNewline r.unread = some offset → offset + 2 < 2 ^ 31) :
    Resumes more r later (processLineItem ffc fn) := by
  cases found : seekNewline r.unread with
  | none =>
      right
      refine ⟨r, later, processLineItem_of_missing ffc fn found, rfl, rfl, aligned, rfl, rfl, ?_⟩
      rintro rfl
      exact processLineItem_of_missing ffc fn (by rw [aligned.unread_nil, found])
  | some offset =>
      left
      exact ⟨processLineItem_continues ffc fn aligned task found (short offset found),
        offset, found⟩

theorem processBulkItem_resumes (fn : ReplyObjectFunctions Heap Obj Double)
    (aligned : Aligned more r later) (task : r.task = cur :: rest) :
    Resumes more r later (processBulkItem fn) := by
  cases found : seekNewline r.unread with
  | none =>
      right
      refine ⟨r, later, processBulkItem_of_missing fn found, rfl, rfl, aligned, rfl, rfl, ?_⟩
      rintro rfl
      exact processBulkItem_of_missing fn (by rw [aligned.unread_nil, found])
  | some offset =>
      by_cases waits : BulkWaits r offset
      · right
        refine ⟨r, later, processBulkItem_of_waits fn aligned.inside found waits, rfl, rfl,
          aligned, rfl, rfl, ?_⟩
        rintro rfl
        have foundLater : seekNewline later.unread = some offset := by
          rw [aligned.unread_nil, found]
        apply processBulkItem_of_waits fn aligned.laterInside foundLater
        simpa only [BulkWaits, aligned.unread_nil] using waits
      · left
        exact ⟨processBulkItem_continues fn aligned task found waits, offset, found⟩

theorem processAggregateItem_resumes (fn : ReplyObjectFunctions Heap Obj Double)
    (aligned : Aligned more r later) (task : r.task = cur :: rest)
    (short : ∀ offset, seekNewline r.unread = some offset → offset + 2 < 2 ^ 31) :
    Resumes more r later (processAggregateItem fn) := by
  have laterTask : later.task = cur :: rest := by rw [aligned.task_eq, task]
  cases found : seekNewline r.unread with
  | none =>
      right
      refine ⟨growForChild r, growForChild later,
        processAggregateItem_of_missing fn task found, (growForChild_fields r).2.1,
        (growForChild_fields r).2.2.1, aligned_growForChild aligned,
        (growForChild_fields later).1, (processAggregateItem_growForChild fn laterTask).symm, ?_⟩
      rintro rfl
      exact processAggregateItem_of_missing fn laterTask (by rw [aligned.unread_nil, found])
  | some offset =>
      left
      exact ⟨processAggregateItem_continues fn aligned task found (short offset found),
        offset, found⟩

theorem processTypedItem_resumes (ffc : DoubleParser Double)
    (fn : ReplyObjectFunctions Heap Obj Double) (aligned : Aligned more r later)
    (task : r.task = cur :: rest) (type : ReplyType)
    (short : type.readsLine = true → ∀ offset, seekNewline r.unread = some offset →
      offset + 2 < 2 ^ 31) :
    Resumes more r later (processTypedItem ffc fn · type) := by
  cases type with
  | error | status | integer | double | nil | bool | bignum =>
      exact processLineItem_resumes ffc fn aligned task (short rfl)
  | string | verb => exact processBulkItem_resumes fn aligned task
  | array | map | attr | set | push =>
      exact processAggregateItem_resumes fn aligned task (short rfl)

end Typed

/-! ## Items -/

/-- The reader after the type byte of the current item. -/
def typed (r : ValkeyReader Heap Obj) (cur : ReadTask Obj) (rest : List (ReadTask Obj))
    (type : ReplyType) : ValkeyReader Heap Obj :=
  { r with pos := r.pos + 1, task := { cur with type := some type } :: rest }

theorem unread_typed {byte : UInt8} {bytes : Bytes} (unread : r.unread = byte :: bytes)
    (cur : ReadTask Obj) (rest : List (ReadTask Obj)) (type : ReplyType) :
    (typed r cur rest type).unread = bytes := by
  have dropped := congrArg (List.drop 1) unread
  simpa [typed, ValkeyReader.unread] using dropped

theorem readBytes_one {byte : UInt8} {bytes : Bytes} (unread : r.unread = byte :: bytes) :
    readBytes r 1 = some ([byte], { r with pos := r.pos + 1 }) := by
  have available := congrArg List.length unread
  simp only [ValkeyReader.unread, List.length_drop, List.length_cons] at available
  rw [readBytes, if_pos (by omega), unread]
  rfl

theorem processItem_of_type (ffc : DoubleParser Double)
    (fn : ReplyObjectFunctions Heap Obj Double) {cur : ReadTask Obj}
    {rest : List (ReadTask Obj)} (task : r.task = cur :: rest) {type : ReplyType}
    (known : cur.type = some type) :
    processItem ffc fn r = processTypedItem ffc fn r type := by
  unfold processItem
  rw [task]
  simp only [known]

theorem processItem_of_empty (ffc : DoubleParser Double)
    (fn : ReplyObjectFunctions Heap Obj Double) {cur : ReadTask Obj}
    {rest : List (ReadTask Obj)} (task : r.task = cur :: rest) (unknown : cur.type = none)
    (empty : r.unread = []) : processItem ffc fn r = (.err, r) := by
  have noBytes : r.buf.length - r.pos = 0 := by
    simpa [ValkeyReader.unread] using congrArg List.length empty
  unfold processItem
  rw [task]
  simp only [unknown, readBytes, noBytes]
  rfl

theorem processItem_of_byte (ffc : DoubleParser Double)
    (fn : ReplyObjectFunctions Heap Obj Double) {cur : ReadTask Obj}
    {rest : List (ReadTask Obj)} (task : r.task = cur :: rest) (unknown : cur.type = none)
    {byte : UInt8} {bytes : Bytes} (unread : r.unread = byte :: bytes) :
    processItem ffc fn r =
      match typeOfByte byte with
      | none => (.err, valkeyReaderSetErrorProtocolByte fn { r with pos := r.pos + 1 } byte)
      | some type => processTypedItem ffc fn (typed r cur rest type) type := by
  unfold processItem
  rw [task]
  simp only [unknown, readBytes_one unread]
  rfl

theorem aligned_typed (aligned : Aligned more r later) {byte : UInt8} {bytes : Bytes}
    (unread : r.unread = byte :: bytes) (cur : ReadTask Obj) (rest : List (ReadTask Obj))
    (type : ReplyType) :
    Aligned more (typed r cur rest type) (typed later cur rest type) :=
  (aligned.advance (show 1 ≤ r.unread.length by simp [unread])).map
    (fun s => { s with task := { cur with type := some type } :: rest })
    (fun _ => rfl) (fun _ => rfl) (fun _ => rfl)

theorem Continues.weaken {start : ValkeyReader Heap Obj}
    {result resultLater : Status × ValkeyReader Heap Obj}
    (continues : Continues more start result resultLater)
    (shorter : start.unread.length ≤ r.unread.length) (alive : start.err = r.err) :
    Continues more r result resultLater := by
  cases continues with
  | ok aligned consumed stillAlive =>
      exact .ok aligned (by omega) (by rw [stillAlive, alive])
  | failed dead => exact .failed dead

/-- Without bytes an item waits. -/
theorem processItem_of_no_bytes (ffc : DoubleParser Double)
    (fn : ReplyObjectFunctions Heap Obj Double) (inside : r.pos ≤ r.buf.length)
    (busy : r.task ≠ []) (empty : r.unread = []) :
    overlongLine r = false ∧
      ∃ waiting, processItem ffc fn r = (.err, waiting) ∧ waiting.err = r.err := by
  obtain ⟨cur, rest, task⟩ := List.exists_cons_of_ne_nil busy
  cases known : cur.type with
  | none =>
      refine ⟨by simp [overlongLine, lineStart, task, known, empty], r, ?_, rfl⟩
      exact processItem_of_empty ffc fn task known empty
  | some type =>
      constructor
      · cases line : type.readsLine <;> simp [overlongLine, lineStart, task, known, empty, line]
      · have self : Aligned [] r r := ⟨rfl, (List.append_nil _).symm, inside, inside⟩
        rw [processItem_of_type ffc fn task known]
        rcases processTypedItem_resumes ffc fn self task type (by simp [empty]) with
          ⟨_, offset, found⟩ | ⟨waiting, _, waits, alive, _⟩
        · simp [empty] at found
        · exact ⟨waiting, waits, alive⟩

/-- The cases of `processItem` on aligned readers. -/
theorem processItem_cases (ffc : DoubleParser Double)
    (fn : ReplyObjectFunctions Heap Obj Double) (aligned : Aligned more r later)
    (busy : r.task ≠ []) (short : overlongLine r = false) :
    (Continues more r (processItem ffc fn r) (processItem ffc fn later) ∧
        overlongLine later = false) ∨
      ∃ waiting waitingLater, processItem ffc fn r = (.err, waiting) ∧
        waiting.err = r.err ∧ waiting.task ≠ [] ∧ Aligned more waiting waitingLater ∧
        processItem ffc fn later = processItem ffc fn waitingLater ∧
        overlongLine later = overlongLine waitingLater ∧
        (more = [] → processItem ffc fn later = (.err, waitingLater)) := by
  obtain ⟨cur, rest, task⟩ := List.exists_cons_of_ne_nil busy
  have laterTask : later.task = cur :: rest := by rw [aligned.task_eq, task]
  cases known : cur.type with
  | some type =>
      rw [processItem_of_type ffc fn task known, processItem_of_type ffc fn laterTask known]
      have resumes := processTypedItem_resumes ffc fn aligned task type (by
        intro line offset found
        have bounded : offset < 2147483646 := by
          simpa [overlongLine, lineStart, task, known, line, found] using short
        omega)
      rcases resumes with ⟨continues, offset, found⟩ | ⟨waiting, waitingLater, waits, alive,
          sameTask, stillAligned, sameUnread, sameCourse, stillWaits⟩
      · left
        refine ⟨continues, ?_⟩
        have foundLater := seekNewline_later aligned found
        simp only [overlongLine, lineStart, task, laterTask, known] at short ⊢
        cases line : type.readsLine <;> simp [line, found, foundLater] at short ⊢
        exact short
      · right
        have waitingTask : waitingLater.task = cur :: rest := by
          rw [stillAligned.task_eq, sameTask, task]
        refine ⟨waiting, waitingLater, waits, alive, by simp [sameTask, task], stillAligned,
          ?_, ?_, stillWaits⟩
        · rw [processItem_of_type ffc fn waitingTask known]
          exact sameCourse
        · simp only [overlongLine, lineStart, laterTask, waitingTask, known, sameUnread]
  | none =>
      cases unread : r.unread with
      | nil =>
          right
          refine ⟨r, later, processItem_of_empty ffc fn task known unread, rfl, busy, aligned,
            rfl, rfl, ?_⟩
          rintro rfl
          exact processItem_of_empty ffc fn laterTask known (by rw [aligned.unread_nil, unread])
      | cons byte bytes =>
          have unreadLater : later.unread = byte :: (bytes ++ more) := by
            rw [aligned.unread, unread, List.cons_append]
          rw [processItem_of_byte ffc fn task known unread,
            processItem_of_byte ffc fn laterTask known unreadLater]
          cases kind : typeOfByte byte with
          | none =>
              left
              refine ⟨continues_setError fn r
                (aligned.advance (show 1 ≤ r.unread.length by simp [unread]))
                .protocol _, ?_⟩
              simp [overlongLine, lineStart, laterTask, known, unreadLater, kind]
          | some type =>
              have typedAligned := aligned_typed aligned unread cur rest type
              have typedUnread := unread_typed unread cur rest type
              have resumes := processTypedItem_resumes ffc fn typedAligned rfl type (by
                intro line offset found
                rw [typedUnread] at found
                have bounded : offset < 2147483646 := by
                  simpa [overlongLine, lineStart, task, known, unread, kind, line, found]
                    using short
                omega)
              rcases resumes with ⟨continues, offset, found⟩ | ⟨waiting, waitingLater, waits,
                  alive, sameTask, stillAligned, sameUnread, sameCourse, stillWaits⟩
              · left
                refine ⟨continues.weaken (by simp [typedUnread, unread]) rfl, ?_⟩
                rw [typedUnread] at found
                have foundLater := seekNewline_append more found
                simp only [overlongLine, lineStart, task, laterTask, known, unread, unreadLater,
                  kind] at short ⊢
                cases line : type.readsLine <;> simp [line, found, foundLater] at short ⊢
                exact short
              · right
                have waitingTask :
                    waitingLater.task = { cur with type := some type } :: rest := by
                  rw [stillAligned.task_eq, sameTask]
                  rfl
                refine ⟨waiting, waitingLater, waits, alive, by simp [sameTask, typed],
                  stillAligned, ?_, ?_, stillWaits⟩
                · rw [processItem_of_type ffc fn waitingTask rfl]
                  exact sameCourse
                · rw [unread_typed unreadLater] at sameUnread
                  simp only [overlongLine, lineStart, laterTask, waitingTask, known, unreadLater,
                    kind, sameUnread]

end Cases

/-! ## What an item leaves -/

/-- Inside an aggregate the root object exists. -/
def Started (r : ValkeyReader Heap Obj) : Prop := 2 ≤ r.task.length → r.reply.isSome

/-- A processed item leaves a reply and one that waits leaves things as they are. -/
def Leaves (r : ValkeyReader Heap Obj) : Status × ValkeyReader Heap Obj → Prop
  | (.ok, next) => next.buf = r.buf ∧ next.reply.isSome
  | (.err, next) =>
      next.err = none →
        next.buf = r.buf ∧ next.reply = r.reply ∧ next.task.length = r.task.length ∧
          next.heap = r.heap ∧ next.overflow = r.overflow

section Leaves

variable {r : ValkeyReader Heap Obj} (ffc : DoubleParser Double)
  (fn : ReplyObjectFunctions Heap Obj Double)

theorem leaves_setError (next : ValkeyReader Heap Obj) (type : ErrorType) (str : String) :
    Leaves r (.err, valkeyReaderSetError fn next type str) := by
  intro alive
  exact absurd alive (setError_err fn next type str)

theorem leaves_self : Leaves r (.err, r) := fun _ => ⟨rfl, rfl, rfl, rfl, rfl⟩

theorem Started.reply (started : Started r) (busy : r.task ≠ []) (obj : Obj) :
    (if r.ridx = 0 then some obj else r.reply).isSome := by
  split
  · rfl
  · rename_i inner
    apply started
    have positive := List.length_pos_iff.mpr busy
    unfold ridx at inner
    omega

theorem leaves_acceptObject {next : ValkeyReader Heap Obj} (sameBuf : next.buf = r.buf)
    (started : Started next) (busy : next.task ≠ []) {created : Option Obj × Heap} :
    Leaves r (acceptObject fn next created) := by
  obtain ⟨obj, heap⟩ := created
  cases obj with
  | none => exact leaves_setError fn _ _ _
  | some obj => exact ⟨sameBuf, started.reply busy obj⟩

theorem readLine_some {p : Bytes} {len : Int} {next : ValkeyReader Heap Obj}
    (line : readLine r = some (p, len, next)) :
    ∃ pos overflow, next = { r with pos := pos, overflow := overflow } := by
  unfold readLine at line
  split at line
  · simp at line
  · simp only [Option.some.injEq, Prod.mk.injEq] at line
    exact ⟨_, _, line.2.2.symm⟩

theorem leaves_processLineItem (started : Started r) (busy : r.task ≠ []) :
    Leaves r (processLineItem ffc fn r) := by
  obtain ⟨cur, rest, task⟩ := List.exists_cons_of_ne_nil busy
  cases line : readLine r with
  | none =>
      simp only [processLineItem, task, line]
      exact leaves_self
  | some found =>
      obtain ⟨p, len, next⟩ := found
      obtain ⟨pos, overflow, rfl⟩ := readLine_some line
      rw [processLineItem_of_line ffc fn task line]
      split
      · exact leaves_setError fn _ _ _
      · apply leaves_acceptObject fn
        exacts [rfl, started, busy]

theorem leaves_processBulkItem (started : Started r) (busy : r.task ≠ []) :
    Leaves r (processBulkItem fn r) := by
  obtain ⟨cur, rest, task⟩ := List.exists_cons_of_ne_nil busy
  simp only [processBulkItem, task]
  split
  · exact leaves_self
  · split
    · exact leaves_setError fn _ _ _
    · split
      · exact leaves_setError fn _ _ _
      · unfold processBulkPayload
        dsimp only
        split
        · apply leaves_acceptObject fn
          exacts [rfl, started, busy]
        · split
          · split
            · exact leaves_setError fn _ _ _
            · apply leaves_acceptObject fn
              exacts [rfl, started, busy]
          · exact leaves_self

theorem leaves_processAggregateHeader {next : ValkeyReader Heap Obj} (sameBuf : next.buf = r.buf)
    (started : Started next) (busy : next.task ≠ []) {cur : ReadTask Obj}
    {rest : List (ReadTask Obj)} {elements : Int} :
    Leaves r (processAggregateHeader fn next cur rest elements) := by
  unfold processAggregateHeader
  split
  · exact leaves_setError fn _ _ _
  · split
    · exact leaves_acceptObject fn sameBuf started busy
    · split
      · exact leaves_setError fn _ _ _
      · dsimp only
        split
        · split
          · exact leaves_setError fn _ _ _
          · exact ⟨sameBuf, started.reply busy _⟩
        · exact leaves_acceptObject fn sameBuf started busy

theorem growForChild_eq (r : ValkeyReader Heap Obj) :
    ∃ tasks, growForChild r = { r with tasks := tasks } := by
  unfold growForChild valkeyReaderGrow
  split
  · exact ⟨_, rfl⟩
  · exact ⟨r.tasks, rfl⟩

theorem leaves_processAggregateItem (started : Started r) (busy : r.task ≠ []) :
    Leaves r (processAggregateItem fn r) := by
  obtain ⟨cur, rest, task⟩ := List.exists_cons_of_ne_nil busy
  obtain ⟨tasks, grown⟩ := growForChild_eq r
  have grownStarted : Started (growForChild r) := by
    rw [grown]
    exact started
  cases line : readLine (growForChild r) with
  | none =>
      simp only [processAggregateItem, task, line]
      rw [grown]
      exact fun _ => ⟨rfl, rfl, rfl, rfl, rfl⟩
  | some found =>
      obtain ⟨p, len, next⟩ := found
      obtain ⟨pos, overflow, rfl⟩ := readLine_some line
      rw [processAggregateItem_of_line fn task line]
      split
      · exact leaves_setError fn _ _ _
      · apply leaves_processAggregateHeader fn
        exacts [by rw [grown], grownStarted, by rw [grown]; exact busy]

theorem leaves_processTypedItem (started : Started r) (busy : r.task ≠ []) (type : ReplyType) :
    Leaves r (processTypedItem ffc fn r type) := by
  cases type with
  | error | status | integer | double | nil | bool | bignum =>
      exact leaves_processLineItem ffc fn started busy
  | string | verb => exact leaves_processBulkItem fn started busy
  | array | map | attr | set | push => exact leaves_processAggregateItem fn started busy

theorem leaves_processItem (started : Started r) (busy : r.task ≠ []) :
    Leaves r (processItem ffc fn r) := by
  obtain ⟨cur, rest, task⟩ := List.exists_cons_of_ne_nil busy
  cases known : cur.type with
  | some type =>
      rw [processItem_of_type ffc fn task known]
      exact leaves_processTypedItem ffc fn started busy type
  | none =>
      cases unread : r.unread with
      | nil =>
          rw [processItem_of_empty ffc fn task known unread]
          exact leaves_self
      | cons byte bytes =>
          rw [processItem_of_byte ffc fn task known unread]
          split
          · exact leaves_setError fn _ _ _
          · rename_i type _
            have typedStarted : Started (typed r cur rest type) := by
              simpa [Started, typed, task] using started
            have typedLeaves := leaves_processTypedItem ffc fn typedStarted
              (by simp [typed]) type
            revert typedLeaves
            generalize processTypedItem ffc fn (typed r cur rest type) type = result
            obtain ⟨status, next⟩ := result
            cases status <;> simp [Leaves, typed, task]

end Leaves

end Libvalkey
