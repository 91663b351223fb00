import Mathlib.Logic.Relation
import Libvalkey.Reader.Chunking

/-! # The reader when allocations fail

The reader takes memory for its tasks and for its buffer. The heap tells whether the next
allocation succeeds. An item comes to one of a few outcomes. -/

namespace Libvalkey

open ValkeyReader

variable {Heap Obj Double : Type}

section Functions

variable (malloc : Heap → Bool × Heap) (ffc : DoubleParser Double)
  (fn : ReplyObjectFunctions Heap Obj Double)

/-- The loop of `valkeyReaderGrow`. -/
def growTasks : Nat → ValkeyReader Heap Obj → Status × ValkeyReader Heap Obj
  | 0, r => (.ok, r)
  | count + 1, r =>
      match malloc r.heap with
      | (false, heap) => (.err, valkeyReaderSetErrorOOM fn { r with heap := heap })
      | (true, heap) => growTasks count { r with heap := heap, tasks := r.tasks + 1 }

/-- `valkeyReaderGrow`: the array first, then the tasks. -/
def valkeyReaderGrowWith (r : ValkeyReader Heap Obj) : Status × ValkeyReader Heap Obj :=
  match malloc r.heap with
  | (false, heap) => (.err, valkeyReaderSetErrorOOM fn { r with heap := heap })
  | (true, heap) => growTasks malloc fn readerStackSize { r with heap := heap }

/-- `processAggregateItem`. A reader that has grown need not grow again. -/
def processAggregateItemWith (r : ValkeyReader Heap Obj) : Status × ValkeyReader Heap Obj :=
  if r.ridx = r.tasks - 1 then
    match valkeyReaderGrowWith malloc fn r with
    | (.err, r) => (.err, r)
    | (.ok, r) => processAggregateItem fn r
  else processAggregateItem fn r

/-- The last `switch` of `processItem`. -/
def processTypedItemWith (r : ValkeyReader Heap Obj) (type : ReplyType) :
    Status × ValkeyReader Heap Obj :=
  match type with
  | .array | .map | .attr | .set | .push => processAggregateItemWith malloc fn r
  | type => processTypedItem ffc fn r type

def processItemWith (r : ValkeyReader Heap Obj) : Status × ValkeyReader Heap Obj :=
  match r.task with
  | [] => (.err, r)
  | cur :: rest =>
      match cur.type with
      | some type => processTypedItemWith malloc ffc fn r type
      | none =>
          match readBytes r 1 with
          | none => (.err, r)
          | some (p, r) =>
              match typeOfByte (p.headD 0) with
              | none => (.err, valkeyReaderSetErrorProtocolByte fn r (p.headD 0))
              | some type =>
                  processTypedItemWith malloc ffc fn
                    { r with task := { cur with type := some type } :: rest } type

/-- The `while` loop of `valkeyReaderGetReply`. -/
def processItemsWith : Nat → ValkeyReader Heap Obj → ValkeyReader Heap Obj
  | 0, r => r
  | fuel + 1, r =>
      if r.task = [] then r
      else
        match processItemWith malloc ffc fn r with
        | (.ok, r) => processItemsWith fuel r
        | (.err, r) => r

/-- `valkeyReaderGetReply` -/
def valkeyReaderGetReplyWith (r : ValkeyReader Heap Obj) :
    Status × Option Obj × ValkeyReader Heap Obj :=
  if r.err ≠ none then (.err, none, r)
  else if r.buf.length = 0 then (.ok, none, r)
  else
    let r := processItemsWith malloc ffc fn (r.unread.length + 1) (startReply r)
    if r.err ≠ none then (.err, none, r)
    else if r.task = [] then (.ok, r.reply, { r with reply := none })
    else (.ok, none, r)

/-- `valkeyReaderGetReadBuf`. An allocation that the capacity of the buffer makes unnecessary
counts as one that succeeds. -/
def valkeyReaderGetReadBufWith (r : ValkeyReader Heap Obj) (minbytes : Nat) :
    Status × ValkeyReader Heap Obj :=
  match valkeyReaderGetReadBuf fn r minbytes with
  | (.err, r) => (.err, r)
  | (.ok, r) =>
      match malloc r.heap with
      | (false, heap) => (.err, valkeyReaderSetErrorOOM fn { r with heap := heap })
      | (true, heap) => (.ok, { r with heap := heap })

/-- `valkeyReaderFeed` -/
def valkeyReaderFeedWith (r : ValkeyReader Heap Obj) (buf : Bytes) :
    Status × ValkeyReader Heap Obj :=
  if r.err ≠ none then (.err, r)
  else if buf.length ≥ 1 then
    match valkeyReaderGetReadBufWith malloc fn r buf.length with
    | (.err, r) => (.err, r)
    | (.ok, r) => (.ok, valkeyReaderCommitRead r buf)
  else (.ok, r)

/-! ## Calls -/

/-- `valkeyReaderFeed`, or `valkeyReaderGetReadBuf` and `valkeyReaderCommitRead`. -/
def receiveWith (r : ValkeyReader Heap Obj) : Chunk → Status × ValkeyReader Heap Obj
  | .feed buf => valkeyReaderFeedWith malloc fn r buf
  | .read minbytes bytes =>
      match valkeyReaderGetReadBufWith malloc fn r minbytes with
      | (.err, r) => (.err, r)
      | (.ok, r) => (.ok, valkeyReaderCommitRead r bytes)

/-- What a caller does with a reader. Without a place for it, a reply is freed. -/
inductive ReaderCall
  | receive (chunk : Chunk)
  | getReply
  | discardReply

/-- A reader, and the replies that have been handed to its caller. -/
abbrev Handling (Heap Obj : Type) : Type := ValkeyReader Heap Obj × List Obj

def readerCall (state : Handling Heap Obj) : ReaderCall → Status × Handling Heap Obj
  | .receive chunk =>
      let (status, r) := receiveWith malloc fn state.1 chunk
      (status, (r, state.2))
  | .getReply =>
      let (status, reply, r) := valkeyReaderGetReplyWith malloc ffc fn state.1
      (status, (r, state.2 ++ reply.toList))
  | .discardReply =>
      match valkeyReaderGetReplyWith malloc ffc fn state.1 with
      | (status, none, r) => (status, (r, state.2))
      | (status, some reply, r) =>
          (status, ({ r with heap := fn.freeObject r.heap reply }, state.2))

def readerRun (state : Handling Heap Obj) (calls : List ReaderCall) : Handling Heap Obj :=
  calls.foldl (fun state call => (readerCall malloc ffc fn state call).2) state

theorem readerRun_append (state : Handling Heap Obj) (before after : List ReaderCall) :
    readerRun malloc ffc fn state (before ++ after) =
      readerRun malloc ffc fn (readerRun malloc ffc fn state before) after :=
  List.foldl_append

end Functions

/-! ## Outcomes -/

/-- A call of one of the functions that make objects, and the number of children that the
object is to have. -/
inductive Creates (fn : ReplyObjectFunctions Heap Obj Double) (heap : Heap) (task : ReadTask Obj)
    (parent : Option (ReadTask Obj)) : Nat → Option Obj × Heap → Prop
  | string (str : Bytes) (len : Nat) :
      Creates fn heap task parent 0 (fn.createString heap task parent str len)
  | array (elements : Nat) :
      Creates fn heap task parent elements (fn.createArray heap task parent elements)
  | integer (value : Int) : Creates fn heap task parent 0 (fn.createInteger heap task parent value)
  | double (value : Double) (str : Bytes) (len : Nat) :
      Creates fn heap task parent 0 (fn.createDouble heap task parent value str len)
  | nil : Creates fn heap task parent 0 (fn.createNil heap task parent)
  | bool (value : Bool) : Creates fn heap task parent 0 (fn.createBool heap task parent value)

/-- Allocations of the reader, one after another. -/
abbrev Draws (malloc : Heap → Bool × Heap) : Heap → Heap → Prop :=
  Relation.ReflTransGen fun before after => after = (malloc before).2

/-- A reader that has read a part of the item of its current task `cur`. -/
structure HasRead (malloc : Heap → Bool × Heap) (r : ValkeyReader Heap Obj) (cur : ReadTask Obj)
    (rest : List (ReadTask Obj)) (next : ValkeyReader Heap Obj) : Prop where
  task : next.task = cur :: rest
  draws : Draws malloc r.heap next.heap
  reply : next.reply = r.reply
  err : next.err = r.err
  maxelements : next.maxelements = r.maxelements
  tasks : r.tasks ≤ next.tasks

/-- What the item of the current task comes to: it waits for more bytes, it is refused, there
is no memory for its object, or its object completes it or is to get children. -/
inductive ItemOutcome (malloc : Heap → Bool × Heap) (fn : ReplyObjectFunctions Heap Obj Double)
    (r : ValkeyReader Heap Obj) (cur : ReadTask Obj) (rest : List (ReadTask Obj)) :
    Status × ValkeyReader Heap Obj → Prop
  | waits {type : Option ReplyType} {next : ValkeyReader Heap Obj}
      (reading : HasRead malloc r { cur with type := type } rest next) :
      ItemOutcome malloc fn r cur rest (.err, next)
  | fails {next : ValkeyReader Heap Obj} (draws : Draws malloc r.heap next.heap)
      (reply : next.reply = r.reply) (tasks : r.tasks ≤ next.tasks) (type : ErrorType)
      (str : String) :
      ItemOutcome malloc fn r cur rest (.err, valkeyReaderSetError fn next type str)
  | refused {type : ReplyType} {next : ValkeyReader Heap Obj} {size : Nat} {heap : Heap}
      (reading : HasRead malloc r { cur with type := some type } rest next)
      (created : Creates fn next.heap { cur with type := some type } rest.head? size (none, heap)) :
      ItemOutcome malloc fn r cur rest (.err, valkeyReaderSetErrorOOM fn { next with heap := heap })
  | completes {type : ReplyType} {next : ValkeyReader Heap Obj} {obj : Obj} {heap : Heap}
      (reading : HasRead malloc r { cur with type := some type } rest next)
      (created : Creates fn next.heap { cur with type := some type } rest.head? 0 (some obj, heap))
      :
      ItemOutcome malloc fn r cur rest (.ok, completeItem { next with heap := heap } obj)
  | opens {type : ReplyType} {next : ValkeyReader Heap Obj} {elements : Int} {obj : Obj}
      {heap : Heap}
      (reading : HasRead malloc r { cur with type := some type } rest next)
      (aggregate : type.isAggregate = true) (positive : 0 < elements)
      (admitted : r.maxelements > 0 → elements ≤ r.maxelements * 2)
      (room : rest.length + 1 < next.tasks)
      (created : fn.createArray next.heap { cur with type := some type } rest.head?
        elements.toNat = (some obj, heap)) :
      ItemOutcome malloc fn r cur rest
        (.ok, openAggregate { next with heap := heap } { cur with type := some type } rest elements
          obj)

section Outcomes

variable {malloc : Heap → Bool × Heap} {ffc : DoubleParser Double}
  {fn : ReplyObjectFunctions Heap Obj Double} {r next : ValkeyReader Heap Obj} {cur : ReadTask Obj}
  {rest : List (ReadTask Obj)} {type : ReplyType}

theorem HasRead.of_same {last : ValkeyReader Heap Obj} (reading : HasRead malloc r cur rest next)
    (task : last.task = next.task) (heap : last.heap = next.heap) (reply : last.reply = next.reply)
    (err : last.err = next.err) (maxelements : last.maxelements = next.maxelements)
    (tasks : last.tasks = next.tasks) : HasRead malloc r cur rest last where
  task := task.trans reading.task
  draws := heap ▸ reading.draws
  reply := reply.trans reading.reply
  err := err.trans reading.err
  maxelements := maxelements.trans reading.maxelements
  tasks := tasks ▸ reading.tasks

theorem HasRead.line (reading : HasRead malloc r cur rest next) {p : Bytes} {len : Int}
    {last : ValkeyReader Heap Obj} (line : readLine next = some (p, len, last)) :
    HasRead malloc r cur rest last := by
  obtain ⟨pos, overflow, rfl⟩ := readLine_some line
  exact reading.of_same rfl rfl rfl rfl rfl rfl

theorem outcome_acceptObject (reading : HasRead malloc r { cur with type := some type } rest next)
    {result : Option Obj × Heap}
    (created : Creates fn next.heap { cur with type := some type } rest.head? 0 result) :
    ItemOutcome malloc fn r cur rest (acceptObject fn next result) := by
  obtain ⟨obj, heap⟩ := result
  cases obj with
  | none => exact .refused reading created
  | some obj => exact .completes reading created

theorem creates_lineObject {heap : Heap} {task : ReadTask Obj} {parent : Option (ReadTask Obj)}
    {p : Bytes} {len : Int} {result : Option Obj × Heap}
    (made : lineObject ffc fn heap task parent p len = .ok result) :
    Creates fn heap task parent 0 result := by
  unfold lineObject at made
  split at made
  · split at made
    · cases made
    · cases made
      exact .integer _
  · split at made
    · cases made
    · cases made
      exact .double _ _ _
  · split at made
    · cases made
    · cases made
      exact .nil
  · dsimp only at made
    split at made
    · cases made
    · cases made
      exact .bool _
  · split at made
    · cases made
      exact .string _ _
    · cases made
  · split at made
    · cases made
    · cases made
      exact .string _ _

theorem outcome_processLineItem
    (reading : HasRead malloc r { cur with type := some type } rest next) :
    ItemOutcome malloc fn r cur rest (processLineItem ffc fn next) := by
  unfold processLineItem
  rw [reading.task]
  dsimp only
  split
  · exact .waits reading
  · rename_i p len last line
    have after := reading.line line
    split
    · exact .fails after.draws after.reply after.tasks _ _
    · rename_i result made
      exact outcome_acceptObject after (creates_lineObject made)

theorem outcome_processBulkItem
    (reading : HasRead malloc r { cur with type := some type } rest next) :
    ItemOutcome malloc fn r cur rest (processBulkItem fn next) := by
  have moved (pos : Nat) :
      HasRead malloc r { cur with type := some type } rest { next with pos := pos } :=
    reading.of_same rfl rfl rfl rfl rfl rfl
  unfold processBulkItem
  rw [reading.task]
  dsimp only
  split
  · exact .waits reading
  split
  · exact .fails reading.draws reading.reply reading.tasks _ _
  split
  · exact .fails reading.draws reading.reply reading.tasks _ _
  unfold processBulkPayload
  split
  · exact outcome_acceptObject (moved _) .nil
  dsimp only
  split
  · split
    · exact .fails reading.draws reading.reply reading.tasks _ _
    · exact outcome_acceptObject (moved _) (.string _ _)
  · exact .waits reading

theorem outcome_processAggregateHeader
    (reading : HasRead malloc r { cur with type := some type } rest next)
    (aggregate : type.isAggregate = true) (room : rest.length + 1 < next.tasks) (elements : Int) :
    ItemOutcome malloc fn r cur rest
      (processAggregateHeader fn next { cur with type := some type } rest elements) := by
  unfold processAggregateHeader
  split
  · exact .fails reading.draws reading.reply reading.tasks _ _
  rename_i inRange
  split
  · exact outcome_acceptObject reading .nil
  split
  · exact .fails reading.draws reading.reply reading.tasks _ _
  dsimp only
  split
  · rename_i positive
    have admitted : r.maxelements > 0 →
        elements * childrenPerElement (some type) ≤ r.maxelements * 2 := by
      intro limited
      rw [← reading.maxelements] at limited ⊢
      have below : elements ≤ next.maxelements := not_lt.mp fun above =>
        inRange (.inr ⟨limited, above⟩)
      have arity : childrenPerElement (some type) = 1 ∨ childrenPerElement (some type) = 2 := by
        cases type <;> simp [childrenPerElement]
      rcases arity with one | two
      · rw [one]
        omega
      · rw [two]
        omega
    split
    · rename_i heap made
      have created := @Creates.array Heap Obj Double fn next.heap { cur with type := some type }
        rest.head? (elements * childrenPerElement (some type)).toNat
      rw [made] at created
      exact .refused reading created
    · rename_i obj heap made
      exact .opens reading aggregate positive admitted room made
  · rename_i none
    have created := @Creates.array Heap Obj Double fn next.heap { cur with type := some type }
      rest.head? 0
    rw [Int.toNat_of_nonpos (not_lt.mp none)]
    exact outcome_acceptObject reading created

theorem outcome_processAggregateItem
    (reading : HasRead malloc r { cur with type := some type } rest next)
    (aggregate : type.isAggregate = true) (room : rest.length + 1 ≤ next.tasks)
    (notFull : ¬next.ridx = next.tasks - 1) :
    ItemOutcome malloc fn r cur rest (processAggregateItem fn next) := by
  have spare : rest.length + 1 < next.tasks := by
    unfold ridx at notFull
    rw [reading.task, List.length_cons] at notFull
    omega
  unfold processAggregateItem
  rw [reading.task]
  dsimp only
  have same : growForChild next = next := if_neg notFull
  rw [same]
  split
  · exact .waits reading
  · rename_i p len last line
    have after := reading.line line
    have tasks : last.tasks = next.tasks := by
      obtain ⟨pos, overflow, rfl⟩ := readLine_some line
      rfl
    split
    · exact .fails after.draws after.reply after.tasks _ _
    · exact outcome_processAggregateHeader after aggregate (tasks ▸ spare) _

/-- Growing makes room for a child, or leaves the reader with an error. -/
theorem growTasks_cases (reading : HasRead malloc r cur rest next) (count : Nat) :
    (∃ last, growTasks malloc fn count next = (.ok, last) ∧ HasRead malloc r cur rest last ∧
        last.tasks = next.tasks + count) ∨
      ∃ last, growTasks malloc fn count next = (.err, valkeyReaderSetErrorOOM fn last) ∧
        Draws malloc r.heap last.heap ∧ last.reply = r.reply ∧ r.tasks ≤ last.tasks := by
  induction count generalizing next with
  | zero => exact .inl ⟨next, rfl, reading, rfl⟩
  | succ count induction =>
      have drawn : Draws malloc r.heap (malloc next.heap).2 := reading.draws.tail rfl
      unfold growTasks
      cases allocated : malloc next.heap with
      | mk made heap =>
          rw [allocated] at drawn
          cases made with
          | false => exact .inr ⟨_, rfl, drawn, reading.reply, reading.tasks⟩
          | true =>
              have grown : HasRead malloc r cur rest
                  { next with heap := heap, tasks := next.tasks + 1 } :=
                ⟨reading.task, drawn, reading.reply, reading.err, reading.maxelements,
                  reading.tasks.trans (Nat.le_succ _)⟩
              apply (induction grown).imp_left
              rintro ⟨last, same, kept, tasks⟩
              refine ⟨last, same, kept, tasks.trans ?_⟩
              dsimp only
              omega

theorem outcome_processAggregateItemWith
    (reading : HasRead malloc r { cur with type := some type } rest next)
    (aggregate : type.isAggregate = true) (room : rest.length + 1 ≤ next.tasks) :
    ItemOutcome malloc fn r cur rest (processAggregateItemWith malloc fn next) := by
  unfold processAggregateItemWith
  split
  swap
  · rename_i notFull
    exact outcome_processAggregateItem reading aggregate room notFull
  rename_i full
  unfold valkeyReaderGrowWith
  have drawn : Draws malloc r.heap (malloc next.heap).2 := reading.draws.tail rfl
  cases allocated : malloc next.heap with
  | mk made heap =>
      rw [allocated] at drawn
      cases made with
      | false =>
          have out : Draws malloc r.heap { next with heap := heap }.heap := drawn
          exact .fails out reading.reply reading.tasks _ _
      | true =>
          have resized : HasRead malloc r { cur with type := some type } rest
            { next with heap := heap } :=
            ⟨reading.task, drawn, reading.reply, reading.err, reading.maxelements, reading.tasks⟩
          dsimp only
          rcases growTasks_cases resized readerStackSize with
            ⟨last, same, grown, tasks⟩ | ⟨last, same, draws, reply, kept⟩
          · rw [same]
            dsimp only at tasks
            apply outcome_processAggregateItem grown aggregate
            · omega
            · unfold ridx at full ⊢
              rw [reading.task, List.length_cons] at full
              rw [grown.task, List.length_cons, tasks]
              simp only [readerStackSize]
              omega
          · rw [same]
            exact .fails draws reply kept _ _

theorem outcome_processTypedItemWith
    (reading : HasRead malloc r { cur with type := some type } rest next)
    (room : rest.length + 1 ≤ next.tasks) :
    ItemOutcome malloc fn r cur rest (processTypedItemWith malloc ffc fn next type) := by
  cases type with
  | array => exact outcome_processAggregateItemWith reading rfl room
  | map => exact outcome_processAggregateItemWith reading rfl room
  | attr => exact outcome_processAggregateItemWith reading rfl room
  | set => exact outcome_processAggregateItemWith reading rfl room
  | push => exact outcome_processAggregateItemWith reading rfl room
  | string => exact outcome_processBulkItem reading
  | verb => exact outcome_processBulkItem reading
  | integer => exact outcome_processLineItem reading
  | nil => exact outcome_processLineItem reading
  | status => exact outcome_processLineItem reading
  | error => exact outcome_processLineItem reading
  | double => exact outcome_processLineItem reading
  | bool => exact outcome_processLineItem reading
  | bignum => exact outcome_processLineItem reading

/-- An item of a reader whose tasks fit. -/
theorem outcome_processItemWith (busy : r.task = cur :: rest) (room : rest.length + 1 ≤ r.tasks) :
    ItemOutcome malloc fn r cur rest (processItemWith malloc ffc fn r) := by
  have started {typed : ReadTask Obj} {last : ValkeyReader Heap Obj}
      (task : last.task = typed :: rest)
      (same : last = { r with task := last.task, pos := last.pos }) :
      HasRead malloc r typed rest last := by
    rw [same] at task ⊢
    exact ⟨task, .refl, rfl, rfl, rfl, le_rfl⟩
  unfold processItemWith
  rw [busy]
  dsimp only
  split
  · rename_i type known
    have typed : HasRead malloc r { cur with type := some type } rest r :=
      started (by rw [busy, ← known]) rfl
    exact outcome_processTypedItemWith typed room
  split
  · exact .waits (started busy rfl)
  rename_i p last read
  have same : last = { r with pos := last.pos } := by
    unfold readBytes at read
    split at read
    · obtain ⟨_, rfl⟩ := Prod.mk.inj (Option.some.inj read)
      rfl
    · cases read
  split
  · rw [same]
    exact .fails .refl rfl le_rfl _ _
  · rename_i type known
    have typed : HasRead malloc r { cur with type := some type } rest
        { last with task := { cur with type := some type } :: rest } :=
      started rfl (by rw [same])
    exact outcome_processTypedItemWith typed (by rw [same]; exact room)

theorem moveToNextTask_length (stack : List (ReadTask Obj)) :
    (moveToNextTask stack).length ≤ stack.length := by
  induction stack with
  | nil => exact le_rfl
  | cons cur rest induction =>
      cases rest with
      | nil => exact Nat.zero_le _
      | cons prv rest =>
          unfold moveToNextTask
          split
          · exact induction.trans (Nat.le_succ _)
          · exact le_rfl

/-- What every item keeps holds after any number of them. -/
theorem processItemsWith_invariant {invariant : ValkeyReader Heap Obj → Prop}
    (room : ∀ r, invariant r → r.task.length ≤ r.tasks)
    (step : ∀ r cur rest result, invariant r → r.task = cur :: rest →
      ItemOutcome malloc fn r cur rest result → invariant result.2)
    (fuel : Nat) (holds : invariant r) : invariant (processItemsWith malloc ffc fn fuel r) := by
  induction fuel generalizing r with
  | zero => exact holds
  | succ fuel induction =>
      unfold processItemsWith
      split
      · exact holds
      rename_i busy
      obtain ⟨cur, rest, task⟩ := List.exists_cons_of_ne_nil busy
      have fits := room r holds
      rw [task, List.length_cons] at fits
      have outcome : ItemOutcome malloc fn r cur rest (processItemWith malloc ffc fn r) :=
        outcome_processItemWith task fits
      have next := step r cur rest _ holds task outcome
      split
      · rename_i last same
        rw [same] at next
        exact induction next
      · rename_i last same
        rw [same] at next
        exact next

/-- What receiving bytes comes to. -/
inductive Received (malloc : Heap → Bool × Heap) (fn : ReplyObjectFunctions Heap Obj Double)
    (r : ValkeyReader Heap Obj) : Status × ValkeyReader Heap Obj → Prop
  | dead (dead : r.err ≠ none) : Received malloc fn r (.err, r)
  | fails {next : ValkeyReader Heap Obj} (draws : Draws malloc r.heap next.heap)
      (reply : next.reply = r.reply) (tasks : r.tasks ≤ next.tasks) (type : ErrorType)
      (str : String) :
      Received malloc fn r (.err, valkeyReaderSetError fn next type str)
  | takes (buf : Bytes) (pos : Nat) {heap : Heap} (alive : r.err = none)
      (draws : Draws malloc r.heap heap) :
      Received malloc fn r (.ok, { r with buf := buf, pos := pos, heap := heap })

theorem received_getReadBuf (minbytes : Nat) :
    Received malloc fn r (valkeyReaderGetReadBufWith malloc fn r minbytes) := by
  have allocates (buf : Bytes) (pos : Nat) (alive : r.err = none) :
      Received malloc fn r
        (match malloc r.heap with
        | (false, heap) =>
            (.err, valkeyReaderSetErrorOOM fn { r with buf := buf, pos := pos, heap := heap })
        | (true, heap) => (.ok, { r with buf := buf, pos := pos, heap := heap })) := by
    have drawn : Draws malloc r.heap (malloc r.heap).2 := .single rfl
    cases allocated : malloc r.heap with
    | mk made heap =>
        rw [allocated] at drawn
        cases made with
        | false =>
            have out : Draws malloc r.heap { r with buf := buf, pos := pos, heap := heap }.heap :=
              drawn
            exact .fails out rfl le_rfl _ _
        | true => exact .takes buf pos alive drawn
  unfold valkeyReaderGetReadBufWith valkeyReaderGetReadBuf
  split
  · rename_i last refused
    split at refused
    · rename_i dead
      cases refused
      exact .dead dead
    split at refused
    · cases refused
      exact .fails .refl rfl le_rfl _ _
    split at refused
    · split at refused
      · cases refused
        exact .fails .refl rfl le_rfl _ _
      · cases refused
    · cases refused
  · rename_i last accepted
    split at accepted
    · cases accepted
    rename_i alive
    have alive : r.err = none := not_not.mp alive
    split at accepted
    · cases accepted
    split at accepted
    · split at accepted
      · cases accepted
      · cases accepted
        exact allocates _ _ alive
    · cases accepted
      exact allocates r.buf r.pos alive

theorem received_receiveWith (chunk : Chunk) :
    Received malloc fn r (receiveWith malloc fn r chunk) := by
  have committed {minbytes : Nat} (bytes : Bytes) :
      Received malloc fn r
        (match valkeyReaderGetReadBufWith malloc fn r minbytes with
        | (.err, r) => (.err, r)
        | (.ok, r) => (.ok, valkeyReaderCommitRead r bytes)) := by
    have received := @received_getReadBuf Heap Obj Double malloc fn r minbytes
    generalize valkeyReaderGetReadBufWith malloc fn r minbytes = result at received
    cases received with
    | dead dead => exact .dead dead
    | fails draws reply tasks type str => exact .fails draws reply tasks type str
    | takes buf pos alive draws => exact .takes (buf ++ bytes) pos alive draws
  cases chunk with
  | feed buf =>
      unfold receiveWith valkeyReaderFeedWith
      dsimp only
      split
      · rename_i dead
        exact .dead dead
      rename_i alive
      split
      · exact committed buf
      · exact .takes r.buf r.pos (not_not.mp alive) .refl
  | read minbytes bytes => exact committed bytes

end Outcomes

end Libvalkey
