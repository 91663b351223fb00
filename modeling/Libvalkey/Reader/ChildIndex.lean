import Libvalkey.Reader.Allocations

/-! # The index of a child

The children of an aggregate are counted by an `int`. The functions that make objects are
recorded, with the number of the creation that each object comes from. -/

namespace Libvalkey

open ValkeyReader

variable {Heap Obj Double : Type}

/-! ## Recording -/

/-- A call of a function that makes an object: the creation of the parent, `task->idx` and the
number of children that the object is to have. -/
structure Creation where
  parent : Option Nat
  idx : Int
  elements : Nat
  deriving DecidableEq, Repr

/-- A task without the number of the creation. -/
def plain (task : ReadTask (Obj × Nat)) : ReadTask Obj where
  type := task.type
  elements := task.elements
  idx := task.idx
  obj := task.obj.map Prod.fst

/-- The creation that the object of a task comes from. -/
def creationOf (task : ReadTask (Obj × Nat)) : Option Nat := task.obj.map Prod.snd

def recordCall (task : ReadTask (Obj × Nat)) (parent : Option (ReadTask (Obj × Nat)))
    (elements : Nat) (log : List Creation) (result : Option Obj × Heap) :
    Option (Obj × Nat) × Heap × List Creation :=
  (result.1.map (·, log.length),
    (result.2, log ++ [⟨parent.bind creationOf, task.idx, elements⟩]))

/-- The functions `fn`, with every call recorded. -/
def recording (fn : ReplyObjectFunctions Heap Obj Double) :
    ReplyObjectFunctions (Heap × List Creation) (Obj × Nat) Double where
  createString heap task parent str len :=
    recordCall task parent 0 heap.2 (fn.createString heap.1 (plain task) (parent.map plain) str len)
  createArray heap task parent elements :=
    recordCall task parent elements heap.2
      (fn.createArray heap.1 (plain task) (parent.map plain) elements)
  createInteger heap task parent value :=
    recordCall task parent 0 heap.2 (fn.createInteger heap.1 (plain task) (parent.map plain) value)
  createDouble heap task parent value str len :=
    recordCall task parent 0 heap.2
      (fn.createDouble heap.1 (plain task) (parent.map plain) value str len)
  createNil heap task parent :=
    recordCall task parent 0 heap.2 (fn.createNil heap.1 (plain task) (parent.map plain))
  createBool heap task parent value :=
    recordCall task parent 0 heap.2 (fn.createBool heap.1 (plain task) (parent.map plain) value)
  freeObject heap obj := (fn.freeObject heap.1 obj.1, heap.2)

def recordingMalloc (malloc : Heap → Bool × Heap) (heap : Heap × List Creation) :
    Bool × Heap × List Creation :=
  ((malloc heap.1).1, ((malloc heap.1).2, heap.2))

/-- The children of a creation. -/
def childCount (log : List Creation) (p : Nat) : Nat := log.countP (·.parent == some p)

/-- The number of the creation `i` among the children of `p`. -/
def ordinal (log : List Creation) (i p : Nat) : Nat := childCount (log.take i) p

/-- Every child is told its number, and its parent has a slot for it. -/
def WellIndexed (log : List Creation) : Prop :=
  ∀ (i p : Nat) (creation : Creation), log[i]? = some creation → creation.parent = some p →
    creation.idx = (ordinal log i p : Int) ∧ ∃ parent, log[p]? = some parent ∧
      0 ≤ creation.idx ∧ creation.idx < (parent.elements : Int)

section Recording

variable {malloc : Heap → Bool × Heap} {fn : ReplyObjectFunctions Heap Obj Double}
  {log : List Creation}

theorem creates_recording {heap : Heap × List Creation} {task : ReadTask (Obj × Nat)}
    {parent : Option (ReadTask (Obj × Nat))} {elements : Nat}
    {result : Option (Obj × Nat) × Heap × List Creation}
    (created : Creates (recording fn) heap task parent elements result) :
    ∃ made, result = recordCall task parent elements heap.2 made := by
  cases created <;> exact ⟨_, rfl⟩

theorem recordCall_some {heap : Heap × List Creation} {task : ReadTask (Obj × Nat)}
    {parent : Option (ReadTask (Obj × Nat))} {elements : Nat} {made : Option Obj × Heap}
    {obj : Obj × Nat} {after : Heap × List Creation}
    (same : recordCall task parent elements heap.2 made = (some obj, after)) :
    obj.2 = heap.2.length ∧
      after.2 = heap.2 ++ [⟨parent.bind creationOf, task.idx, elements⟩] := by
  obtain ⟨some, rfl⟩ := Prod.mk.inj same
  obtain ⟨inner, _, rfl⟩ := Option.map_eq_some_iff.mp some
  exact ⟨rfl, rfl⟩

theorem draws_recording {before after : Heap × List Creation}
    (draws : Draws (recordingMalloc malloc) before after) : after.2 = before.2 := by
  induction draws with
  | refl => rfl
  | tail _ drawn induction => rw [drawn, recordingMalloc, induction]

/-! ## The stack -/

theorem toInt32_succ (k : Nat) : toInt32 (toInt32 k + 1) = toInt32 ((k + 1 : Nat) : Int) := by
  unfold toInt32
  push_cast
  exact Int.bmod_add_bmod

theorem toInt32_lt (value : Int) : toInt32 value < 2 ^ 31 := by
  unfold toInt32
  have bound := @Int.bmod_lt value (2 ^ 32) (by decide)
  omega

/-- The tasks above the innermost open aggregate count its children. `pending` is zero for a
current task, whose object is still to be made. -/
inductive Counting (log : List Creation) : Nat → Nat → List (ReadTask (Obj × Nat)) → Prop
  | root {made bound : Nat} {task : ReadTask (Obj × Nat)} : Counting log made bound [task]
  | child {made bound : Nat} {cur prv : ReadTask (Obj × Nat)} {rest : List (ReadTask (Obj × Nat))}
      {p k : Nat} {parent : Creation} (held : creationOf prv = some p)
      (known : log[p]? = some parent) (elements : (parent.elements : Int) = prv.elements)
      (newer : p < bound) (counted : childCount log p = k + made) (idx : cur.idx = toInt32 k)
      (fits : k ≤ 2 ^ 31 ∨ parent.elements ≤ 2 ^ 31 → k < parent.elements)
      (below : Counting log 1 p (prv :: rest)) : Counting log made bound (cur :: prv :: rest)

/-- Only the index of the current task counts. -/
theorem Counting.retype {made bound : Nat} {cur typed : ReadTask (Obj × Nat)}
    {rest : List (ReadTask (Obj × Nat))} (counting : Counting log made bound (cur :: rest))
    (same : typed.idx = cur.idx) : Counting log made bound (typed :: rest) := by
  cases counting with
  | root => exact .root
  | child held known elements newer counted idx fits below =>
      exact .child held known elements newer counted (same.trans idx) fits below

theorem Counting.weaken {made bound later : Nat} {stack : List (ReadTask (Obj × Nat))}
    (counting : Counting log made bound stack) (before : bound ≤ later) :
    Counting log made later stack := by
  cases counting with
  | root => exact .root
  | child held known elements newer counted idx fits below =>
      exact .child held known elements (newer.trans_le before) counted idx fits below

/-- A creation for a parent that none of the tasks belongs to. -/
theorem Counting.append {made bound : Nat} {stack : List (ReadTask (Obj × Nat))}
    (counting : Counting log made bound stack) {creation : Creation}
    (other : ∀ p < bound, creation.parent ≠ some p) :
    Counting (log ++ [creation]) made bound stack := by
  induction counting with
  | root => exact .root
  | @child made bound cur prv rest p k parent held known elements newer counted idx fits below
      induction =>
      have inside : p < log.length := (List.getElem?_eq_some_iff.mp known).1
      refine .child held ?_ elements newer ?_ idx fits (induction fun q below => other q (by omega))
      · rw [List.getElem?_append_left inside, known]
      · have unequal : (creation.parent == some p) = false := by simpa using other p newer
        rw [childCount, List.countP_append, List.countP_singleton, unequal]
        exact counted

/-- When the object of a task has been made, the next task is the one of a sibling, or of a
sibling of one of the aggregates that it completes. -/
theorem Counting.move {bound : Nat} {stack : List (ReadTask (Obj × Nat))}
    (counting : Counting log 1 bound stack) :
    moveToNextTask stack = [] ∨ Counting log 0 bound (moveToNextTask stack) := by
  generalize made : 1 = count at counting
  induction counting with
  | root => exact .inl rfl
  | @child count bound cur prv rest p k parent held known elements newer counted idx fits below
      induction =>
      subst made
      unfold moveToNextTask
      split
      · exact (induction rfl).imp_right fun later => later.weaken newer.le
      rename_i more
      refine .inr (.child held known elements newer counted ?_ ?_ below)
      · dsimp only
        rw [idx, toInt32_succ]
      · intro small
        have before : k < parent.elements := fits (small.imp_left fun few => by omega)
        have whole : toInt32 k = k := toInt32_of_small (by omega)
        rw [idx, whole] at more
        omega

/-! ## The log -/

/-- Every creation has the number of its parent's children before it as its index, as an `int`. -/
def Logged (log : List Creation) : Prop :=
  ∀ (i p : Nat) (creation : Creation), log[i]? = some creation → creation.parent = some p →
    p < i ∧ creation.idx = toInt32 (ordinal log i p) ∧ ∃ parent, log[p]? = some parent ∧
      (ordinal log i p ≤ 2 ^ 31 ∨ parent.elements ≤ 2 ^ 31 → ordinal log i p < parent.elements)

theorem Logged.append (logged : Logged log) {creation : Creation}
    (fresh : ∀ p, creation.parent = some p → p < log.length ∧
      creation.idx = toInt32 (childCount log p) ∧ ∃ parent, log[p]? = some parent ∧
        (childCount log p ≤ 2 ^ 31 ∨ parent.elements ≤ 2 ^ 31 →
          childCount log p < parent.elements)) : Logged (log ++ [creation]) := by
  have kept {i p : Nat} (inside : i ≤ log.length) :
      ordinal (log ++ [creation]) i p = ordinal log i p := by
    rw [ordinal, ordinal, List.take_append_of_le_length inside]
  intro i p entry found child
  rcases lt_or_ge i log.length with inside | outside
  · rw [List.getElem?_append_left inside] at found
    obtain ⟨earlier, idx, parent, known, fits⟩ := logged i p entry found child
    rw [kept inside.le]
    refine ⟨earlier, idx, parent, ?_, fits⟩
    rw [List.getElem?_append_left (earlier.trans inside), known]
  · rw [List.getElem?_append_right outside] at found
    obtain rfl : i = log.length := by
      by_contra different
      rw [List.getElem?_eq_none (by simp; omega)] at found
      cases found
    rw [Nat.sub_self] at found
    obtain rfl := Option.some.inj found
    obtain ⟨earlier, idx, parent, known, fits⟩ := fresh p child
    have whole : ordinal log log.length p = childCount log p := by rw [ordinal, List.take_length]
    rw [kept le_rfl, whole]
    refine ⟨earlier, idx, parent, ?_, fits⟩
    rw [List.getElem?_append_left earlier, known]

/-- A reader counts as its log says. -/
structure ChildCounts (r : ValkeyReader (Heap × List Creation) (Obj × Nat)) : Prop where
  room : r.task.length ≤ r.tasks
  spare : 0 < r.tasks
  stack : r.task = [] ∨ Counting r.heap.2 0 r.heap.2.length r.task
  logged : Logged r.heap.2

/-- Nothing is a child of the last creation. -/
theorem Logged.none_yet {creation : Creation} (logged : Logged (log ++ [creation])) :
    childCount (log ++ [creation]) log.length = 0 := by
  apply List.countP_eq_zero.mpr
  intro entry member child
  obtain ⟨i, inside, rfl⟩ := List.mem_iff_getElem.mp member
  have earlier := (logged i log.length _ (List.getElem?_eq_getElem inside) (by simpa using child)).1
  rw [List.length_append, List.length_singleton] at inside
  omega

/-- The creation of the object of the current task. -/
def madeFor (cur : ReadTask (Obj × Nat)) (rest : List (ReadTask (Obj × Nat))) (elements : Nat) :
    Creation :=
  ⟨rest.head?.bind creationOf, cur.idx, elements⟩

theorem Counting.created {cur : ReadTask (Obj × Nat)} {rest : List (ReadTask (Obj × Nat))}
    (counting : Counting log 0 log.length (cur :: rest)) (logged : Logged log) (elements : Nat) :
    Counting (log ++ [madeFor cur rest elements]) 1 log.length (cur :: rest) ∧
      Logged (log ++ [madeFor cur rest elements]) := by
  cases counting with
  | root => exact ⟨.root, logged.append fun p impossible => nomatch impossible⟩
  | @child _ _ _ prv rest p k parent held known sized newer counted idx fits below =>
      have child : (madeFor cur (prv :: rest) elements).parent = some p := held
      constructor
      · refine .child held ?_ sized newer ?_ idx fits ?_
        · rw [List.getElem?_append_left newer, known]
        · rw [childCount, List.countP_append, List.countP_singleton, child, beq_self_eq_true,
            if_pos rfl]
          exact congrArg (· + 1) counted
        · apply below.append
          rintro q before same
          rw [child] at same
          exact absurd (Option.some.inj same) (by omega)
      · apply logged.append
        rintro q same
        obtain rfl : p = q := Option.some.inj (child.symm.trans same)
        rw [counted]
        exact ⟨newer, idx, parent, known, fits⟩

variable {r : ValkeyReader (Heap × List Creation) (Obj × Nat)} {cur : ReadTask (Obj × Nat)}
  {rest : List (ReadTask (Obj × Nat))}

theorem log_setError (next : ValkeyReader (Heap × List Creation) (Obj × Nat)) (type : ErrorType)
    (str : String) : (valkeyReaderSetError (recording fn) next type str).heap.2 = next.heap.2 := by
  unfold valkeyReaderSetError
  dsimp only
  split <;> rfl

theorem counts_setError {next : ValkeyReader (Heap × List Creation) (Obj × Nat)}
    (logged : Logged next.heap.2) (spare : 0 < next.tasks) (type : ErrorType) (str : String) :
    ChildCounts (valkeyReaderSetError (recording fn) next type str) where
  room := Nat.zero_le _
  spare := spare
  stack := .inl rfl
  logged := by rwa [log_setError]

/-- What an item keeps. -/
theorem ChildCounts.outcome (counts : ChildCounts r) (busy : r.task = cur :: rest)
    {result : Status × ValkeyReader (Heap × List Creation) (Obj × Nat)}
    (outcome : ItemOutcome (recordingMalloc malloc) (recording fn) r cur rest result) :
    ChildCounts result.2 := by
  obtain ⟨room, spare, stack, logged⟩ := counts
  rw [busy] at room stack
  have counting := stack.resolve_left (List.cons_ne_nil _ _)
  rw [List.length_cons] at room
  cases outcome with
  | @waits type next reading =>
      have log := draws_recording reading.draws
      refine ⟨?_, spare.trans_le reading.tasks, .inr ?_, log ▸ logged⟩
      · rw [reading.task]
        exact room.trans reading.tasks
      · rw [reading.task, log]
        exact counting.retype rfl
  | fails draws reply tasks type str =>
      exact counts_setError (draws_recording draws ▸ logged) (spare.trans_le tasks) _ _
  | @refused type next size heap reading created =>
      have log := draws_recording reading.draws
      obtain ⟨made, same⟩ := creates_recording created
      have made : heap.2 = r.heap.2 ++ [madeFor cur rest size] := by
        rw [(Prod.mk.inj same).2, log]
        rfl
      have logs : Logged heap.2 := made ▸ (counting.created logged size).2
      exact @counts_setError _ _ _ fn { next with heap := heap } logs
        (spare.trans_le reading.tasks) _ _
  | @completes type next obj heap reading created =>
      have log := draws_recording reading.draws
      obtain ⟨made, same⟩ := creates_recording created
      have made : heap.2 = r.heap.2 ++ [madeFor cur rest 0] := by
        rw [(Prod.mk.inj same).2, log]
        rfl
      obtain ⟨further, logs⟩ := counting.created logged 0
      have typed := @Counting.retype Obj _ 1 _ cur { cur with type := some type } rest further rfl
      refine ⟨?_, spare.trans_le reading.tasks, ?_, made ▸ logs⟩
      · have shorter := moveToNextTask_length next.task
        rw [reading.task, List.length_cons, ← reading.task] at shorter
        exact (shorter.trans room).trans reading.tasks
      · dsimp only [completeItem]
        rw [reading.task, made]
        apply typed.move.imp_right
        intro moved
        apply moved.weaken
        simp
  | @opens type next elements obj heap reading aggregate positive admitted child created =>
      have log := draws_recording reading.draws
      obtain ⟨number, made⟩ := recordCall_some created
      have made : heap.2 = r.heap.2 ++ [madeFor cur rest elements.toNat] := by
        rw [made, log]
        rfl
      obtain ⟨further, logs⟩ := counting.created logged elements.toNat
      refine ⟨child, spare.trans_le reading.tasks, .inr ?_, made ▸ logs⟩
      have held : creationOf { cur with type := some type, elements := elements, obj := some obj } =
          some r.heap.2.length := by
        rw [creationOf, Option.map_some, number, log]
      have known : (r.heap.2 ++ [madeFor cur rest elements.toNat])[r.heap.2.length]? =
          some (madeFor cur rest elements.toNat) := List.getElem?_concat_length
      have sized : ((madeFor cur rest elements.toNat).elements : Int) = elements :=
        Int.toNat_of_nonneg positive.le
      have below : Counting (r.heap.2 ++ [madeFor cur rest elements.toNat]) 1 r.heap.2.length
          ({ cur with type := some type, elements := elements, obj := some obj } :: rest) :=
        further.retype rfl
      dsimp only [openAggregate]
      rw [made]
      refine .child held known sized (by simp) logs.none_yet rfl ?_ below
      intro _
      omega

/-! ## Runs -/

theorem counts_startReply (counts : ChildCounts r) : ChildCounts (startReply r) := by
  unfold startReply
  split
  · exact ⟨counts.spare, counts.spare, .inr .root, counts.logged⟩
  · exact counts

variable {ffc : DoubleParser Double}

theorem counts_processItems (counts : ChildCounts r) (fuel : Nat) :
    ChildCounts (processItemsWith (recordingMalloc malloc) ffc (recording fn) fuel r) := by
  apply processItemsWith_invariant _ _ fuel counts
  · exact fun r counts => counts.room
  · exact fun r cur rest result counts busy outcome => counts.outcome busy outcome

theorem counts_getReply (counts : ChildCounts r) :
    ChildCounts (valkeyReaderGetReplyWith (recordingMalloc malloc) ffc (recording fn) r).2.2 := by
  unfold valkeyReaderGetReplyWith
  split
  · exact counts
  split
  · exact counts
  have processed := @counts_processItems Heap Obj Double malloc fn _ ffc (counts_startReply counts)
    (r.unread.length + 1)
  dsimp only
  split
  · exact processed
  split
  · exact ⟨processed.room, processed.spare, processed.stack, processed.logged⟩
  · exact processed

theorem counts_call {state : Handling (Heap × List Creation) (Obj × Nat)}
    (counts : ChildCounts state.1) (call : ReaderCall) :
    ChildCounts (readerCall (recordingMalloc malloc) ffc (recording fn) state call).2.1 := by
  have replied := @counts_getReply Heap Obj Double malloc fn _ ffc counts
  cases call with
  | receive chunk =>
      have received := @received_receiveWith _ _ _ (recordingMalloc malloc)
        (recording fn) state.1 chunk
      unfold readerCall
      dsimp only
      generalize receiveWith (recordingMalloc malloc) (recording fn) state.1 chunk =
        result at received
      cases received with
      | dead dead => exact counts
      | fails draws reply tasks type str =>
          exact counts_setError (draws_recording draws ▸ counts.logged)
            (counts.spare.trans_le tasks) _ _
      | takes buf pos alive draws =>
          have log := draws_recording draws
          exact ⟨counts.room, counts.spare, log ▸ counts.stack, log ▸ counts.logged⟩
  | getReply => exact replied
  | discardReply =>
      unfold readerCall
      dsimp only
      split
      · rename_i status last same
        rw [same] at replied
        exact replied
      · rename_i status reply last same
        rw [same] at replied
        exact ⟨replied.room, replied.spare, replied.stack, replied.logged⟩

theorem counts_run {state : Handling (Heap × List Creation) (Obj × Nat)}
    (counts : ChildCounts state.1) (calls : List ReaderCall) :
    ChildCounts (readerRun (recordingMalloc malloc) ffc (recording fn) state calls).1 := by
  induction calls generalizing state with
  | nil => exact counts
  | cons call rest induction => exact induction (counts_call counts call)

theorem Logged.wellIndexed_iff (logged : Logged log) :
    WellIndexed log ↔ ∀ (i p : Nat) (creation : Creation), log[i]? = some creation →
      creation.parent = some p → ordinal log i p < 2 ^ 31 := by
  constructor
  · intro indexed i p creation found child
    have number := (indexed i p creation found child).1
    have wraps := (logged i p creation found child).2.1
    have below := toInt32_lt (ordinal log i p)
    omega
  · intro few i p creation found child
    have small := few i p creation found child
    obtain ⟨_, idx, parent, known, fits⟩ := logged i p creation found child
    rw [toInt32_of_small small] at idx
    have inside := fits (.inl small.le)
    exact ⟨idx, parent, known, by omega, by omega⟩

end Recording

/-- The calls of the functions that make objects, for the calls of a user. -/
def creations (malloc : Heap → Bool × Heap) (ffc : DoubleParser Double)
    (fn : ReplyObjectFunctions Heap Obj Double) (heap : Heap) (maxelements : Int)
    (calls : List ReaderCall) : List Creation :=
  (readerRun (recordingMalloc malloc) ffc (recording fn)
    (newReader (Obj × Nat) (heap, []) maxelements, []) calls).1.heap.2

/-- The children of the aggregates are numbered in their order and inside their aggregates if
and only if no aggregate gets a child after its `2^31`-th one, which none does that declares at
most so many. -/
theorem child_index (malloc : Heap → Bool × Heap) (ffc : DoubleParser Double)
    (fn : ReplyObjectFunctions Heap Obj Double) (heap : Heap) (maxelements : Int)
    (calls : List ReaderCall) :
    (WellIndexed (creations malloc ffc fn heap maxelements calls) ↔
      ∀ (i p : Nat) (creation : Creation),
        (creations malloc ffc fn heap maxelements calls)[i]? = some creation →
          creation.parent = some p →
            ordinal (creations malloc ffc fn heap maxelements calls) i p < 2 ^ 31) ∧
    ((∀ creation ∈ creations malloc ffc fn heap maxelements calls, creation.elements ≤ 2 ^ 31) →
      WellIndexed (creations malloc ffc fn heap maxelements calls)) := by
  have start : ChildCounts (newReader (Obj × Nat) (heap, ([] : List Creation)) maxelements) :=
    ⟨Nat.zero_le _, Nat.succ_pos 8, .inl rfl, fun _ _ _ impossible => nomatch impossible⟩
  have logged := (@counts_run Heap Obj Double malloc fn ffc (_, []) start calls).logged
  refine ⟨logged.wellIndexed_iff, fun declared => logged.wellIndexed_iff.mpr ?_⟩
  intro i p creation found child
  obtain ⟨_, _, parent, known, fits⟩ := logged i p creation found child
  have limit := declared parent (List.mem_of_getElem? known)
  exact (fits (.inr limit)).trans_le limit

/-! ## An array that is too long -/

/-- Functions that make objects without contents. -/
def emptyFunctions : ReplyObjectFunctions Unit Unit String where
  createString _ _ _ _ _ := (some (), ())
  createArray _ _ _ _ := (some (), ())
  createInteger _ _ _ _ := (some (), ())
  createDouble _ _ _ _ _ _ := (some (), ())
  createNil _ _ _ := (some (), ())
  createBool _ _ _ _ := (some (), ())
  freeObject _ _ := ()

/-- Memory for everything. -/
def plenty (heap : Unit) : Bool × Unit := (true, heap)

/-- A reader that waits for a child of an array with `2^31 + 1` of them. -/
def childReader (buf : Bytes) (idx : Int) (log : List Creation) :
    ValkeyReader (Unit × List Creation) (Unit × Nat) where
  err := none
  errstr := ""
  buf := buf
  pos := buf.length
  maxelements := readerMaxArrayElements
  task := [⟨none, -1, idx, none⟩, ⟨some .array, 2147483649, -1, some ((), 0)⟩]
  tasks := readerStackSize
  reply := some ((), 0)
  heap := ((), log)
  overflow := false

def arrayCalls : List ReaderCall := [.receive (.feed (ascii "*2147483649\r\n")), .getReply]

def childCalls : List ReaderCall := [.receive (.feed (ascii "_\r\n")), .getReply]

theorem array_read :
    readerRun (recordingMalloc plenty) .namesOnly (recording emptyFunctions)
        (newReader (Unit × Nat) ((), []) readerMaxArrayElements, []) arrayCalls =
      (childReader (ascii "*2147483649\r\n") 0 [⟨none, -1, 2147483649⟩], []) := by
  rfl

/-- A child is read with the index of its task, and the index of the next one is an `int`. -/
theorem child_read {buf : Bytes} (consumed : buf ≠ []) (short : buf.length ≤ ssizeMax) {idx : Int}
    (inside : idx < 2 ^ 31) (log : List Creation) :
    readerRun (recordingMalloc plenty) .namesOnly (recording emptyFunctions)
        (childReader buf idx log, []) childCalls =
      (childReader (ascii "_\r\n") (toInt32 (idx + 1)) (log ++ [⟨some 0, idx, 0⟩]), []) := by
  have alive (buf : Bytes) : ¬(childReader buf idx log).err ≠ none := not_not.mpr rfl
  have received : (readerCall (recordingMalloc plenty) .namesOnly (recording emptyFunctions)
      (childReader buf idx log, []) (.receive (.feed (ascii "_\r\n")))).2 =
        ({ childReader (ascii "_\r\n") idx log with pos := 0 }, []) := by
    have compacted : valkeyReaderGetReadBuf (recording emptyFunctions) (childReader buf idx log)
        (ascii "_\r\n").length = (.ok, { childReader [] idx log with pos := 0 }) := by
      rw [valkeyReaderGetReadBuf, if_neg (alive buf), if_neg (by decide),
        if_pos (show (childReader buf idx log).pos > 0 from List.length_pos_iff.mpr consumed),
        if_neg (show ¬(childReader buf idx log).buf.length > ssizeMax from not_lt.mpr short)]
      simp [childReader, unread]
    have allocated : valkeyReaderGetReadBufWith (recordingMalloc plenty) (recording emptyFunctions)
        (childReader buf idx log) (ascii "_\r\n").length =
          (.ok, { childReader [] idx log with pos := 0 }) := by
      rw [valkeyReaderGetReadBufWith, compacted]
      rfl
    have fed : receiveWith (recordingMalloc plenty) (recording emptyFunctions)
        (childReader buf idx log) (.feed (ascii "_\r\n")) =
          (.ok, { childReader (ascii "_\r\n") idx log with pos := 0 }) := by
      rw [receiveWith, valkeyReaderFeedWith, if_neg (alive buf), if_pos (by decide), allocated]
      rfl
    rw [readerCall, fed]
  have moved : moveToNextTask
        [⟨some .nil, -1, idx, none⟩, ⟨some .array, 2147483649, -1, some ((), 0)⟩] =
      [⟨none, -1, toInt32 (idx + 1), none⟩, ⟨some .array, 2147483649, -1, some ((), 0)⟩] := by
    rw [moveToNextTask, if_neg]
    dsimp only
    omega
  have item : processItemWith (recordingMalloc plenty) .namesOnly (recording emptyFunctions)
      { childReader (ascii "_\r\n") idx log with pos := 0 } =
        (.ok, { childReader (ascii "_\r\n") idx (log ++ [⟨some 0, idx, 0⟩]) with
          task := moveToNextTask
            [⟨some .nil, -1, idx, none⟩, ⟨some .array, 2147483649, -1, some ((), 0)⟩] }) := rfl
  rw [moved] at item
  have items : processItemsWith (recordingMalloc plenty) .namesOnly (recording emptyFunctions) 4
      { childReader (ascii "_\r\n") idx log with pos := 0 } =
        childReader (ascii "_\r\n") (toInt32 (idx + 1)) (log ++ [⟨some 0, idx, 0⟩]) := by
    rw [processItemsWith, if_neg (by simp [childReader]), item]
    rfl
  have replied : readerCall (recordingMalloc plenty) .namesOnly (recording emptyFunctions)
      ({ childReader (ascii "_\r\n") idx log with pos := 0 }, []) .getReply =
        (.ok, childReader (ascii "_\r\n") (toInt32 (idx + 1)) (log ++ [⟨some 0, idx, 0⟩]), []) := by
    have waits : valkeyReaderGetReplyWith (recordingMalloc plenty) .namesOnly
        (recording emptyFunctions) { childReader (ascii "_\r\n") idx log with pos := 0 } =
          (.ok, none, childReader (ascii "_\r\n") (toInt32 (idx + 1))
            (log ++ [⟨some 0, idx, 0⟩])) := by
      have call : valkeyReaderGetReplyWith (recordingMalloc plenty) .namesOnly
          (recording emptyFunctions) { childReader (ascii "_\r\n") idx log with pos := 0 } =
            let r := processItemsWith (recordingMalloc plenty) .namesOnly
              (recording emptyFunctions) 4
              { childReader (ascii "_\r\n") idx log with pos := 0 }
            if r.err ≠ none then (.err, none, r)
            else if r.task = [] then (.ok, r.reply, { r with reply := none })
            else (.ok, none, r) := rfl
      rw [call, items]
      rfl
    rw [readerCall, waits]
    rfl
  rw [readerRun, childCalls, List.foldl_cons, received, List.foldl_cons, replied]
  rfl

/-- The array and its first children. -/
def arrayLog (count : Nat) : List Creation :=
  ⟨none, -1, 2147483649⟩ :: (List.range count).map fun (k : Nat) => ⟨some 0, toInt32 k, 0⟩

theorem children_read (count : Nat) :
    readerRun (recordingMalloc plenty) .namesOnly (recording emptyFunctions)
        (childReader (ascii "*2147483649\r\n") 0 (arrayLog 0), [])
        (List.replicate (count + 1) childCalls).flatten =
      (childReader (ascii "_\r\n") (toInt32 ((count + 1 : Nat) : Int)) (arrayLog (count + 1)),
        []) := by
  induction count with
  | zero => exact child_read (by decide) (by decide) (by decide) _
  | succ count induction =>
      rw [List.replicate_succ', List.flatten_append, readerRun_append, induction,
        List.flatten_singleton, child_read (by decide) (by decide) (toInt32_lt _), toInt32_succ]
      have grown : arrayLog (count + 1) ++ [⟨some 0, toInt32 ((count + 1 : Nat) : Int), 0⟩] =
          arrayLog (count + 1 + 1) := by
        have longer : List.range (count + 1 + 1) = List.range (count + 1) ++ [count + 1] :=
          List.range_succ
        rw [arrayLog, arrayLog, longer, List.map_append]
        rfl
      rw [grown]

/-- The calls that read the header and a number of children. -/
def childrenCalls (count : Nat) : List ReaderCall :=
  arrayCalls ++ (List.replicate count childCalls).flatten

theorem creations_children (count : Nat) :
    creations plenty .namesOnly emptyFunctions () readerMaxArrayElements
      (childrenCalls (count + 1)) =
      arrayLog (count + 1) := by
  have read := children_read count
  have header : (arrayLog 0) = [⟨none, -1, 2147483649⟩] := rfl
  rw [header] at read
  rw [creations, childrenCalls, readerRun_append, array_read, read]
  rfl

/-- The calls that read all children. -/
def longArrayCalls : List ReaderCall := childrenCalls (2 ^ 31 + 1)

theorem creations_longArray :
    creations plenty .namesOnly emptyFunctions () readerMaxArrayElements longArrayCalls =
      arrayLog (2 ^ 31 + 1) :=
  creations_children (2 ^ 31)

/-- The child after the `2^31`-th one is told a negative number. -/
theorem child_index_wraps :
    (creations plenty .namesOnly emptyFunctions () readerMaxArrayElements longArrayCalls)[2 ^ 31 + 1]? =
        some ⟨some 0, -2147483648, 0⟩ ∧
      ¬WellIndexed
        (creations plenty .namesOnly emptyFunctions () readerMaxArrayElements longArrayCalls) := by
  rw [creations_longArray]
  have last : (arrayLog (2 ^ 31 + 1))[2 ^ 31 + 1]? = some ⟨some 0, -2147483648, 0⟩ := by
    rw [arrayLog, List.getElem?_cons_succ, List.getElem?_map, List.getElem?_range (by omega)]
    rfl
  refine ⟨last, fun indexed => ?_⟩
  obtain ⟨number, _⟩ := indexed _ _ _ last rfl
  dsimp only at number
  omega

end Libvalkey
