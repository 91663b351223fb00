import Libvalkey.Foundation.Loops
import Libvalkey.Foundation.Runs
import Libvalkey.Reader.Acceptance
import Libvalkey.Reader.Allocations

/-! # Items take bytes

An item that is processed takes at least one byte, unless a line is so long that its length as an
`int` takes the cursor back. So the loop over the items of a reply ends. -/

namespace Libvalkey

open ValkeyReader Loops Runs

variable {Heap Obj Double : Type}

/-! ## Lines that take the cursor back -/

/-- The step of `readLine` over a line and its `\r\n`. -/
def lineStep (offset : Nat) : Int := toInt32 (toInt32 offset + 2)

/-- The type of the item at the cursor, and the reader after its type byte. -/
def atType (r : ValkeyReader Heap Obj) : Option (ReplyType × ValkeyReader Heap Obj) :=
  match r.task with
  | [] => none
  | cur :: rest =>
      match cur.type with
      | some type => some (type, r)
      | none =>
          match r.unread with
          | [] => none
          | byte :: _ => (typeOfByte byte).map fun type => (type, typed r cur rest type)

/-- The functions make an object for a line of a length. -/
def LineAccepted (ffc : DoubleParser Double) (fn : ReplyObjectFunctions Heap Obj Double)
    (r : ValkeyReader Heap Obj) (len : Int) : Prop :=
  match r.task with
  | [] => False
  | cur :: rest =>
      ∃ obj heap, lineObject ffc fn r.heap cur rest.head? r.unread len = .ok (some obj, heap)

/-- No line at the cursor is accepted whose step takes the cursor back to where the item was
resumed, or before it. -/
def Forward (ffc : DoubleParser Double) (fn : ReplyObjectFunctions Heap Obj Double)
    (r : ValkeyReader Heap Obj) : Prop :=
  ∀ type start offset, atType r = some (type, start) → type.isLine = true →
    seekNewline start.unread = some offset → LineAccepted ffc fn start (toInt32 offset) →
      r.pos < start.pos + lineStep offset

/-- The cursor has moved on in the buffer. -/
structure Consumes (r next : ValkeyReader Heap Obj) : Prop where
  buf : next.buf = r.buf
  moved : r.pos < next.pos
  inside : next.pos ≤ next.buf.length

/-- What an item does to the cursor. One that waits is still the current task. -/
def Moves (r : ValkeyReader Heap Obj) : Status × ValkeyReader Heap Obj → Prop
  | (.ok, next) => Consumes r next
  | (.err, next) => next.pos ≤ next.buf.length ∧ (next.err = none → next.task ≠ [])

section Items

variable {malloc : Heap → Bool × Heap} {ffc : DoubleParser Double}
  {fn : ReplyObjectFunctions Heap Obj Double} {r start : ValkeyReader Heap Obj}

theorem moves_setError (next : ValkeyReader Heap Obj) (type : ErrorType) (str : String) :
    Moves r (.err, valkeyReaderSetError fn next type str) :=
  ⟨Nat.le_refl _, fun alive => absurd alive (setError_err fn next type str)⟩

theorem moves_acceptObject {next : ValkeyReader Heap Obj} (consumes : Consumes r next)
    (created : Option Obj × Heap) : Moves r (acceptObject fn next created) := by
  obtain ⟨obj, heap⟩ := created
  cases obj with
  | none => exact moves_setError _ _ _
  | some obj => exact ⟨consumes.buf, consumes.moved, consumes.inside⟩

theorem toInt32_bounds (value : Int) :
    -2 ^ 31 ≤ toInt32 value ∧ toInt32 value < 2 ^ 31 ∧ (toInt32 value - value) % 2 ^ 32 = 0 := by
  unfold toInt32 Int.bmod
  dsimp only
  split
  · omega
  · omega

theorem lineStep_le (offset : Nat) : lineStep offset ≤ offset + 2 := by
  have length := toInt32_bounds offset
  have step := toInt32_bounds (toInt32 offset + 2)
  unfold lineStep
  omega

/-- The length of a line that holds a number fits an `int`. -/
theorem lineStep_pos {p : Bytes} {offset : Nat} {elements : Int} (bound : offset + 2 ≤ p.length)
    (parsed : string2ll (p.take (toSize (toInt32 offset))) = some elements) :
    0 < lineStep offset := by
  obtain ⟨inRange, text⟩ := (string2ll_eq_some_iff _ _).mp parsed
  have short := length_ofInt_of_inLongLong inRange
  rw [← text, List.length_take] at short
  have length := toInt32_bounds offset
  have step := toInt32_bounds (toInt32 offset + 2)
  unfold toSize at short
  unfold lineStep
  omega

theorem readLine_found {offset : Nat} (found : seekNewline r.unread = some offset) :
    readLine r = some (r.unread, toInt32 offset,
      { r with
        pos := moveCursor r.pos (lineStep offset)
        overflow := r.overflow || decide (2 ^ 31 ≤ toInt32 offset + 2) }) := by
  unfold readLine
  rw [found]
  rfl

/-- `start` is `r`, or `r` after a type byte. -/
structure InItem (r start : ValkeyReader Heap Obj) : Prop where
  buf : start.buf = r.buf
  pos : r.pos ≤ start.pos
  inside : start.pos ≤ start.buf.length
  busy : start.task ≠ []

theorem InItem.waits (inItem : InItem r start) : Moves r (.err, start) :=
  ⟨inItem.inside, fun _ => inItem.busy⟩

theorem InItem.grown (inItem : InItem r start) : InItem r (growForChild start) := by
  obtain ⟨-, -, task, pos, buf⟩ := growForChild_fields start
  refine ⟨buf.trans inItem.buf, pos ▸ inItem.pos, ?_, ?_⟩
  · rw [pos, buf]
    exact inItem.inside
  · rw [task]
    exact inItem.busy

theorem InItem.consumes (inItem : InItem r start) {count : Nat} (positive : 0 < count)
    (available : count ≤ start.unread.length) :
    Consumes r { start with pos := start.pos + count } := by
  obtain ⟨buf, pos, inside, -⟩ := inItem
  unfold unread at available
  rw [List.length_drop] at available
  refine ⟨buf, ?_, ?_⟩
  · dsimp only
    omega
  · dsimp only
    omega

/-- A step that ends after the start of the item does not leave the buffer. -/
theorem InItem.line (inItem : InItem r start) {offset : Nat}
    (found : seekNewline start.unread = some offset) (ahead : r.pos < start.pos + lineStep offset)
    (overflow : Bool) :
    Consumes r { start with
      pos := moveCursor start.pos (lineStep offset)
      overflow := overflow } := by
  have bound := seekNewline_bound found
  have step := lineStep_le offset
  obtain ⟨buf, pos, inside, -⟩ := inItem
  unfold unread at bound
  rw [List.length_drop] at bound
  have moved : moveCursor start.pos (lineStep offset) = (start.pos + lineStep offset).toNat :=
    if_pos (by omega)
  refine ⟨buf, ?_, ?_⟩
  · dsimp only
    omega
  · dsimp only
    omega

theorem moves_processLineItem (inItem : InItem r start)
    (forward : ∀ offset, seekNewline start.unread = some offset →
      LineAccepted ffc fn start (toInt32 offset) → r.pos < start.pos + lineStep offset) :
    Moves r (processLineItem ffc fn start) := by
  obtain ⟨cur, rest, task⟩ := List.exists_cons_of_ne_nil inItem.busy
  cases found : seekNewline start.unread with
  | none =>
      rw [processLineItem_of_missing ffc fn found]
      exact inItem.waits
  | some offset =>
      rw [processLineItem_of_line ffc fn task (readLine_found found)]
      dsimp only
      split
      · exact moves_setError _ _ _
      · rename_i created made
        obtain ⟨obj, heap⟩ := created
        cases obj with
        | none => exact moves_setError _ _ _
        | some obj =>
            have accepted : LineAccepted ffc fn start (toInt32 offset) := by
              unfold LineAccepted
              rw [task]
              exact ⟨obj, heap, made⟩
            exact moves_acceptObject (inItem.line found (forward offset found accepted) _) _

theorem moves_processBulkItem (inItem : InItem r start) :
    Moves r (processBulkItem fn start) := by
  obtain ⟨cur, rest, task⟩ := List.exists_cons_of_ne_nil inItem.busy
  unfold processBulkItem
  rw [task]
  dsimp only
  split
  · exact inItem.waits
  rename_i offset found
  have bound := seekNewline_bound found
  split
  · exact moves_setError _ _ _
  split
  · exact moves_setError _ _ _
  unfold processBulkPayload
  split
  · exact moves_acceptObject (inItem.consumes (by omega) bound) _
  dsimp only
  split
  · rename_i arrived
    split
    · exact moves_setError _ _ _
    · refine moves_acceptObject (inItem.consumes (by omega) ?_) _
      unfold unread
      rw [List.length_drop]
      omega
  · exact inItem.waits

theorem moves_processAggregateHeader {next : ValkeyReader Heap Obj} (consumes : Consumes r next)
    (cur : ReadTask Obj) (rest : List (ReadTask Obj)) (elements : Int) :
    Moves r (processAggregateHeader fn next cur rest elements) := by
  unfold processAggregateHeader
  split
  · exact moves_setError _ _ _
  split
  · exact moves_acceptObject consumes _
  split
  · exact moves_setError _ _ _
  dsimp only
  split
  · split
    · exact moves_setError _ _ _
    · exact ⟨consumes.buf, consumes.moved, consumes.inside⟩
  · exact moves_acceptObject consumes _

theorem moves_processAggregateItem (inItem : InItem r start) :
    Moves r (processAggregateItem fn start) := by
  obtain ⟨cur, rest, task⟩ := List.exists_cons_of_ne_nil inItem.busy
  have grown := inItem.grown
  cases found : seekNewline (growForChild start).unread with
  | none =>
      rw [(growForChild_fields start).1] at found
      rw [processAggregateItem_of_missing fn task found]
      exact grown.waits
  | some offset =>
      rw [processAggregateItem_of_line fn task (readLine_found found)]
      split
      · exact moves_setError _ _ _
      · rename_i elements parsed
        have ahead := lineStep_pos (seekNewline_bound found) parsed
        refine moves_processAggregateHeader (grown.line found ?_ _) cur rest elements
        have pos := grown.pos
        omega

/-- Growing the stack leaves the cursor, or the reader has an error. -/
theorem growTasks_inItem (inItem : InItem r start) (count : Nat) :
    Moves r (.err, (growTasks malloc fn count start).2) ∧
      ((growTasks malloc fn count start).1 = .ok →
        InItem r (growTasks malloc fn count start).2) := by
  induction count generalizing start with
  | zero => exact ⟨inItem.waits, fun _ => inItem⟩
  | succ count induction =>
      unfold growTasks
      split
      · exact ⟨moves_setError _ _ _, fun impossible => (nomatch impossible)⟩
      · exact induction ⟨inItem.buf, inItem.pos, inItem.inside, inItem.busy⟩

theorem moves_processAggregateItemWith (inItem : InItem r start) :
    Moves r (processAggregateItemWith malloc fn start) := by
  unfold processAggregateItemWith
  split
  swap
  · exact moves_processAggregateItem inItem
  unfold valkeyReaderGrowWith
  split
  · rename_i last failed
    split at failed
    · cases failed
      exact moves_setError _ _ _
    · rename_i heap _
      have grown := @growTasks_inItem _ _ _ malloc fn r { start with heap := heap }
        ⟨inItem.buf, inItem.pos, inItem.inside, inItem.busy⟩ readerStackSize
      rw [failed] at grown
      exact grown.1
  · rename_i last grew
    split at grew
    · cases grew
    · rename_i heap _
      have grown := @growTasks_inItem _ _ _ malloc fn r { start with heap := heap }
        ⟨inItem.buf, inItem.pos, inItem.inside, inItem.busy⟩ readerStackSize
      rw [grew] at grown
      exact moves_processAggregateItem (grown.2 rfl)

theorem moves_processTypedItemWith (inItem : InItem r start) (type : ReplyType)
    (forward : type.isLine = true → ∀ offset, seekNewline start.unread = some offset →
      LineAccepted ffc fn start (toInt32 offset) → r.pos < start.pos + lineStep offset) :
    Moves r (processTypedItemWith malloc ffc fn start type) := by
  cases type with
  | array => exact moves_processAggregateItemWith inItem
  | map => exact moves_processAggregateItemWith inItem
  | attr => exact moves_processAggregateItemWith inItem
  | set => exact moves_processAggregateItemWith inItem
  | push => exact moves_processAggregateItemWith inItem
  | string => exact moves_processBulkItem inItem
  | verb => exact moves_processBulkItem inItem
  | error | status | integer | double | nil | bool | bignum =>
      exact moves_processLineItem inItem (forward rfl)

/-- The cases of `atType`, with what `processItem` does in each. -/
theorem atType_cases (inside : r.pos ≤ r.buf.length) (busy : r.task ≠ []) :
    (atType r = none ∧ Moves r (processItemWith malloc ffc fn r)) ∨
      ∃ type start, atType r = some (type, start) ∧ InItem r start ∧
        processItemWith malloc ffc fn r = processTypedItemWith malloc ffc fn start type := by
  obtain ⟨cur, rest, task⟩ := List.exists_cons_of_ne_nil busy
  unfold atType processItemWith
  rw [task]
  dsimp only
  cases known : cur.type with
  | some type => exact .inr ⟨type, r, rfl, ⟨rfl, Nat.le_refl _, inside, busy⟩, rfl⟩
  | none =>
      cases unread : r.unread with
      | nil =>
          have noBytes : readBytes r 1 = none := by
            have length := congrArg List.length unread
            unfold ValkeyReader.unread at length
            rw [List.length_drop, List.length_nil] at length
            exact if_neg (by omega)
          rw [noBytes]
          exact .inl ⟨rfl, inside, fun _ => busy⟩
      | cons byte bytes =>
          have within : r.pos + 1 ≤ r.buf.length := by
            have length := congrArg List.length unread
            unfold ValkeyReader.unread at length
            rw [List.length_drop, List.length_cons] at length
            omega
          rw [readBytes_one unread]
          dsimp only [List.headD_cons]
          cases kind : typeOfByte byte with
          | none => exact .inl ⟨rfl, moves_setError _ _ _⟩
          | some type =>
              have inItem : InItem r (typed r cur rest type) :=
                ⟨rfl, Nat.le_succ _, within, List.cons_ne_nil _ _⟩
              exact .inr ⟨type, typed r cur rest type, rfl, inItem, rfl⟩

/-- An item that is processed takes at least one byte. -/
theorem moves_processItemWith (inside : r.pos ≤ r.buf.length) (busy : r.task ≠ [])
    (forward : Forward ffc fn r) : Moves r (processItemWith malloc ffc fn r) := by
  rcases @atType_cases _ _ _ malloc ffc fn r inside busy with
    ⟨_, moves⟩ | ⟨type, start, found, inItem, same⟩
  · exact moves
  · rw [same]
    exact moves_processTypedItemWith inItem type fun line offset =>
      forward type start offset found line

/-- Before the buffer, the cursor becomes a position far behind it. -/
theorem ahead_of_moveCursor {pos bound : Nat} {step : Int} {before : Nat}
    (small : bound ≤ ssizeMax) (low : -2 ^ 31 ≤ step) (moved : before < moveCursor pos step)
    (within : moveCursor pos step ≤ bound) : (before : Int) < pos + step := by
  unfold ssizeMax at small
  unfold moveCursor toSize at moved within
  by_cases forward : 0 ≤ pos + step
  · rw [if_pos forward] at moved
    omega
  · rw [if_neg forward] at within
    omega

/-- In a buffer that fits in memory, only the lines that `Forward` excludes are accepted without
progress. -/
theorem forward_of_consumes (inside : r.pos ≤ r.buf.length) (small : r.buf.length ≤ ssizeMax)
    (consumes : ∀ next, processItemWith malloc ffc fn r = (.ok, next) → Consumes r next) :
    Forward ffc fn r := by
  intro type start offset found line newline accepted
  have busy : r.task ≠ [] := by
    intro done
    unfold atType at found
    rw [done] at found
    cases found
  rcases @atType_cases _ _ _ malloc ffc fn r inside busy with
    ⟨missing, _⟩ | ⟨type', start', found', inItem, same⟩
  · cases missing.symm.trans found
  cases found'.symm.trans found
  unfold LineAccepted at accepted
  obtain ⟨cur, rest, task⟩ := List.exists_cons_of_ne_nil inItem.busy
  rw [task] at accepted
  obtain ⟨obj, heap, made⟩ := accepted
  have lineItem : processTypedItemWith malloc ffc fn start type = processLineItem ffc fn start := by
    cases type with
    | error | status | integer | double | nil | bool | bignum => rfl
    | string | verb | array | map | attr | set | push => cases line
  have processed : ∃ overflow, processLineItem ffc fn start =
      (.ok, completeItem { start with
        pos := moveCursor start.pos (lineStep offset)
        overflow := overflow
        heap := heap } obj) := by
    rw [processLineItem_of_line ffc fn task (readLine_found newline)]
    dsimp only
    rw [made]
    dsimp only [acceptObject]
    exact ⟨_, rfl⟩
  obtain ⟨overflow, processed⟩ := processed
  obtain ⟨buf, moved, within⟩ := consumes _ (same.trans (lineItem.trans processed))
  rw [buf] at within
  dsimp only [completeItem] at moved within
  have low := (toInt32_bounds (toInt32 offset + 2)).1
  exact ahead_of_moveCursor small low moved within

end Items

/-! ## The loop over the items of a reply -/

section Replies

variable (malloc : Heap → Bool × Heap) (ffc : DoubleParser Double)
  (fn : ReplyObjectFunctions Heap Obj Double)

/-- The body of the `while` loop of `valkeyReaderGetReply`. -/
def itemTurn (r : ValkeyReader Heap Obj) : ValkeyReader Heap Obj ⊕ ValkeyReader Heap Obj :=
  if r.task = [] then .inl r
  else
    match processItemWith malloc ffc fn r with
    | (.ok, r) => .inr r
    | (.err, r) => .inl r

/-- No line of the reply that begins or goes on at the cursor takes the cursor back. -/
def ForwardReply (r : ValkeyReader Heap Obj) : Prop :=
  ∀ met, Meets (itemTurn malloc ffc fn) (startReply r) met → Forward ffc fn met

/-- Every item that is processed takes a byte, and the loop ends within as many turns as there are
bytes, and one. -/
structure ReplyProgress (r : ValkeyReader Heap Obj) : Prop where
  items : ∀ met next, Meets (itemTurn malloc ffc fn) (startReply r) met →
    processItemWith malloc ffc fn met = (.ok, next) → Consumes met next
  ends : ∀ count, r.unread.length < count →
    Ends (itemTurn malloc ffc fn) (startReply r)
      (processItemsWith malloc ffc fn count (startReply r))

/-- A reader in the middle of a reply that `r` begins or goes on with. -/
structure Along (r met : ValkeyReader Heap Obj) : Prop where
  buf : met.buf = r.buf
  pos : r.pos ≤ met.pos
  inside : met.pos ≤ met.buf.length
  done : met.task = [] → r.pos < met.pos

end Replies

section Loop

variable {malloc : Heap → Bool × Heap} {ffc : DoubleParser Double}
  {fn : ReplyObjectFunctions Heap Obj Double} {r met next : ValkeyReader Heap Obj}

theorem unrolls_processItemsWith :
    Unrolls (itemTurn malloc ffc fn) (processItemsWith malloc ffc fn) where
  stops count r result last := by
    unfold itemTurn at last
    unfold processItemsWith
    by_cases done : r.task = []
    · rw [if_pos done] at last ⊢
      exact Sum.inl.inj last
    · rw [if_neg done] at last ⊢
      generalize processItemWith malloc ffc fn r = processed at last ⊢
      obtain ⟨status, next⟩ := processed
      cases status with
      | ok => cases last
      | err => exact Sum.inl.inj last
  continues count r next turn := by
    unfold itemTurn at turn
    conv_lhs => unfold processItemsWith
    by_cases done : r.task = []
    · rw [if_pos done] at turn
      cases turn
    · rw [if_neg done] at turn ⊢
      generalize processItemWith malloc ffc fn r = processed at turn ⊢
      obtain ⟨status, last⟩ := processed
      cases status with
      | ok =>
          cases turn
          rfl
      | err => cases turn

theorem processItemWith_of_turn (turn : itemTurn malloc ffc fn met = .inr next) :
    met.task ≠ [] ∧ processItemWith malloc ffc fn met = (.ok, next) := by
  unfold itemTurn at turn
  split at turn
  · cases turn
  · rename_i busy
    split at turn
    · rename_i processed
      cases turn
      exact ⟨busy, processed⟩
    · cases turn

theorem turn_of_processItemWith (processed : processItemWith malloc ffc fn met = (.ok, next)) :
    itemTurn malloc ffc fn met = .inr next := by
  have busy : met.task ≠ [] := by
    intro done
    unfold processItemWith at processed
    rw [done] at processed
    cases processed
  unfold itemTurn
  rw [if_neg busy, processed]

theorem unread_lt (consumes : Consumes met next) : next.unread.length < met.unread.length := by
  obtain ⟨buf, moved, inside⟩ := consumes
  unfold unread
  rw [List.length_drop, List.length_drop, buf]
  rw [buf] at inside
  omega

theorem along_start (inside : r.pos ≤ r.buf.length) : Along r (startReply r) := by
  obtain ⟨-, -, -, pos, buf⟩ := startReply_fields r
  refine ⟨buf, Nat.le_of_eq pos.symm, ?_, fun done => absurd done (startReply_task_ne_nil r)⟩
  rw [pos, buf]
  exact inside

theorem Along.consumes (along : Along r met) (consumes : Consumes met next) : Along r next :=
  have moved := Nat.lt_of_le_of_lt along.pos consumes.moved
  ⟨consumes.buf.trans along.buf, Nat.le_of_lt moved, consumes.inside, fun _ => moved⟩

theorem consumes_of_forward (along : Along r met) (forward : Forward ffc fn met)
    (processed : processItemWith malloc ffc fn met = (.ok, next)) : Consumes met next := by
  have busy := (processItemWith_of_turn (turn_of_processItemWith processed)).1
  have moves := @moves_processItemWith _ _ _ malloc ffc fn met along.inside busy forward
  rw [processed] at moves
  exact moves

/-- As long as the items take bytes, the cursor goes forward and the buffer stays. -/
theorem along_of_items (inside : r.pos ≤ r.buf.length)
    (items : ∀ met next, Meets (itemTurn malloc ffc fn) (startReply r) met → Along r met →
      processItemWith malloc ffc fn met = (.ok, next) → Consumes met next)
    (meets : Meets (itemTurn malloc ffc fn) (startReply r) met) : Along r met := by
  refine meets.keeps (Along r) (along_start inside) fun met next meets along turn => ?_
  exact along.consumes (items met next meets along (processItemWith_of_turn turn).2)

theorem along_met (inside : r.pos ≤ r.buf.length) (forward : ForwardReply malloc ffc fn r)
    (meets : Meets (itemTurn malloc ffc fn) (startReply r) met) : Along r met :=
  along_of_items inside (fun met _ meets along processed =>
    consumes_of_forward along (forward met meets) processed) meets

theorem forwardReply_of_progress (inside : r.pos ≤ r.buf.length) (small : r.buf.length ≤ ssizeMax)
    (progress : ReplyProgress malloc ffc fn r) : ForwardReply malloc ffc fn r := by
  intro met meets
  have along := along_of_items inside (fun met next meets _ processed =>
    progress.items met next meets processed) meets
  exact forward_of_consumes along.inside (along.buf ▸ small) fun next processed =>
    progress.items met next meets processed

/-- The lines of a buffer that is short enough do not take the cursor back. -/
theorem forward_of_short (inside : r.pos ≤ r.buf.length) (short : r.buf.length < 2 ^ 31) :
    Forward ffc fn r := by
  intro type start offset found _ newline _
  have busy : r.task ≠ [] := by
    intro done
    unfold atType at found
    rw [done] at found
    cases found
  rcases @atType_cases _ _ _ (fun heap => (true, heap)) ffc fn r inside busy with
    ⟨missing, _⟩ | ⟨type', start', found', inItem, _⟩
  · cases missing.symm.trans found
  cases found'.symm.trans found
  obtain ⟨buf, pos, _, _⟩ := inItem
  have bound := seekNewline_bound newline
  unfold unread at bound
  rw [List.length_drop, buf] at bound
  have length := toInt32_bounds offset
  have step := toInt32_bounds (toInt32 offset + 2)
  unfold lineStep
  omega

theorem forwardReply_of_short (inside : r.pos ≤ r.buf.length) (short : r.buf.length < 2 ^ 31) :
    ForwardReply malloc ffc fn r := by
  intro met meets
  have along := along_of_items inside (fun met next _ along processed =>
    consumes_of_forward along (forward_of_short along.inside (along.buf ▸ short)) processed) meets
  exact forward_of_short along.inside (along.buf ▸ short)

/-- The measure of the loop is the number of unread bytes. -/
theorem replyProgress (inside : r.pos ≤ r.buf.length) (forward : ForwardReply malloc ffc fn r) :
    ReplyProgress malloc ffc fn r where
  items met next meets processed :=
    consumes_of_forward (along_met inside forward meets) (forward met meets) processed
  ends count enough := by
    refine unrolls_processItemsWith.ends (fun met => met.unread.length) ?_ count
      (Relation.ReflTransGen.refl : Meets (itemTurn malloc ffc fn) (startReply r) (startReply r)) ?_
    · intro met next meets turn
      have processed := (processItemWith_of_turn turn).2
      have along := along_met inside forward meets
      exact ⟨meets.tail turn, unread_lt (consumes_of_forward along (forward met meets) processed)⟩
    · rw [(startReply_fields r).1]
      exact enough

/-- A reply that is complete has taken at least one byte. -/
structure ReplyEnd (r last : ValkeyReader Heap Obj) : Prop where
  inside : last.pos ≤ last.buf.length
  complete : last.err = none → last.task = [] → Consumes r last

theorem replyEnd (inside : r.pos ≤ r.buf.length) (forward : ForwardReply malloc ffc fn r) :
    ReplyEnd r (processItemsWith malloc ffc fn (r.unread.length + 1) (startReply r)) := by
  have ends := (replyProgress inside forward).ends (r.unread.length + 1) (Nat.lt_succ_self _)
  refine ends.shows (fun met next meets turn => ?_) (fun met last meets stopped => ?_)
    (Relation.ReflTransGen.refl : Meets (itemTurn malloc ffc fn) (startReply r) (startReply r))
  · exact meets.tail turn
  · have along := along_met inside forward meets
    unfold itemTurn at stopped
    split at stopped
    · rename_i done
      cases stopped
      exact ⟨along.inside, fun _ _ => ⟨along.buf, along.done done, along.inside⟩⟩
    · rename_i busy
      split at stopped
      · cases stopped
      · rename_i failed
        cases stopped
        have moves := @moves_processItemWith _ _ _ malloc ffc fn met along.inside busy
          (forward met meets)
        rw [failed] at moves
        exact ⟨moves.1, fun alive done => absurd done (moves.2 alive)⟩

/-- A call of `valkeyReaderGetReply` leaves the cursor in the buffer, and one that gives a reply
has taken a byte. -/
theorem replyEnd_getReply (inside : r.pos ≤ r.buf.length)
    (forward : r.err = none → r.buf.length ≠ 0 → ForwardReply malloc ffc fn r) {status : Status}
    {reply : Option Obj}
    (got : valkeyReaderGetReplyWith malloc ffc fn r = (status, reply, next)) :
    next.pos ≤ next.buf.length ∧ (reply.isSome → Consumes r next) := by
  unfold valkeyReaderGetReplyWith at got
  split at got
  · cases got
    exact ⟨inside, fun impossible => (nomatch impossible)⟩
  rename_i alive
  split at got
  · cases got
    exact ⟨inside, fun impossible => (nomatch impossible)⟩
  rename_i bytes
  obtain ⟨within, complete⟩ := replyEnd inside (forward (not_not.mp alive) bytes)
  dsimp only at got
  split at got
  · cases got
    exact ⟨within, fun impossible => (nomatch impossible)⟩
  rename_i fine
  split at got
  · rename_i done
    cases got
    have consumes := complete (not_not.mp fine) done
    exact ⟨within, fun _ => ⟨consumes.buf, consumes.moved, consumes.inside⟩⟩
  · cases got
    exact ⟨within, fun impossible => (nomatch impossible)⟩

/-- The cursor of the reader after a call is in the buffer. -/
def Within (result : Status × ValkeyReader Heap Obj) : Prop :=
  result.2.pos ≤ result.2.buf.length

theorem within_getReadBuf (inside : r.pos ≤ r.buf.length) (minbytes : Nat) :
    Within (valkeyReaderGetReadBufWith malloc fn r minbytes) := by
  have plain : Within (valkeyReaderGetReadBuf fn r minbytes) := by
    unfold valkeyReaderGetReadBuf
    split
    · exact inside
    split
    · exact Nat.le_refl _
    split
    · split
      · exact Nat.le_refl _
      · exact Nat.zero_le _
    · exact inside
  unfold valkeyReaderGetReadBufWith
  split
  · rename_i same
    rw [same] at plain
    exact plain
  · rename_i same
    rw [same] at plain
    split
    · exact Nat.le_refl _
    · exact plain

theorem within_receiveWith (inside : r.pos ≤ r.buf.length) (chunk : Chunk) :
    Within (receiveWith malloc fn r chunk) := by
  have committed (minbytes : Nat) (bytes : Bytes) :
      Within (receiveWith malloc fn r (.read minbytes bytes)) := by
    have buf := @within_getReadBuf _ _ _ malloc fn r inside minbytes
    unfold receiveWith
    dsimp only
    split
    · rename_i same
      rw [same] at buf
      exact buf
    · rename_i last same
      rw [same] at buf
      have longer : last.pos ≤ last.buf.length + bytes.length :=
        Nat.le_trans buf (Nat.le_add_right _ _)
      unfold Within valkeyReaderCommitRead
      rw [List.length_append]
      exact longer
  cases chunk with
  | feed buf =>
      unfold receiveWith valkeyReaderFeedWith
      dsimp only
      split
      · exact inside
      split
      · exact committed _ _
      · exact inside
  | read minbytes bytes => exact committed _ _

end Loop

/-! ## Runs -/

section Runs

variable (malloc : Heap → Bool × Heap) (ffc : DoubleParser Double)
  (fn : ReplyObjectFunctions Heap Obj Double)

/-- The calls as a machine that does not stop. -/
def readerStep (state : Handling Heap Obj) (call : ReaderCall) : Except Empty (Handling Heap Obj) :=
  .ok (readerCall malloc ffc fn state call).2

/-- Something holds of the reader whenever a call goes into the loop over the items. -/
def AtReply (holds : ValkeyReader Heap Obj → Prop) (state : Handling Heap Obj) : ReaderCall → Prop
  | .receive _ => True
  | .getReply | .discardReply =>
      state.1.err = none → state.1.buf.length ≠ 0 → holds state.1

variable {malloc ffc fn} {state : Handling Heap Obj} {call : ReaderCall}

theorem inside_readerCall (inside : state.1.pos ≤ state.1.buf.length)
    (forward : AtReply (ForwardReply malloc ffc fn) state call) :
    (readerCall malloc ffc fn state call).2.1.pos ≤
      (readerCall malloc ffc fn state call).2.1.buf.length := by
  cases call with
  | receive chunk => exact within_receiveWith inside chunk
  | getReply => exact (replyEnd_getReply inside forward rfl).1
  | discardReply =>
      unfold readerCall
      dsimp only
      split
      · rename_i got
        exact (replyEnd_getReply inside forward got).1
      · rename_i got
        exact (replyEnd_getReply inside forward got).1

/-- The calls of a reader make progress if no line takes the cursor back, and where the buffer fits
in memory, only then. -/
theorem progress_iff_forward (calls : List ReaderCall) (inside : state.1.pos ≤ state.1.buf.length) :
    (Always (readerStep malloc ffc fn) (AtReply (ForwardReply malloc ffc fn)) state calls →
        Always (readerStep malloc ffc fn) (AtReply (ReplyProgress malloc ffc fn)) state calls) ∧
      (Always (readerStep malloc ffc fn) (AtReply fun r => r.buf.length ≤ ssizeMax) state calls →
        Always (readerStep malloc ffc fn) (AtReply (ReplyProgress malloc ffc fn)) state calls →
          Always (readerStep malloc ffc fn) (AtReply (ForwardReply malloc ffc fn)) state
            calls) := by
  have preserves (state : Handling Heap Obj) (call : ReaderCall) (next : Handling Heap Obj)
      (inside : state.1.pos ≤ state.1.buf.length)
      (forward : AtReply (ForwardReply malloc ffc fn) state call)
      (taken : readerStep malloc ffc fn state call = .ok next) :
      next.1.pos ≤ next.1.buf.length := by
    cases taken
    exact inside_readerCall inside forward
  have shows (state : Handling Heap Obj) (call : ReaderCall)
      (inside : state.1.pos ≤ state.1.buf.length)
      (forward : AtReply (ForwardReply malloc ffc fn) state call) :
      AtReply (ReplyProgress malloc ffc fn) state call := by
    cases call with
    | receive chunk => trivial
    | getReply => exact fun alive bytes => replyProgress inside (forward alive bytes)
    | discardReply => exact fun alive bytes => replyProgress inside (forward alive bytes)
  have back (state : Handling Heap Obj) (call : ReaderCall)
      (inside : state.1.pos ≤ state.1.buf.length)
      (both : AtReply (fun r => r.buf.length ≤ ssizeMax) state call ∧
        AtReply (ReplyProgress malloc ffc fn) state call) :
      AtReply (ForwardReply malloc ffc fn) state call := by
    obtain ⟨small, progress⟩ := both
    cases call with
    | receive chunk => trivial
    | getReply =>
        exact fun alive bytes => forwardReply_of_progress inside (small alive bytes)
          (progress alive bytes)
    | discardReply =>
        exact fun alive bytes => forwardReply_of_progress inside (small alive bytes)
          (progress alive bytes)
  refine ⟨fun forward => (Always.invariant _ shows preserves calls inside forward).1,
    fun small progress => ?_⟩
  exact (Always.invariant _ back (fun state call next inside both taken =>
    preserves state call next inside (back state call inside both) taken) calls inside
      (Always.and _ small progress)).1

end Runs

/-! ## The stack -/

/-- The current task is the last child of the one below it. -/
def LevelDone : List (ReadTask Obj) → Prop
  | cur :: prv :: _ => cur.idx = prv.elements - 1
  | _ => False

/-- Some levels that are complete are popped, and the level below them goes on, or the reply is
complete. -/
def Pops (task result : List (ReadTask Obj)) : Prop :=
  ∃ count ≤ task.length, (∀ i < count, LevelDone (task.drop i)) ∧ ¬LevelDone (task.drop count) ∧
    result.tail = (task.drop count).tail ∧ (result = [] ↔ (task.drop count).length ≤ 1)

theorem pops_moveToNextTask (task : List (ReadTask Obj)) : Pops task (moveToNextTask task) := by
  induction task with
  | nil => exact ⟨0, Nat.le_refl _, nofun, id, rfl, by simp [moveToNextTask]⟩
  | cons cur below induction =>
      cases below with
      | nil => exact ⟨0, Nat.zero_le _, nofun, id, rfl, by simp [moveToNextTask]⟩
      | cons prv below =>
          unfold moveToNextTask
          split
          · rename_i done
            obtain ⟨count, fits, popped, stops, same, empty⟩ := induction
            refine ⟨count + 1, Nat.succ_le_succ fits, ?_, stops, same, empty⟩
            intro i earlier
            cases i with
            | zero => exact done
            | succ i => exact popped i (Nat.lt_of_succ_lt_succ earlier)
          · rename_i goesOn
            exact ⟨0, Nat.zero_le _, nofun, goesOn, rfl, by simp⟩

/-! ## Enough memory -/

section Plenty

variable (ffc : DoubleParser Double) (fn : ReplyObjectFunctions Heap Obj Double)

/-- Every allocation succeeds. -/
def granted (heap : Heap) : Bool × Heap := (true, heap)

theorem growTasks_granted (count : Nat) (r : ValkeyReader Heap Obj) :
    growTasks granted fn count r = (.ok, { r with tasks := r.tasks + count }) := by
  induction count generalizing r with
  | zero => rfl
  | succ count induction =>
      change growTasks granted fn count { r with tasks := r.tasks + 1 } = _
      rw [induction, Nat.add_assoc, Nat.add_comm 1]

theorem processAggregateItemWith_granted {r : ValkeyReader Heap Obj} (busy : r.task ≠ []) :
    processAggregateItemWith granted fn r = processAggregateItem fn r := by
  obtain ⟨cur, rest, task⟩ := List.exists_cons_of_ne_nil busy
  unfold processAggregateItemWith
  split
  · rename_i full
    have grown : growForChild r = valkeyReaderGrow r := if_pos full
    have grew : valkeyReaderGrowWith granted fn r = (.ok, valkeyReaderGrow r) :=
      growTasks_granted fn readerStackSize r
    rw [← processAggregateItem_growForChild fn task, grown, grew]
  · rfl

theorem processItemWith_granted (r : ValkeyReader Heap Obj) :
    processItemWith granted ffc fn r = processItem ffc fn r := by
  have typedItem {start : ValkeyReader Heap Obj} (busy : start.task ≠ []) (type : ReplyType) :
      processTypedItemWith granted ffc fn start type = processTypedItem ffc fn start type := by
    cases type with
    | array => exact processAggregateItemWith_granted fn busy
    | map => exact processAggregateItemWith_granted fn busy
    | attr => exact processAggregateItemWith_granted fn busy
    | set => exact processAggregateItemWith_granted fn busy
    | push => exact processAggregateItemWith_granted fn busy
    | string | verb | error | status | integer | double | nil | bool | bignum => rfl
  unfold processItemWith processItem
  cases task : r.task with
  | nil => rfl
  | cons cur rest =>
      dsimp only
      cases cur.type with
      | some type => exact typedItem (task ▸ List.cons_ne_nil _ _) type
      | none =>
          cases readBytes r 1 with
          | none => rfl
          | some read =>
              obtain ⟨p, next⟩ := read
              dsimp only
              cases typeOfByte (p.headD 0) with
              | none => rfl
              | some type => exact typedItem (List.cons_ne_nil _ _) type

theorem processItemsWith_granted (count : Nat) (r : ValkeyReader Heap Obj) :
    processItemsWith granted ffc fn count r = processItems ffc fn count r := by
  induction count generalizing r with
  | zero => rfl
  | succ count induction =>
      unfold processItemsWith processItems
      rw [processItemWith_granted]
      generalize processItem ffc fn r = result
      obtain ⟨status, next⟩ := result
      cases status with
      | ok =>
          dsimp only
          rw [induction]
      | err => rfl

theorem valkeyReaderGetReplyWith_granted (r : ValkeyReader Heap Obj) :
    valkeyReaderGetReplyWith granted ffc fn r = valkeyReaderGetReply ffc fn r := by
  unfold valkeyReaderGetReplyWith valkeyReaderGetReply
  rw [processItemsWith_granted]

end Plenty

end Libvalkey
