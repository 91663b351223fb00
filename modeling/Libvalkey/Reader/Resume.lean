import Libvalkey.Reader.Process

/-! # Resuming an item

An item is processed as a function of the unread bytes. Two readers are aligned
when they differ only in where these bytes lie in the buffer and in bytes that
one of them has received after them. On aligned readers an item that does not
wait for bytes takes the same course, and one that waits can be resumed. -/

namespace Libvalkey

variable {Heap Obj Double : Type}

namespace ValkeyReader

/-- The reader without its buffer. -/
def park (r : ValkeyReader Heap Obj) : ValkeyReader Heap Obj :=
  { r with buf := [], pos := 0 }

/-- A reader with the unread bytes `input`. -/
def load (r : ValkeyReader Heap Obj) (input : Bytes) : ValkeyReader Heap Obj :=
  { r with buf := input, pos := 0 }

@[simp] theorem unread_load (r : ValkeyReader Heap Obj) (input : Bytes) :
    (r.load input).unread = input := by
  simp [load, unread]

@[simp] theorem park_load (r : ValkeyReader Heap Obj) (input : Bytes) :
    (r.load input).park = r.park := rfl

@[simp] theorem park_park (r : ValkeyReader Heap Obj) : r.park.park = r.park := rfl

@[simp] theorem load_park (r : ValkeyReader Heap Obj) (input : Bytes) :
    r.park.load input = r.load input := rfl

/-- `later` is `r` with `more` received after the unread bytes. -/
structure Aligned (more : Bytes) (r later : ValkeyReader Heap Obj) : Prop where
  park : later.park = r.park
  unread : later.unread = r.unread ++ more
  inside : r.pos ≤ r.buf.length
  laterInside : later.pos ≤ later.buf.length

namespace Aligned

variable {more : Bytes} {r later : ValkeyReader Heap Obj}

theorem eq_with (aligned : Aligned more r later) :
    later = { r with buf := later.buf, pos := later.pos } := by
  obtain ⟨err, errstr, buf, pos, maxelements, task, tasks, reply, heap, overflow⟩ := r
  obtain ⟨err', errstr', buf', pos', maxelements', task', tasks', reply', heap', overflow'⟩ :=
    later
  have same := aligned.park
  simp only [ValkeyReader.park, ValkeyReader.mk.injEq] at same
  simp [same]

theorem err_eq (aligned : Aligned more r later) : later.err = r.err := by
  rw [aligned.eq_with]

theorem task_eq (aligned : Aligned more r later) : later.task = r.task := by
  rw [aligned.eq_with]

theorem tasks_eq (aligned : Aligned more r later) : later.tasks = r.tasks := by
  rw [aligned.eq_with]

theorem reply_eq (aligned : Aligned more r later) : later.reply = r.reply := by
  rw [aligned.eq_with]

theorem heap_eq (aligned : Aligned more r later) : later.heap = r.heap := by
  rw [aligned.eq_with]

theorem maxelements_eq (aligned : Aligned more r later) :
    later.maxelements = r.maxelements := by
  rw [aligned.eq_with]

theorem ridx_eq (aligned : Aligned more r later) : later.ridx = r.ridx := by
  simp [ridx, aligned.task_eq]

theorem unread_nil (aligned : Aligned [] r later) : later.unread = r.unread := by
  rw [aligned.unread, List.append_nil]

/-- The unread bytes of the later reader start with those of the earlier one. -/
theorem take_unread (aligned : Aligned more r later) {count : Nat}
    (available : count ≤ r.unread.length) :
    later.unread.take count = r.unread.take count := by
  rw [aligned.unread, List.take_append_of_le_length available]

/-- The same change of the other fields keeps readers aligned. -/
theorem map (aligned : Aligned more r later)
    (change : ValkeyReader Heap Obj → ValkeyReader Heap Obj)
    (changePark : ∀ s, (change s).park = (change s.park).park)
    (changeBuf : ∀ s, (change s).buf = s.buf) (changePos : ∀ s, (change s).pos = s.pos) :
    Aligned more (change r) (change later) where
  park := by rw [changePark, changePark r, aligned.park]
  unread := by
    simp only [ValkeyReader.unread, changeBuf, changePos]
    exact aligned.unread
  inside := by simpa only [changeBuf, changePos] using aligned.inside
  laterInside := by simpa only [changeBuf, changePos] using aligned.laterInside

/-- Both readers can step over unread bytes of the earlier one. -/
theorem advance (aligned : Aligned more r later) {count : Nat}
    (available : count ≤ r.unread.length) :
    Aligned more { r with pos := r.pos + count } { later with pos := later.pos + count } where
  park := aligned.park
  unread := by
    have unread := aligned.unread
    simp only [ValkeyReader.unread] at unread available ⊢
    rw [← List.drop_drop, unread, ← List.drop_drop, List.drop_append_of_le_length available]
  inside := by
    have inside := aligned.inside
    simp only [ValkeyReader.unread, List.length_drop] at available
    show r.pos + count ≤ r.buf.length
    omega
  laterInside := by
    have laterInside := aligned.laterInside
    have lengths := congrArg List.length aligned.unread
    simp only [ValkeyReader.unread, List.length_drop, List.length_append] at available lengths
    show later.pos + count ≤ later.buf.length
    omega

end Aligned

/-- A reader is aligned with the one that has just its unread bytes. -/
theorem aligned_load {r : ValkeyReader Heap Obj} (inside : r.pos ≤ r.buf.length)
    (more : Bytes) : Aligned more r (r.load (r.unread ++ more)) where
  park := rfl
  unread := by simp
  inside := inside
  laterInside := by simp [load]

end ValkeyReader

open ValkeyReader

/-- The two results of processing an item that does not wait for bytes. -/
inductive Continues (more : Bytes) (r : ValkeyReader Heap Obj) :
    Status × ValkeyReader Heap Obj → Status × ValkeyReader Heap Obj → Prop
  | ok {next nextLater : ValkeyReader Heap Obj} (aligned : Aligned more next nextLater)
      (consumed : next.unread.length < r.unread.length) (alive : next.err = r.err) :
      Continues more r (.ok, next) (.ok, nextLater)
  | failed {next : ValkeyReader Heap Obj} (dead : next.err ≠ none) :
      Continues more r (.err, next) (.err, next)

variable {more : Bytes} {r later : ValkeyReader Heap Obj}

/-! ## Errors and completion -/

theorem setError_eq (fn : ReplyObjectFunctions Heap Obj Double)
    (aligned : Aligned more r later) (type : ErrorType) (str : String) :
    valkeyReaderSetError fn later type str = valkeyReaderSetError fn r type str := by
  rw [aligned.eq_with]
  rfl

theorem setError_err (fn : ReplyObjectFunctions Heap Obj Double) (r : ValkeyReader Heap Obj)
    (type : ErrorType) (str : String) : (valkeyReaderSetError fn r type str).err ≠ none := by
  simp [valkeyReaderSetError]

theorem continues_setError (fn : ReplyObjectFunctions Heap Obj Double)
    (start : ValkeyReader Heap Obj) (aligned : Aligned more r later) (type : ErrorType)
    (str : String) :
    Continues more start (.err, valkeyReaderSetError fn r type str)
      (.err, valkeyReaderSetError fn later type str) := by
  rw [setError_eq fn aligned]
  exact .failed (setError_err fn r type str)

theorem aligned_heap (aligned : Aligned more r later) (heap : Heap) :
    Aligned more { r with heap := heap } { later with heap := heap } :=
  aligned.map (fun s => { s with heap := heap }) (fun _ => rfl) (fun _ => rfl) (fun _ => rfl)

theorem aligned_completeItem (aligned : Aligned more r later) (obj : Obj) :
    Aligned more (completeItem r obj) (completeItem later obj) :=
  aligned.map (completeItem · obj) (fun _ => rfl) (fun _ => rfl) (fun _ => rfl)

/-- A created object completes the item, a failed creation ends the reader. -/
theorem continues_acceptObject (fn : ReplyObjectFunctions Heap Obj Double)
    {start : ValkeyReader Heap Obj} (aligned : Aligned more r later)
    (consumed : r.unread.length < start.unread.length) (alive : r.err = start.err)
    (created : Option Obj × Heap) :
    Continues more start (acceptObject fn r created) (acceptObject fn later created) := by
  obtain ⟨obj, heap⟩ := created
  cases obj with
  | none => exact continues_setError fn start (aligned_heap aligned heap) .oom _
  | some obj => exact .ok (aligned_completeItem (aligned_heap aligned heap) obj) consumed alive

/-! ## Lines -/

theorem toInt32_of_small {value : Nat} (small : value < 2 ^ 31) :
    toInt32 (value : Int) = value := by
  unfold toInt32
  rw [Int.bmod_eq_of_le] <;> omega

theorem toSize_of_small {value : Nat} (small : value < 2 ^ 31) : toSize (value : Int) = value := by
  unfold toSize
  omega

/-- A line that is short enough for an `int` is read as it is. -/
theorem readLine_of_short {offset : Nat} (found : seekNewline r.unread = some offset)
    (short : offset + 2 < 2 ^ 31) :
    readLine r = some (r.unread, (offset : Int), { r with pos := r.pos + (offset + 2) }) := by
  have whole : toInt32 ((offset : Int) + 2) = ((offset + 2 : Nat) : Int) := by
    have cast : ((offset : Int) + 2) = ((offset + 2 : Nat) : Int) := by omega
    rw [cast, toInt32_of_small short]
  simp only [readLine, found, toInt32_of_small (show offset < 2 ^ 31 by omega), whole]
  have forward : (0 : Int) ≤ (r.pos : Int) + ((offset + 2 : Nat) : Int) := by omega
  have moved : moveCursor r.pos ((offset + 2 : Nat) : Int) = r.pos + (offset + 2) := by
    rw [moveCursor, if_pos forward]
    omega
  have noOverflow : decide ((2 : Int) ^ 31 ≤ (offset : Int) + 2) = false := by
    rw [decide_eq_false_iff_not]
    omega
  rw [moved, noOverflow, Bool.or_false]

theorem readLine_of_missing (missing : seekNewline r.unread = none) : readLine r = none := by
  simp [readLine, missing]

/-- A later reader finds the same newline. -/
theorem seekNewline_later (aligned : Aligned more r later) {offset : Nat}
    (found : seekNewline r.unread = some offset) : seekNewline later.unread = some offset := by
  rw [aligned.unread]
  exact seekNewline_append more found

/-- A double depends on the bytes of its text only. -/
theorem doubleValue_append (ffc : DoubleParser Double) {p : Bytes} {offset : Nat} (more : Bytes)
    (available : offset ≤ p.length) :
    doubleValue ffc (p ++ more) offset = doubleValue ffc p offset := by
  have cut : ∀ length, (offset : Int) = (length : Nat) →
      (p ++ more).take length = p.take length := by
    intro length equal
    exact List.take_append_of_le_length (by omega)
  by_cases three : (offset : Int) = 3
  · simp [doubleValue, three, cut 3 three]
  · by_cases four : (offset : Int) = 4
    · simp [doubleValue, four, cut 4 four]
    · simp [doubleValue, three, four, List.take_append_of_le_length available]

/-- The object of a line depends on the bytes before its newline only. -/
theorem lineObject_append (ffc : DoubleParser Double)
    (fn : ReplyObjectFunctions Heap Obj Double) (heap : Heap) (cur : ReadTask Obj)
    (parent : Option (ReadTask Obj)) {p : Bytes} {offset : Nat} (more : Bytes)
    (available : offset + 2 ≤ p.length) (short : offset + 2 < 2 ^ 31) :
    lineObject ffc fn heap cur parent (p ++ more) offset =
      lineObject ffc fn heap cur parent p offset := by
  have size := toSize_of_small (show offset < 2 ^ 31 by omega)
  have text : (p ++ more).take offset = p.take offset :=
    List.take_append_of_le_length (by omega)
  have head : (p ++ more).headD 0 = p.headD 0 := by
    cases p with
    | nil => simp at available
    | cons first rest => rfl
  have double := doubleValue_append ffc more (show offset ≤ p.length by omega)
  simp only [lineObject, size, Int.toNat_natCast, text, head, double]

/-- Stepping over a line keeps readers aligned and takes bytes. -/
theorem aligned_line (aligned : Aligned more r later) {offset : Nat}
    (found : seekNewline r.unread = some offset) :
    Aligned more { r with pos := r.pos + (offset + 2) }
      { later with pos := later.pos + (offset + 2) } :=
  aligned.advance (seekNewline_bound found)

theorem unread_advance_lt {count : Nat} (positive : 0 < count)
    (available : count ≤ r.unread.length) :
    ({ r with pos := r.pos + count } : ValkeyReader Heap Obj).unread.length <
      r.unread.length := by
  simp only [unread, List.length_drop] at available ⊢
  omega

theorem processLineItem_of_missing (ffc : DoubleParser Double)
    (fn : ReplyObjectFunctions Heap Obj Double) (missing : seekNewline r.unread = none) :
    processLineItem ffc fn r = (.err, r) := by
  unfold processLineItem
  cases r.task with
  | nil => rfl
  | cons cur rest => simp [readLine_of_missing missing]

theorem processLineItem_of_line (ffc : DoubleParser Double)
    (fn : ReplyObjectFunctions Heap Obj Double) {cur : ReadTask Obj}
    {rest : List (ReadTask Obj)} (task : r.task = cur :: rest) {p : Bytes} {len : Int}
    {next : ValkeyReader Heap Obj} (line : readLine r = some (p, len, next)) :
    processLineItem ffc fn r =
      match lineObject ffc fn next.heap cur rest.head? p len with
      | .error message => (.err, valkeyReaderSetError fn next .protocol message)
      | .ok created => acceptObject fn next created := by
  unfold processLineItem
  rw [task]
  generalize readLine r = found at line ⊢
  subst line
  rfl

theorem processLineItem_continues (ffc : DoubleParser Double)
    (fn : ReplyObjectFunctions Heap Obj Double) (aligned : Aligned more r later)
    {cur : ReadTask Obj} {rest : List (ReadTask Obj)} (task : r.task = cur :: rest)
    {offset : Nat} (found : seekNewline r.unread = some offset) (short : offset + 2 < 2 ^ 31) :
    Continues more r (processLineItem ffc fn r) (processLineItem ffc fn later) := by
  have laterTask : later.task = cur :: rest := by rw [aligned.task_eq, task]
  have line := aligned_line aligned found
  have bound := seekNewline_bound found
  have consumed := unread_advance_lt (show 0 < offset + 2 by omega) bound
  have sameObject : lineObject ffc fn later.heap cur rest.head? later.unread offset =
      lineObject ffc fn r.heap cur rest.head? r.unread offset := by
    rw [aligned.heap_eq, aligned.unread]
    exact lineObject_append ffc fn r.heap cur rest.head? more bound short
  rw [processLineItem_of_line ffc fn task (readLine_of_short found short),
    processLineItem_of_line ffc fn laterTask
      (readLine_of_short (seekNewline_later aligned found) short)]
  dsimp only
  rw [sameObject]
  cases lineObject ffc fn r.heap cur rest.head? r.unread offset with
  | error message => exact continues_setError fn r line .protocol message
  | ok created => exact continues_acceptObject fn line consumed rfl created

/-! ## Bulk items -/

theorem processBulkItem_of_missing (fn : ReplyObjectFunctions Heap Obj Double)
    (missing : seekNewline r.unread = none) : processBulkItem fn r = (.err, r) := by
  unfold processBulkItem
  cases r.task with
  | nil => rfl
  | cons cur rest => simp [missing]

/-- The payload and its two trailing bytes have not all arrived. -/
def BulkWaits (r : ValkeyReader Heap Obj) (offset : Nat) : Prop :=
  ∃ len : Int, string2ll (r.unread.take offset) = some len ∧ 0 ≤ len ∧
    r.unread.length < offset + 2 + len.toNat + 2

theorem processBulkItem_of_waits (fn : ReplyObjectFunctions Heap Obj Double)
    (inside : r.pos ≤ r.buf.length) {offset : Nat}
    (found : seekNewline r.unread = some offset) (waits : BulkWaits r offset) :
    processBulkItem fn r = (.err, r) := by
  obtain ⟨len, parsed, nonnegative, missing⟩ := waits
  unfold processBulkItem
  cases r.task with
  | nil => rfl
  | cons cur rest =>
      have inRange : ¬len < -1 := by omega
      have notNil : len ≠ -1 := by omega
      have tooShort : ¬r.pos + (offset + 2 + len.toNat + 2) ≤ r.buf.length := by
        simp only [unread, List.length_drop] at missing
        omega
      simp [found, parsed, inRange, processBulkPayload, notNil, tooShort]

theorem processBulkPayload_continues (fn : ReplyObjectFunctions Heap Obj Double)
    (aligned : Aligned more r later) (cur : ReadTask Obj) (parent : Option (ReadTask Obj))
    {offset : Nat} (bound : offset + 2 ≤ r.unread.length) (len : Int)
    (arrived : len ≠ -1 → offset + 2 + len.toNat + 2 ≤ r.unread.length) :
    Continues more r (processBulkPayload fn r cur parent offset len)
      (processBulkPayload fn later cur parent offset len) := by
  unfold processBulkPayload
  rw [aligned.heap_eq]
  by_cases isNil : len = -1
  · rw [if_pos isNil, if_pos isNil]
    exact continues_acceptObject fn (aligned.advance bound)
      (unread_advance_lt (by omega) bound) rfl _
  have all := arrived isNil
  have payload := aligned.advance all
  have fits : r.pos + (offset + 2 + len.toNat + 2) ≤ r.buf.length := payload.inside
  have laterFits : later.pos + (offset + 2 + len.toNat + 2) ≤ later.buf.length :=
    payload.laterInside
  have samePayload : (later.unread.drop (offset + 2)).take len.toNat =
      (r.unread.drop (offset + 2)).take len.toNat := by
    rw [aligned.unread, List.drop_append_of_le_length (by omega),
      List.take_append_of_le_length (by rw [List.length_drop]; omega)]
  -- The separator is looked at only when the payload is long enough to hold it.
  have sameCheck : (len < 4 ∨ later.unread[offset + 5]? ≠ some ':'.toUInt8) ↔
      (len < 4 ∨ r.unread[offset + 5]? ≠ some ':'.toUInt8) := by
    by_cases large : 4 ≤ len
    · rw [aligned.unread, List.getElem?_append_left (by omega)]
    · simp [show len < 4 by omega]
  simp only [if_neg isNil, if_pos fits, if_pos laterFits, samePayload, sameCheck]
  split
  · exact continues_setError fn r aligned .protocol _
  · exact continues_acceptObject fn payload (unread_advance_lt (by omega) all) rfl _

theorem processBulkItem_continues (fn : ReplyObjectFunctions Heap Obj Double)
    (aligned : Aligned more r later) {cur : ReadTask Obj} {rest : List (ReadTask Obj)}
    (task : r.task = cur :: rest) {offset : Nat} (found : seekNewline r.unread = some offset)
    (arrived : ¬BulkWaits r offset) :
    Continues more r (processBulkItem fn r) (processBulkItem fn later) := by
  have laterTask : later.task = cur :: rest := by rw [aligned.task_eq, task]
  have bound := seekNewline_bound found
  have sameText : later.unread.take offset = r.unread.take offset :=
    aligned.take_unread (by omega)
  simp only [processBulkItem, task, laterTask, found, seekNewline_later aligned found, sameText]
  cases parsed : string2ll (r.unread.take offset) with
  | none => exact continues_setError fn r aligned .protocol _
  | some len =>
      by_cases outOfRange : len < -1
      · simp only [if_pos outOfRange]
        exact continues_setError fn r aligned .protocol _
      · simp only [if_neg outOfRange]
        apply processBulkPayload_continues fn aligned cur rest.head? bound len
        intro notNil
        by_contra missing
        exact arrived ⟨len, parsed, by omega, by omega⟩

/-! ## Aggregates -/

theorem growForChild_idem (r : ValkeyReader Heap Obj) :
    growForChild (growForChild r) = growForChild r := by
  unfold growForChild
  split
  · rename_i full
    have notFull : ¬(valkeyReaderGrow r).ridx = (valkeyReaderGrow r).tasks - 1 := by
      simp only [valkeyReaderGrow, ridx, readerStackSize] at full ⊢
      omega
    rw [if_neg notFull]
  · rfl

theorem growForChild_fields (r : ValkeyReader Heap Obj) :
    (growForChild r).unread = r.unread ∧ (growForChild r).err = r.err ∧
      (growForChild r).task = r.task ∧ (growForChild r).pos = r.pos ∧
      (growForChild r).buf = r.buf := by
  unfold growForChild valkeyReaderGrow
  split <;> simp [unread]

theorem aligned_growForChild (aligned : Aligned more r later) :
    Aligned more (growForChild r) (growForChild later) := by
  unfold growForChild
  rw [aligned.ridx_eq, aligned.tasks_eq]
  split
  · exact aligned.map valkeyReaderGrow (fun _ => rfl) (fun _ => rfl) (fun _ => rfl)
  · exact aligned

theorem processAggregateItem_of_missing (fn : ReplyObjectFunctions Heap Obj Double)
    {cur : ReadTask Obj} {rest : List (ReadTask Obj)} (task : r.task = cur :: rest)
    (missing : seekNewline r.unread = none) :
    processAggregateItem fn r = (.err, growForChild r) := by
  unfold processAggregateItem
  rw [task]
  have grownMissing : seekNewline (growForChild r).unread = none := by
    rw [(growForChild_fields r).1, missing]
  simp only [readLine_of_missing grownMissing]

theorem processAggregateItem_of_line (fn : ReplyObjectFunctions Heap Obj Double)
    {cur : ReadTask Obj} {rest : List (ReadTask Obj)} (task : r.task = cur :: rest)
    {p : Bytes} {len : Int} {next : ValkeyReader Heap Obj}
    (line : readLine (growForChild r) = some (p, len, next)) :
    processAggregateItem fn r =
      match string2ll (p.take (toSize len)) with
      | none => (.err, valkeyReaderSetError fn next .protocol "Bad multi-bulk length")
      | some elements => processAggregateHeader fn next cur rest elements := by
  unfold processAggregateItem
  rw [task]
  generalize readLine (growForChild r) = found at line ⊢
  subst line
  rfl

/-- Calling again after the stack has grown makes no difference. -/
theorem processAggregateItem_growForChild (fn : ReplyObjectFunctions Heap Obj Double)
    {cur : ReadTask Obj} {rest : List (ReadTask Obj)} (task : r.task = cur :: rest) :
    processAggregateItem fn (growForChild r) = processAggregateItem fn r := by
  have grownTask : (growForChild r).task = cur :: rest := by
    rw [(growForChild_fields r).2.2.1, task]
  unfold processAggregateItem
  rw [task, grownTask, growForChild_idem]

theorem processAggregateHeader_continues (fn : ReplyObjectFunctions Heap Obj Double)
    {start : ValkeyReader Heap Obj} (aligned : Aligned more r later)
    (consumed : r.unread.length < start.unread.length) (alive : r.err = start.err)
    (cur : ReadTask Obj) (rest : List (ReadTask Obj)) (elements : Int) :
    Continues more start (processAggregateHeader fn r cur rest elements)
      (processAggregateHeader fn later cur rest elements) := by
  have sameRange : (elements < -1 ∨ (later.maxelements > 0 ∧ elements > later.maxelements)) ↔
      (elements < -1 ∨ (r.maxelements > 0 ∧ elements > r.maxelements)) := by
    rw [aligned.maxelements_eq]
  unfold processAggregateHeader
  simp only [sameRange]
  rw [aligned.heap_eq]
  split
  · exact continues_setError fn start aligned .protocol _
  split
  · exact continues_acceptObject fn aligned consumed alive _
  split
  · exact continues_setError fn start aligned .protocol _
  split
  · cases fn.createArray r.heap cur rest.head? (elements * childrenPerElement cur.type).toNat with
    | mk obj heap =>
        cases obj with
        | none => exact continues_setError fn start (aligned_heap aligned heap) .oom _
        | some obj =>
            have opened := (aligned_heap aligned heap).map
              (fun s => openAggregate s cur rest (elements * childrenPerElement cur.type) obj)
              (fun _ => rfl) (fun _ => rfl) (fun _ => rfl)
            exact .ok opened consumed alive
  · exact continues_acceptObject fn aligned consumed alive _

theorem processAggregateItem_continues (fn : ReplyObjectFunctions Heap Obj Double)
    (aligned : Aligned more r later) {cur : ReadTask Obj} {rest : List (ReadTask Obj)}
    (task : r.task = cur :: rest) {offset : Nat} (found : seekNewline r.unread = some offset)
    (short : offset + 2 < 2 ^ 31) :
    Continues more r (processAggregateItem fn r) (processAggregateItem fn later) := by
  have laterTask : later.task = cur :: rest := by rw [aligned.task_eq, task]
  have grown := aligned_growForChild aligned
  obtain ⟨grownUnread, grownErr, _, _, _⟩ := growForChild_fields r
  have grownFound : seekNewline (growForChild r).unread = some offset := by
    rw [grownUnread, found]
  have line := aligned_line grown grownFound
  have bound := seekNewline_bound grownFound
  have consumed := unread_advance_lt (show 0 < offset + 2 by omega) bound
  rw [grownUnread] at consumed
  have size := toSize_of_small (show offset < 2 ^ 31 by omega)
  have sameText : (growForChild later).unread.take offset =
      (growForChild r).unread.take offset := grown.take_unread (by omega)
  rw [processAggregateItem_of_line fn task (readLine_of_short grownFound short),
    processAggregateItem_of_line fn laterTask
      (readLine_of_short (seekNewline_later grown grownFound) short), size, sameText]
  cases string2ll ((growForChild r).unread.take offset) with
  | none => exact continues_setError fn r line .protocol _
  | some elements =>
      exact processAggregateHeader_continues fn line consumed grownErr cur rest elements

end Libvalkey
