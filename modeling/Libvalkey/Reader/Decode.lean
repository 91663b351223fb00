import Libvalkey.Reader.Items
import Libvalkey.Reply.Objects
import Libvalkey.Resp.Grammar

/-! # Decoding frames

Reading the frame of a tree with the default functions takes exactly the bytes
of the frame and lays the tree out in the heap, the parents before their children. -/

namespace Libvalkey

open ValkeyReader

variable {Double : Type}

/-! ## Trees in the heap -/

/-- The object for the root of a tree whose children are at the given addresses. -/
def ReplyTree.object (ffc : DoubleParser Double) (addresses : List (Option Nat)) :
    ReplyTree → ReplyObject Double
  | .status text =>
      { createReplyObject .status with str := some text, len := text.length }
  | .error text => { createReplyObject .error with str := some text, len := text.length }
  | .integer value => { createReplyObject .integer with integer := value }
  | .double text =>
      { (createReplyObject .double : ReplyObject Double) with
        dval := doubleValue ffc text text.length
        str := some text
        len := text.length }
  | .bool value => { createReplyObject .bool with integer := if value then 1 else 0 }
  | .nil _ => createReplyObject .nil
  | .bignum text => { createReplyObject .bignum with str := some text, len := text.length }
  | .string text => { createReplyObject .string with str := some text, len := text.length }
  | .verb vtype text =>
      { createReplyObject .verb with vtype := vtype, str := some text, len := text.length }
  | .aggregate kind children =>
      { createReplyObject kind.type with
        elements := children.length
        element := addresses }

mutual
/-- The number of objects of a tree. -/
def ReplyTree.size : ReplyTree → Nat
  | .aggregate _ children => ReplyTree.sizeAll children + 1
  | _ => 1

def ReplyTree.sizeAll : List ReplyTree → Nat
  | [] => 0
  | tree :: rest => tree.size + ReplyTree.sizeAll rest
end

/-- The addresses of trees that are laid out one after the other. -/
def ReplyTree.addresses (base : Nat) : List ReplyTree → List (Option Nat)
  | [] => []
  | tree :: rest => some base :: ReplyTree.addresses (base + tree.size) rest

mutual
/-- The objects of a tree whose root is at `base`. -/
def ReplyTree.layout (ffc : DoubleParser Double) (base : Nat) :
    ReplyTree → ReplyHeap Double
  | .aggregate kind children =>
      some ((ReplyTree.aggregate kind children).object ffc
        (ReplyTree.addresses (base + 1) children)) ::
        ReplyTree.layoutAll ffc (base + 1) children
  | tree => [some (tree.object ffc [])]

def ReplyTree.layoutAll (ffc : DoubleParser Double) (base : Nat) :
    List ReplyTree → ReplyHeap Double
  | [] => []
  | tree :: rest => tree.layout ffc base ++ ReplyTree.layoutAll ffc (base + tree.size) rest
end

section Layout

variable (ffc : DoubleParser Double)

mutual
theorem ReplyTree.length_layout (base : Nat) (tree : ReplyTree) :
    (tree.layout ffc base).length = tree.size := by
  cases tree with
  | aggregate kind children =>
      simp only [ReplyTree.layout, ReplyTree.size, List.length_cons]
      rw [ReplyTree.length_layoutAll (base + 1) children]
  | _ => rfl

theorem ReplyTree.length_layoutAll (base : Nat) (trees : List ReplyTree) :
    (ReplyTree.layoutAll ffc base trees).length = ReplyTree.sizeAll trees := by
  cases trees with
  | nil => rfl
  | cons tree rest =>
      simp only [ReplyTree.layoutAll, ReplyTree.sizeAll, List.length_append]
      rw [ReplyTree.length_layout base tree, ReplyTree.length_layoutAll _ rest]
end

end Layout

/-! ## Slots of a parent -/

section Slots

/-- The parent has its object in the heap. -/
def Attached (heap : ReplyHeap Double) (parent : Option (ReadTask Nat)) : Prop :=
  ∀ obj, parent.bind ReadTask.obj = some obj → obj < heap.length

theorem setElement_append {heap : ReplyHeap Double} {parent : Option (ReadTask Nat)}
    (attached : Attached heap parent) (task : ReadTask Nat) (r : Nat) (more : ReplyHeap Double) :
    setElement (heap ++ more) task parent r = setElement heap task parent r ++ more := by
  unfold setElement
  cases found : parent.bind ReadTask.obj with
  | none => rfl
  | some obj =>
      have bound := attached obj found
      dsimp only
      rw [List.modify_eq_take_cons_drop (by simpa using Nat.lt_add_right _ bound),
        List.modify_eq_take_cons_drop bound, List.take_append_of_le_length (by omega),
        List.drop_append_of_le_length (by omega), List.getElem_append_left bound]
      simp

@[simp] theorem length_setElement (heap : ReplyHeap Double) (task : ReadTask Nat)
    (parent : Option (ReadTask Nat)) (r : Nat) :
    (setElement heap task parent r).length = heap.length := by
  unfold setElement
  split <;> simp

/-- The next empty slot of a parent gets the child. -/
theorem setElement_slot {before after : ReplyHeap Double} {parent : ReplyObject Double}
    {filled : List (Option Nat)} {count : Nat} {task above : ReadTask Nat}
    (obj : above.obj = some before.length) (idx : task.idx = filled.length) (r : Nat) :
    setElement
        (before ++ some { parent with element := filled ++ List.replicate (count + 1) none } ::
          after) task (some above) r =
      before ++ some { parent with element := filled ++ some r :: List.replicate count none } ::
        after := by
  simp only [setElement, Option.bind_some, obj, idx, Int.toNat_natCast]
  rw [List.modify_eq_take_cons_drop (by simp)]
  simp [List.replicate_succ]

end Slots

/-! ## Objects of items -/

section Objects

variable {ffc : DoubleParser Double}

theorem createString_eq {heap : ReplyHeap Double} {task : ReadTask Nat}
    {parent : Option (ReadTask Nat)} {text : Bytes} {type : ReplyType}
    (known : task.type = some type) (notVerb : type ≠ .verb) (small : text.length ≤ ssizeMax) :
    createStringObject heap task parent text text.length =
      addObject heap task parent
        { createReplyObject type with str := some text, len := text.length } := by
  simp [createStringObject, copyString, small, known, notVerb]

/-- The object that a line comes to. -/
theorem LineItem.lineObject_eq {type : ReplyType} {text : Bytes} {tree : ReplyTree}
    (item : LineItem ffc type text tree) (short : text.length + 2 < 2 ^ 31)
    (heap : ReplyHeap Double) (cur : ReadTask Nat) (parent : Option (ReadTask Nat))
    (more : Bytes) :
    lineObject ffc (defaultFunctions Double) heap { cur with type := some type } parent
        (text ++ crlf ++ more) text.length =
      .ok (addObject heap { cur with type := some type } parent (tree.object ffc [])) := by
  rw [lineObject_append _ _ _ _ _ _ (by simp [crlf]) short]
  have size := toSize_of_small (show text.length < 2 ^ 31 by omega)
  have small : text.length ≤ ssizeMax := by
    unfold ssizeMax
    omega
  have cut : (text ++ crlf).take text.length = text := List.take_left
  cases item with
  | status simple | error simple =>
      have noBreak : (text.any fun byte => byte == CR || byte == LF) = false := by
        rw [List.any_eq_false]
        intro byte member
        have notCR : byte ≠ CR := fun equal => simple.1 (equal ▸ member)
        have notLF : byte ≠ LF := fun equal => simple.2 (equal ▸ member)
        simp [notCR, notLF]
      simp only [lineObject, Int.toNat_natCast, cut, noBreak, size]
      exact congrArg Except.ok (createString_eq rfl (by decide) small)
  | @integer value inRange =>
      have parsed := (string2ll_eq_some_iff (Decimal.ofInt value) value).mpr ⟨inRange, rfl⟩
      simp only [lineObject, size, cut, parsed]
      rfl
  | double ends number =>
      have parsed := doubleValue_append ffc crlf (Nat.le_refl text.length)
      rw [number] at parsed
      simp only [lineObject, parsed, size, cut, ReplyTree.object, number]
      simp [defaultFunctions, createDoubleObject, copyString, small]
  | boolTrue letter | boolFalse letter => rcases letter with rfl | rfl <;> rfl
  | nil => rfl
  | bignum number =>
      simp only [lineObject, Int.toNat_natCast, cut, number.isBignumText, if_true, size]
      exact congrArg Except.ok (createString_eq rfl (by decide) small)

end Objects

/-! ## Reading -/

/-- Items that are read one after the other, with lines that fit an `int`. -/
inductive Steps {Heap Obj : Type} (ffc : DoubleParser Double)
    (fn : ReplyObjectFunctions Heap Obj Double) :
    ValkeyReader Heap Obj → ValkeyReader Heap Obj → Prop
  | refl {r : ValkeyReader Heap Obj} : Steps ffc fn r r
  | step {r next last : ValkeyReader Heap Obj} (item : processItem ffc fn r = (.ok, next))
      (short : overlongLine r = false) (shorter : next.unread.length < r.unread.length)
      (steps : Steps ffc fn next last) : Steps ffc fn r last

namespace Steps

variable {Heap Obj : Type} {ffc : DoubleParser Double}
  {fn : ReplyObjectFunctions Heap Obj Double} {r next last : ValkeyReader Heap Obj}

theorem trans (left : Steps ffc fn r next) (right : Steps ffc fn next last) :
    Steps ffc fn r last := by
  induction left with
  | refl => exact right
  | step item short shorter _ induction => exact .step item short shorter (induction right)

theorem processItems_eq (steps : Steps ffc fn r last) (done : last.task = []) {fuel : Nat}
    (enough : r.unread.length < fuel) : processItems ffc fn fuel r = last := by
  induction steps generalizing fuel with
  | @refl r =>
      cases fuel with
      | zero => rfl
      | succ fuel => rw [processItems, if_pos done]
  | @step r next last item short shorter steps induction =>
      cases fuel with
      | zero => exact absurd enough (Nat.not_lt_zero _)
      | succ fuel =>
          have busy : r.task ≠ [] := by
            intro idle
            simp [processItem, idle] at item
          rw [processItems, if_neg busy, item]
          exact induction done (by omega)

end Steps

section Reading

variable {ffc : DoubleParser Double}

/-- The reader is at the first byte of a value. -/
structure AtValue (r : ValkeyReader (ReplyHeap Double) Nat) (cur : ReadTask Nat)
    (rest : List (ReadTask Nat)) (input : Bytes) : Prop where
  alive : r.err = none
  task : r.task = cur :: rest
  unknown : cur.type = none
  unread : r.unread = input
  inside : r.pos ≤ r.buf.length
  attached : Attached r.heap rest.head?

/-- The reader after a value of `taken` bytes that was laid out as `objects`. -/
def afterValue (r : ValkeyReader (ReplyHeap Double) Nat) (cur : ReadTask Nat)
    (rest : List (ReadTask Nat)) (taken : Nat) (objects : ReplyHeap Double) (obj : Option Nat)
    (tasks : Nat) : ValkeyReader (ReplyHeap Double) Nat :=
  { r with
    pos := r.pos + taken
    task := moveToNextTask ({ cur with obj := obj } :: rest)
    tasks := tasks
    reply := if rest = [] then some r.heap.length else r.reply
    heap := setElement r.heap cur rest.head? r.heap.length ++ objects }

theorem moveToNextTask_congr {Obj : Type} {cur other : ReadTask Obj} (idx : cur.idx = other.idx)
    (obj : cur.obj = other.obj) (rest : List (ReadTask Obj)) :
    moveToNextTask (cur :: rest) = moveToNextTask (other :: rest) := by
  cases rest with
  | nil => rfl
  | cons prv rest => simp only [moveToNextTask, idx, obj]

theorem ridx_eq_zero_iff {r : ValkeyReader (ReplyHeap Double) Nat} {cur : ReadTask Nat}
    {rest : List (ReadTask Nat)} (task : r.task = cur :: rest) : r.ridx = 0 ↔ rest = [] := by
  simp [ridx, task]

/-- A value without children is one item. -/
theorem acceptObject_addObject {r next : ValkeyReader (ReplyHeap Double) Nat} {cur : ReadTask Nat}
    {rest : List (ReadTask Nat)} {input : Bytes} (atValue : AtValue r cur rest input)
    {type : ReplyType} (taken tasks : Nat)
    (fields : next = { r with
      pos := r.pos + taken, tasks := tasks, task := { cur with type := some type } :: rest })
    (object : ReplyObject Double) :
    acceptObject (defaultFunctions Double) next
        (addObject r.heap { cur with type := some type } rest.head? object) =
      (.ok, afterValue r cur rest taken [some object] cur.obj tasks) := by
  subst fields
  have depth := ridx_eq_zero_iff (r := { r with
    pos := r.pos + taken, tasks := tasks, task := { cur with type := some type } :: rest }) rfl
  have moved : moveToNextTask ({ cur with type := some type } :: rest) =
      moveToNextTask (cur :: rest) := by
    apply moveToNextTask_congr <;> rfl
  simp only [acceptObject, addObject, completeItem, afterValue,
    setElement_append atValue.attached, moved]
  simp [ridx, setElement]

theorem processItem_of_value {r : ValkeyReader (ReplyHeap Double) Nat} {cur : ReadTask Nat}
    {rest : List (ReadTask Nat)} {type : ReplyType} {bytes : Bytes}
    (atValue : AtValue r cur rest (type.byte :: bytes)) :
    processItem ffc (defaultFunctions Double) r =
      processTypedItem ffc (defaultFunctions Double) (typed r cur rest type) type := by
  rw [processItem_of_byte ffc _ atValue.task atValue.unknown atValue.unread, typeOfByte_byte]

/-- A line is read with its `\r\n`. -/
theorem readLine_text {r : ValkeyReader (ReplyHeap Double) Nat} {text more : Bytes}
    (unread : r.unread = text ++ crlf ++ more) (ends : EndsAtFirstNewline text)
    (short : text.length + 2 < 2 ^ 31) :
    readLine r = some (text ++ crlf ++ more, (text.length : Int),
      { r with pos := r.pos + (text.length + 2) }) := by
  have found : seekNewline r.unread = some text.length := by
    rw [unread]
    simpa [crlf] using ends.seek more
  rw [readLine_of_short found short, unread]

theorem processItem_line {r : ValkeyReader (ReplyHeap Double) Nat} {cur : ReadTask Nat}
    {rest : List (ReadTask Nat)} {type : ReplyType} {text more : Bytes} {tree : ReplyTree}
    (item : LineItem ffc type text tree) (short : text.length + 2 < 2 ^ 31)
    (atValue : AtValue r cur rest (type.byte :: (text ++ crlf ++ more))) :
    processItem ffc (defaultFunctions Double) r =
      (.ok, afterValue r cur rest (text.length + 3) [some (tree.object ffc [])] cur.obj
        r.tasks) := by
  have line := readLine_text (r := typed r cur rest type)
    (unread_typed atValue.unread cur rest type) item.ends short
  have processed : processTypedItem ffc (defaultFunctions Double) (typed r cur rest type) type =
      processLineItem ffc (defaultFunctions Double) (typed r cur rest type) := by
    cases item <;> rfl
  rw [processItem_of_value atValue, processed, processLineItem_of_line ffc _ rfl line]
  dsimp only
  rw [show (typed r cur rest type).heap = r.heap from rfl, item.lineObject_eq short]
  exact acceptObject_addObject atValue (text.length + 3) r.tasks
    (by simp [typed]; omega) _

/-- A length line is found and parsed. -/
theorem header_parsed {input more : Bytes} {value : Int} (inRange : InLongLong value)
    (input_eq : input = Decimal.ofInt value ++ crlf ++ more) :
    seekNewline input = some (Decimal.ofInt value).length ∧
      input.take (Decimal.ofInt value).length = Decimal.ofInt value ∧
      string2ll (Decimal.ofInt value) = some value := by
  subst input_eq
  have ends := endsAtFirstNewline_of_not_mem (ofInt_no_CR value)
  refine ⟨?_, ?_, (string2ll_eq_some_iff _ _).mpr ⟨inRange, rfl⟩⟩
  · simpa [crlf] using ends.seek more
  · rw [List.append_assoc, List.take_left]

/-- The object that a payload comes to. -/
theorem PayloadItem.createString_eq (ffc : DoubleParser Double) {type : ReplyType} {text : Bytes}
    {tree : ReplyTree} (item : PayloadItem type text tree) (small : text.length ≤ llongMax)
    (heap : ReplyHeap Double) (cur : ReadTask Nat) (parent : Option (ReadTask Nat)) :
    createStringObject heap { cur with type := some type } parent text text.length =
      addObject heap { cur with type := some type } parent (tree.object ffc []) := by
  cases item with
  | string => exact Libvalkey.createString_eq rfl (by decide) small
  | @verb vtype body three =>
      have fits : (vtype ++ ':'.toUInt8 :: body).length ≤ ssizeMax := small
      have kept : (vtype ++ ':'.toUInt8 :: body).take 3 = vtype := by
        rw [← three, List.take_left]
      have skipped : (vtype ++ ':'.toUInt8 :: body).drop 4 = body := by
        rw [← List.drop_drop (i := 1) (j := 3), ← three, List.drop_left]
        rfl
      have length : (vtype ++ ':'.toUInt8 :: body).length - 4 = body.length := by
        simp only [List.length_append, List.length_cons]
        omega
      simp only [createStringObject, copyString, if_pos fits, kept, skipped, length]
      rfl

/-- The header of a verbatim string passes its check. -/
theorem PayloadItem.checked {type : ReplyType} {text : Bytes} {tree : ReplyTree}
    (item : PayloadItem type text tree) (trailer : Bytes) :
    ¬(type = .verb ∧ ((text.length : Int) < 4 ∨
      (text ++ trailer)[3]? ≠ some ':'.toUInt8)) := by
  cases item with
  | string => simp
  | @verb vtype body three =>
      rintro ⟨_, tooShort | wrong⟩
      · simp only [List.length_append, List.length_cons] at tooShort
        omega
      · apply wrong
        rw [List.append_assoc, List.getElem?_append_right (by omega), three]
        rfl

theorem processBulkItem_of_header {r : ValkeyReader (ReplyHeap Double) Nat} {cur : ReadTask Nat}
    {rest : List (ReadTask Nat)} (task : r.task = cur :: rest) {value : Int} {more : Bytes}
    (inRange : InLongLong value) (notBelow : ¬value < -1)
    (unread : r.unread = Decimal.ofInt value ++ crlf ++ more) :
    processBulkItem (defaultFunctions Double) r =
      processBulkPayload (defaultFunctions Double) r cur rest.head?
        (Decimal.ofInt value).length value := by
  obtain ⟨found, taken, parsed⟩ := header_parsed inRange unread
  simp only [processBulkItem, task, found, taken, parsed, if_neg notBelow]

/-- The course of a string whose payload has arrived. -/
theorem processItem_bulk {r : ValkeyReader (ReplyHeap Double) Nat} {cur : ReadTask Nat}
    {rest : List (ReadTask Nat)} {type : ReplyType} {text trailer more : Bytes}
    (bulk : type = .string ∨ type = .verb) (small : text.length ≤ llongMax)
    (two : trailer.length = 2)
    (atValue : AtValue r cur rest
      (type.byte :: (Decimal.ofNat text.length ++ crlf ++ (text ++ trailer ++ more)))) :
    processItem ffc (defaultFunctions Double) r =
      if type = .verb ∧ ((text.length : Int) < 4 ∨
          (text ++ trailer ++ more)[3]? ≠ some ':'.toUInt8) then
        (.err, valkeyReaderSetError (defaultFunctions Double) (typed r cur rest type) .protocol
          "Verbatim string 4 bytes of content type are missing or incorrectly encoded.")
      else
        acceptObject (defaultFunctions Double)
          { typed r cur rest type with
            pos := r.pos + (1 + ((Decimal.ofNat text.length).length + 2 + text.length + 2)) }
          (createStringObject r.heap { cur with type := some type } rest.head? text
            text.length) := by
  have inRange : InLongLong (text.length : Int) := by
    unfold InLongLong
    unfold llongMax at small
    omega
  have unread := unread_typed atValue.unread cur rest type
  rw [← ofInt_natCast] at unread ⊢
  have payload : (typed r cur rest type).unread.drop
      ((Decimal.ofInt (text.length : Int)).length + 2) = text ++ trailer ++ more := by
    rw [unread]
    exact List.drop_left' (by simp [crlf])
  have complete : (typed r cur rest type).pos +
      ((Decimal.ofInt (text.length : Int)).length + 2 + text.length + 2) ≤
        (typed r cur rest type).buf.length := by
    have lengths := congrArg List.length unread
    simp only [ValkeyReader.unread, List.length_drop, List.length_append, crlf,
      List.length_cons, List.length_nil] at lengths
    omega
  have text_eq : (text ++ trailer ++ more).take text.length = text := by
    rw [List.append_assoc, List.take_left]
  have separator : (typed r cur rest type).unread[
      (Decimal.ofInt (text.length : Int)).length + 5]? = (text ++ trailer ++ more)[3]? := by
    rw [← payload, List.getElem?_drop]
  have processed : processTypedItem ffc (defaultFunctions Double) (typed r cur rest type) type =
      processBulkItem (defaultFunctions Double) (typed r cur rest type) := by
    rcases bulk with rfl | rfl <;> rfl
  rw [processItem_of_value atValue, processed,
    processBulkItem_of_header rfl inRange (by omega) unread]
  simp only [processBulkPayload, if_neg (show ¬(text.length : Int) = -1 by omega),
    Int.toNat_natCast, if_pos complete, payload, text_eq, separator, Option.some.injEq]
  have position : (typed r cur rest type).pos +
      ((Decimal.ofInt (text.length : Int)).length + 2 + text.length + 2) =
        r.pos + (1 + ((Decimal.ofInt (text.length : Int)).length + 2 + text.length + 2)) := by
    simp only [typed]
    omega
  rw [position]
  rfl

theorem processItem_payload {r : ValkeyReader (ReplyHeap Double) Nat} {cur : ReadTask Nat}
    {rest : List (ReadTask Nat)} {type : ReplyType} {text trailer more : Bytes}
    {tree : ReplyTree} (item : PayloadItem type text tree) (small : text.length ≤ llongMax)
    (two : trailer.length = 2)
    (atValue : AtValue r cur rest
      (type.byte :: (Decimal.ofNat text.length ++ crlf ++ (text ++ trailer ++ more)))) :
    processItem ffc (defaultFunctions Double) r =
      (.ok, afterValue r cur rest
        (1 + ((Decimal.ofNat text.length).length + 2 + text.length + 2))
        [some (tree.object ffc [])] cur.obj r.tasks) := by
  have unchecked := item.checked (trailer ++ more)
  rw [← List.append_assoc] at unchecked
  have bulk : type = .string ∨ type = .verb := by cases item <;> simp
  rw [processItem_bulk bulk small two atValue, if_neg unchecked,
    item.createString_eq ffc small r.heap cur rest.head?]
  exact acceptObject_addObject atValue _ r.tasks rfl _

theorem header_minus_one : (Decimal.ofInt (-1)).length = 2 := by decide

theorem AggregateKind.processTypedItem_eq (kind : AggregateKind)
    (r : ValkeyReader (ReplyHeap Double) Nat) :
    processTypedItem ffc (defaultFunctions Double) r kind.type =
      processAggregateItem (defaultFunctions Double) r := by
  cases kind <;> rfl

theorem processAggregateItem_of_header {r : ValkeyReader (ReplyHeap Double) Nat}
    {cur : ReadTask Nat} {rest : List (ReadTask Nat)} (task : r.task = cur :: rest)
    {value : Int} {more : Bytes} (inRange : InLongLong value)
    (unread : r.unread = Decimal.ofInt value ++ crlf ++ more) :
    ∃ tasks, processAggregateItem (defaultFunctions Double) r =
      processAggregateHeader (defaultFunctions Double)
        { r with pos := r.pos + ((Decimal.ofInt value).length + 2), tasks := tasks } cur rest
        value := by
  obtain ⟨tasks, grown⟩ := growForChild_eq r
  have short := length_ofInt_of_inLongLong inRange
  have line := readLine_text (r := growForChild r) (by rw [(growForChild_fields r).1, unread])
    (endsAtFirstNewline_of_not_mem (ofInt_no_CR value)) (by omega)
  have size := toSize_of_small (show (Decimal.ofInt value).length < 2 ^ 31 by omega)
  have parsed := (string2ll_eq_some_iff (Decimal.ofInt value) value).mpr ⟨inRange, rfl⟩
  refine ⟨tasks, ?_⟩
  rw [processAggregateItem_of_line (defaultFunctions Double) task line, size, List.append_assoc,
    List.take_left, parsed, grown]

theorem processItem_null (ffc : DoubleParser Double) {r : ValkeyReader (ReplyHeap Double) Nat}
    {cur : ReadTask Nat} {rest : List (ReadTask Nat)} {type : ReplyType} {form : NilForm}
    {more : Bytes} (item : NullItem type form)
    (atValue : AtValue r cur rest (type.byte :: (Decimal.ofInt (-1) ++ crlf ++ more))) :
    ∃ tasks, processItem ffc (defaultFunctions Double) r =
      (.ok, afterValue r cur rest 5 [some ((ReplyTree.nil form).object ffc [])] cur.obj
        tasks) := by
  have inRange : InLongLong (-1) := by decide
  have unread := unread_typed atValue.unread cur rest type
  rw [processItem_of_value atValue]
  cases item with
  | string | verb =>
      refine ⟨r.tasks, ?_⟩
      simp only [processTypedItem]
      rw [processBulkItem_of_header rfl inRange (by decide) unread]
      exact acceptObject_addObject atValue 5 r.tasks (by simp [typed, header_minus_one]) _
  | aggregate kind =>
      obtain ⟨tasks, header⟩ := processAggregateItem_of_header rfl inRange unread
      refine ⟨tasks, ?_⟩
      rw [kind.processTypedItem_eq, header]
      rw [processAggregateHeader, if_neg (by dsimp only; omega), if_pos rfl]
      exact acceptObject_addObject atValue 5 tasks (by simp [typed, header_minus_one]) _

/-- The reader after the header of an aggregate that has children. -/
def opened (r : ValkeyReader (ReplyHeap Double) Nat) (cur : ReadTask Nat)
    (rest : List (ReadTask Nat)) (kind : AggregateKind) (elements taken tasks : Nat) :
    ValkeyReader (ReplyHeap Double) Nat :=
  { r with
    pos := r.pos + taken
    tasks := tasks
    reply := if rest = [] then some r.heap.length else r.reply
    task := { type := none, elements := -1, idx := 0, obj := none } ::
      { cur with type := some kind.type, elements := elements, obj := some r.heap.length } :: rest
    heap := setElement r.heap cur rest.head? r.heap.length ++
      [some { createReplyObject kind.type with
        elements := elements
        element := List.replicate elements none }] }

theorem AggregateKind.arity_pos (kind : AggregateKind) : 0 < kind.arity := by
  cases kind <;> decide

theorem AggregateKind.childrenPerElement_eq (kind : AggregateKind) :
    childrenPerElement (some kind.type) = kind.arity := by
  cases kind <;> rfl

theorem processItem_aggregate (ffc : DoubleParser Double) {r : ValkeyReader (ReplyHeap Double) Nat}
    {cur : ReadTask Nat} {rest : List (ReadTask Nat)} {kind : AggregateKind} {count : Nat}
    {more : Bytes} (admitted : Admitted r.maxelements count) (small : count * kind.arity ≤ llongMax)
    (atValue : AtValue r cur rest
      (kind.type.byte :: (Decimal.ofNat count ++ crlf ++ more))) :
    ∃ tasks, processItem ffc (defaultFunctions Double) r =
      (.ok,
        if count = 0 then
          afterValue r cur rest ((Decimal.ofNat count).length + 3)
            [some ((ReplyTree.aggregate kind []).object ffc [])] cur.obj tasks
        else
          opened r cur rest kind (count * kind.arity) ((Decimal.ofNat count).length + 3)
            tasks) := by
  have arity : kind.arity = 1 ∨ kind.arity = 2 := by cases kind <;> simp [AggregateKind.arity]
  have inRange : InLongLong (count : Int) := by
    unfold InLongLong
    unfold llongMax at small
    rcases arity with one | two
    · rw [one] at small
      omega
    · rw [two] at small
      omega
  have unread := unread_typed atValue.unread cur rest kind.type
  rw [← ofInt_natCast] at unread
  obtain ⟨tasks, header⟩ := processAggregateItem_of_header rfl inRange unread
  refine ⟨tasks, ?_⟩
  rw [ofInt_natCast] at header
  rw [processItem_of_value atValue, kind.processTypedItem_eq, header, processAggregateHeader,
    if_neg (by
      unfold Admitted at admitted
      simp only [typed]
      omega),
    if_neg (by omega)]
  dsimp only
  rw [kind.childrenPerElement_eq, if_neg (by
    unfold llongMax at small ⊢
    rintro ⟨two, tooMany⟩
    rw [two] at small
    omega)]
  by_cases empty : count = 0
  · subst empty
    rw [if_pos rfl, if_neg (by simp)]
    have object : ({ createReplyObject kind.type with
        elements := ((0 : Nat) * (kind.arity : Int)).toNat
        element := List.replicate ((0 : Nat) * (kind.arity : Int)).toNat none } :
        ReplyObject Double) = (ReplyTree.aggregate kind []).object ffc [] := by
      simp [ReplyTree.object]
    rw [← object]
    exact acceptObject_addObject atValue _ tasks (by simp [typed]; omega) _
  · have positive : 0 < count * kind.arity :=
      Nat.mul_pos (by omega) (by rcases arity with one | two <;> omega)
    have product : ((count * kind.arity : Nat) : Int) = (count : Int) * (kind.arity : Int) := by
      push_cast
      rfl
    rw [if_neg empty, ← product, if_pos (by omega), Int.toNat_natCast]
    simp only [defaultFunctions, createArrayObject, addObject, openAggregate, opened, typed,
      Option.getD_some, setElement_append atValue.attached]
    simp [ridx, setElement]
    omega

/-! ## Frames -/

theorem AtValue.room (bytes : Bytes) {r : ValkeyReader (ReplyHeap Double) Nat}
    {cur : ReadTask Nat} {rest : List (ReadTask Nat)} {more : Bytes}
    (atValue : AtValue r cur rest (bytes ++ more)) :
    r.pos + bytes.length ≤ r.buf.length ∧ r.buf.drop (r.pos + bytes.length) = more := by
  have unread := atValue.unread
  have inside := atValue.inside
  simp only [ValkeyReader.unread] at unread
  have lengths := congrArg List.length unread
  simp only [List.length_drop, List.length_append] at lengths
  refine ⟨by omega, ?_⟩
  rw [← List.drop_drop, unread, List.drop_left]

/-- The first line of a value fits an `int` with its `\r\n`. -/
theorem AtValue.shortLine {r : ValkeyReader (ReplyHeap Double) Nat} {cur : ReadTask Nat}
    {rest : List (ReadTask Nat)} {type : ReplyType} {text more : Bytes}
    (atValue : AtValue r cur rest (type.byte :: (text ++ crlf ++ more)))
    (ends : EndsAtFirstNewline text) (small : text.length + 2 < 2 ^ 31) :
    overlongLine r = false := by
  have found : seekNewline (text ++ crlf ++ more) = some text.length := by
    simpa [crlf] using ends.seek more
  unfold overlongLine lineStart
  rw [atValue.task]
  dsimp only
  rw [atValue.unknown, atValue.unread]
  dsimp only
  rw [typeOfByte_byte]
  dsimp only
  split
  · rfl
  · rename_i input start
    split at start
    · obtain rfl := Option.some.inj start
      rw [found]
      exact decide_eq_false (by omega)
    · cases start

theorem AtValue.shortHeader {r : ValkeyReader (ReplyHeap Double) Nat} {cur : ReadTask Nat}
    {rest : List (ReadTask Nat)} {type : ReplyType} {value : Int} {more : Bytes}
    (atValue : AtValue r cur rest (type.byte :: (Decimal.ofInt value ++ crlf ++ more)))
    (inRange : InLongLong value) : overlongLine r = false := by
  have bound := length_ofInt_of_inLongLong inRange
  exact atValue.shortLine (endsAtFirstNewline_of_not_mem (ofInt_no_CR value)) (by omega)

theorem AtValue.shortCount {r : ValkeyReader (ReplyHeap Double) Nat} {cur : ReadTask Nat}
    {rest : List (ReadTask Nat)} {type : ReplyType} {count arity : Nat} {more : Bytes}
    (atValue : AtValue r cur rest (type.byte :: (Decimal.ofNat count ++ crlf ++ more)))
    (small : count * arity ≤ llongMax) (positive : 0 < arity) : overlongLine r = false := by
  have bound : count ≤ count * arity := Nat.le_mul_of_pos_right count positive
  rw [← ofInt_natCast] at atValue
  apply atValue.shortHeader
  unfold InLongLong
  unfold llongMax at small
  omega

/-- A value that is one item. -/
theorem AtValue.one_step {r : ValkeyReader (ReplyHeap Double) Nat} {cur : ReadTask Nat}
    {rest : List (ReadTask Nat)} {bytes more : Bytes}
    (atValue : AtValue r cur rest (bytes ++ more)) (some : bytes ≠ [])
    (short : overlongLine r = false) {taken tasks : Nat}
    {objects : ReplyHeap Double} {obj : Option Nat} (length : bytes.length = taken)
    (item : processItem ffc (defaultFunctions Double) r =
      (.ok, afterValue r cur rest taken objects obj tasks)) :
    Steps ffc (defaultFunctions Double) r
      (afterValue r cur rest bytes.length objects obj tasks) := by
  subst length
  refine .step item short ?_ .refl
  have nonempty := List.length_pos_iff.mpr some
  obtain ⟨_, unread⟩ := atValue.room _
  rw [atValue.unread, List.length_append]
  simp only [afterValue, ValkeyReader.unread, unread]
  omega

theorem LineItem.short {type : ReplyType} {text : Bytes} {tree : ReplyTree}
    (item : LineItem ffc type text tree) (short : tree.ShortLines) :
    text.length + 2 < 2 ^ 31 := by
  cases item with
  | integer inRange =>
      have bound := length_ofInt_of_inLongLong inRange
      omega
  | status | error | double | bignum =>
      simpa only [ReplyTree.ShortLines] using short
  | boolTrue letter | boolFalse letter => rcases letter with rfl | rfl <;> decide
  | nil => decide

theorem LineItem.layout_eq {type : ReplyType} {text : Bytes} {tree : ReplyTree}
    (item : LineItem ffc type text tree) (base : Nat) :
    tree.layout ffc base = [some (tree.object ffc [])] := by
  cases item <;> rfl

theorem PayloadItem.layout_eq {type : ReplyType} {text : Bytes} {tree : ReplyTree}
    (item : PayloadItem type text tree) (base : Nat) :
    tree.layout ffc base = [some (tree.object ffc [])] := by
  cases item <;> rfl

mutual
/-- Reading a frame takes its bytes and lays its tree out. -/
theorem FrameWith.steps {maxelements : Int} {tree : ReplyTree} {bytes : Bytes}
    (frame : Frame ffc maxelements tree bytes) (short : tree.ShortLines)
    (countable : tree.Countable)
    (r : ValkeyReader (ReplyHeap Double) Nat) (cur : ReadTask Nat) (rest : List (ReadTask Nat))
    (more : Bytes) (limit : r.maxelements = maxelements)
    (atValue : AtValue r cur rest (bytes ++ more)) :
    ∃ obj tasks, Steps ffc (defaultFunctions Double) r
      (afterValue r cur rest bytes.length (tree.layout ffc r.heap.length) obj tasks) := by
  cases frame with
  | @line type text _ item =>
      refine ⟨cur.obj, r.tasks, ?_⟩
      rw [item.layout_eq]
      have line := item.short short
      have here : AtValue r cur rest (type.byte :: (text ++ crlf ++ more)) := by
        simpa using atValue
      exact atValue.one_step (by simp) (here.shortLine item.ends line) (by simp [crlf])
        (processItem_line item line here)
  | @payload type text trailer _ item small two =>
      refine ⟨cur.obj, r.tasks, ?_⟩
      rw [item.layout_eq]
      have here : AtValue r cur rest
          (type.byte :: (Decimal.ofNat text.length ++ crlf ++ (text ++ trailer ++ more))) := by
        simpa using atValue
      have inLine := here.shortCount ((Nat.mul_one _).trans_le small) Nat.one_pos
      exact atValue.one_step (by simp) inLine (by simp [crlf, two]; omega)
        (processItem_payload item small two here)
  | @null type form item =>
      have here : AtValue r cur rest (type.byte :: (Decimal.ofInt (-1) ++ crlf ++ more)) := by
        simpa using atValue
      obtain ⟨tasks, read⟩ := processItem_null ffc item here
      exact ⟨cur.obj, tasks, atValue.one_step (by simp) (here.shortHeader (by decide))
        (by simp [header_minus_one, crlf]) read⟩
  | @aggregate kind count children bytes counted admitted small frames =>
      have here : AtValue r cur rest
          (kind.type.byte :: (Decimal.ofNat count ++ crlf ++ (bytes ++ more))) := by
        simpa using atValue
      obtain ⟨tasks, item⟩ := processItem_aggregate ffc (limit ▸ admitted) (counted ▸ small) here
      have inLine : overlongLine r = false := here.shortCount (counted ▸ small) kind.arity_pos
      by_cases empty : count = 0
      · have noChildren : children = [] := by
          apply List.length_eq_zero_iff.mp
          simp [counted, empty]
        subst noChildren
        cases frames
        rw [if_pos empty] at item
        exact ⟨cur.obj, tasks, atValue.one_step (by simp) inLine (by simp [crlf]) item⟩
      · rw [if_neg empty, ← counted] at item
        have arity := kind.arity_pos
        have someChildren : children ≠ [] := by
          intro none
          rw [none] at counted
          exact (Nat.mul_pos (Nat.pos_of_ne_zero empty) arity).ne counted
        obtain ⟨mid, midEq⟩ : ∃ mid, mid = opened r cur rest kind children.length
            ((Decimal.ofNat count).length + 3) tasks := ⟨_, rfl⟩
        rw [← midEq] at item
        have taken : (kind.type.byte :: (Decimal.ofNat count ++ crlf)).length =
            (Decimal.ofNat count).length + 3 := by simp [crlf]
        have split : kind.type.byte :: (Decimal.ofNat count ++ crlf ++ bytes) ++ more =
            (kind.type.byte :: (Decimal.ofNat count ++ crlf)) ++ (bytes ++ more) := by simp
        rw [split] at atValue
        obtain ⟨room, unread⟩ := atValue.room _
        rw [taken] at room unread
        have midUnread : mid.unread = bytes ++ more := by
          rw [midEq]
          exact unread
        have midHeap : mid.heap = setElement r.heap cur rest.head? r.heap.length ++
            some { (createReplyObject kind.type : ReplyObject Double) with
              elements := children.length
              element := [] ++ List.replicate children.length none } :: [] := by
          rw [midEq]
          rfl
        have midLength : mid.heap.length = r.heap.length + 1 := by simp [midHeap]
        have attached : Attached mid.heap ([{ cur with
            type := some kind.type
            elements := (children.length : Int)
            obj := some r.heap.length }].head?) := by
          intro address found
          simp only [List.head?_cons, Option.bind_some, Option.some.injEq] at found
          omega
        obtain ⟨lastTasks, later⟩ := frames.steps short countable.2 someChildren mid _ _
          rest more
          (by rw [midEq]; exact limit)
          ⟨by rw [midEq]; exact atValue.alive, by rw [midEq]; rfl, rfl, midUnread,
            by rw [midEq]; exact room, attached⟩
          (setElement r.heap cur rest.head? r.heap.length) []
          { createReplyObject kind.type with elements := children.length } []
          (by simp) (by simp) (by simp) (by simpa using countable.1) midHeap
        refine ⟨some r.heap.length, lastTasks, .step item inLine ?_ ?_⟩
        · have lengths := congrArg List.length atValue.unread
          rw [List.length_append, taken] at lengths
          rw [midUnread]
          omega
        · have moved : moveToNextTask ({ cur with
                type := some kind.type
                elements := (children.length : Int)
                obj := some r.heap.length } :: rest) =
              moveToNextTask ({ cur with obj := some r.heap.length } :: rest) := by
            apply moveToNextTask_congr <;> rfl
          have total : (kind.type.byte :: (Decimal.ofNat count ++ crlf ++ bytes)).length =
              (Decimal.ofNat count).length + 3 + bytes.length := by
            simp [crlf]
            omega
          rw [moved, midLength] at later
          rw [total]
          simpa [midEq, opened, afterValue, ReplyTree.layout, ReplyTree.object,
            Nat.add_assoc] using later

/-- Reading the children that are left fills the slots that are left. -/
theorem FramesWith.steps {maxelements : Int} {children : List ReplyTree} {bytes : Bytes}
    (frames : Frames ffc maxelements children bytes)
    (short : ReplyTree.AllShortLines children) (allCountable : ReplyTree.AllCountable children)
    (some : children ≠ [])
    (r : ValkeyReader (ReplyHeap Double) Nat) (cur above : ReadTask Nat)
    (rest : List (ReadTask Nat))
    (more : Bytes) (limit : r.maxelements = maxelements)
    (atValue : AtValue r cur (above :: rest) (bytes ++ more))
    (before after : ReplyHeap Double) (parent : ReplyObject Double) (filled : List (Option Nat))
    (obj : above.obj = .some before.length) (idx : cur.idx = filled.length)
    (elements : above.elements = (filled.length + children.length : Nat))
    (countable : filled.length + children.length ≤ 2 ^ 31)
    (heap : r.heap = before ++ .some { parent with
      element := filled ++ List.replicate children.length none } :: after) :
    ∃ tasks, Steps ffc (defaultFunctions Double) r
      { r with
        pos := r.pos + bytes.length
        task := moveToNextTask (above :: rest)
        tasks := tasks
        heap := before ++ .some { parent with
          element := filled ++ ReplyTree.addresses r.heap.length children } :: after ++
            ReplyTree.layoutAll ffc r.heap.length children } := by
  cases frames with
  | nil => exact absurd rfl some
  | @cons tree children bytes restBytes frame frames =>
      rw [List.append_assoc] at atValue
      obtain ⟨childObj, tasks, steps⟩ :=
        frame.steps short.1 allCountable.1 r cur (above :: rest) (restBytes ++ more) limit
          atValue
      have slot : setElement r.heap cur (.some above) r.heap.length =
          before ++ .some { parent with
            element := filled ++ .some r.heap.length :: List.replicate children.length none } ::
              after :=
        (congrArg (fun heap => setElement heap cur (.some above) r.heap.length) heap).trans
          (setElement_slot obj idx r.heap.length)
      cases children with
      | nil =>
          cases frames
          refine ⟨tasks, ?_⟩
          have last : moveToNextTask ({ cur with obj := childObj } :: above :: rest) =
              moveToNextTask (above :: rest) := by
            rw [moveToNextTask, if_pos]
            show cur.idx = above.elements - 1
            have one : [tree].length = 1 := rfl
            omega
          simp only [afterValue, last, List.head?_cons, slot, if_neg (List.cons_ne_nil _ _)]
            at steps
          simpa [ReplyTree.addresses, ReplyTree.layoutAll] using steps
      | cons next children =>
          have count : (tree :: next :: children).length = children.length + 2 := rfl
          let following : ReadTask Nat :=
            { cur with
              type := none
              elements := -1
              idx := (filled.length + 1 : Nat)
              obj := childObj }
          have moved : moveToNextTask ({ cur with obj := childObj } :: above :: rest) =
              following :: above :: rest := by
            have notLast : ¬cur.idx = above.elements - 1 := by omega
            have counted : toInt32 (cur.idx + 1) = (filled.length + 1 : Nat) := by
              rw [idx, ← toInt32_of_small (show filled.length + 1 < 2 ^ 31 by omega)]
              push_cast
              rfl
            simp only [moveToNextTask, if_neg notLast, counted, following]
          obtain ⟨mid, midEq⟩ : ∃ mid, mid = afterValue r cur (above :: rest) bytes.length
              (tree.layout ffc r.heap.length) childObj tasks := ⟨_, rfl⟩
          rw [← midEq] at steps
          have midHeap : mid.heap = before ++ .some { parent with
              element := (filled ++ [.some r.heap.length]) ++
                List.replicate (next :: children).length none } ::
                  (after ++ tree.layout ffc r.heap.length) := by
            simp [midEq, afterValue, slot]
          have midLength : mid.heap.length = r.heap.length + tree.size := by
            simp [midEq, afterValue, ReplyTree.length_layout]
          obtain ⟨room, unread⟩ := atValue.room _
          have atNext : AtValue mid following (above :: rest) (restBytes ++ more) := by
            refine ⟨by rw [midEq]; exact atValue.alive, by rw [midEq]; exact moved, rfl,
              by rw [midEq]; exact unread, by rw [midEq]; exact room, ?_⟩
            intro address found
            simp only [List.head?_cons, Option.bind_some, obj, Option.some.injEq] at found
            simp only [midHeap, List.length_append, List.length_cons]
            omega
          have left : (next :: children).length = children.length + 1 := rfl
          have filledMore : (filled ++ [Option.some r.heap.length]).length =
              filled.length + 1 := by simp
          obtain ⟨lastTasks, later⟩ := frames.steps short.2 allCountable.2
            (List.cons_ne_nil _ _) mid following above rest more (by rw [midEq]; exact limit)
            atNext
            before (after ++ tree.layout ffc r.heap.length) parent
            (filled ++ [.some r.heap.length]) obj (by simp [following])
            (by show above.elements = _; omega) (by omega) midHeap
          refine ⟨lastTasks, steps.trans ?_⟩
          rw [midLength] at later
          have same : r.pos + (bytes ++ restBytes).length = mid.pos + restBytes.length := by
            simp [midEq, afterValue]
            omega
          rw [same]
          simpa [midEq, afterValue, ReplyTree.addresses, ReplyTree.layoutAll] using later
end

end Reading

end Libvalkey
