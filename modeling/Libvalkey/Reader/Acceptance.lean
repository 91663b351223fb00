import Libvalkey.Reader.Chunking
import Libvalkey.Reader.RoundTrip
import Libvalkey.Resp.Prefix

/-! # What the reader accepts

On any buffer the reader returns a reply for the frame that the buffer starts
with, asks for more inside a frame or a line that has not ended, and reports a
protocol error otherwise. -/

namespace Libvalkey

open ValkeyReader

variable {Double : Type}

/-! ## Slips

Lines that the checks of the reader let through or spoil by accident. -/

/-- A line that does not fit an `int`, a boolean that is a NUL byte, a big number
without digits, or more children than an `int` counts. -/
def slipLine (type : ReplyType) (text : Bytes) : Bool :=
  (type.readsLine && decide (2 ^ 31 ≤ text.length + 2)) ||
    (type == .bool && text == [0]) ||
    (type == .bignum && (text == [] || text == ascii "-")) ||
    (type.isAggregate &&
      match string2ll text with
      | none => false
      | some elements => decide (2 ^ 31 < elements * childrenPerElement (some type)))

/-- No value of a frame that the buffer starts with, whole or in part, has a slip
as its first line. -/
def NoSlip (ffc : DoubleParser Double) (maxelements : Int) (buf : Bytes) : Prop :=
  ∀ levels before type text more, Opens ffc maxelements levels before →
    EndsAtFirstNewline text → buf = before ++ type.byte :: (text ++ crlf ++ more) →
      slipLine type text = false

section Items

variable {ffc : DoubleParser Double} {maxelements : Int}

theorem cases_of_ite_some {p : Prop} [Decidable p] {first type : ReplyType}
    {others : Option ReplyType} (known : (if p then some first else others) = some type) :
    (p ∧ first = type) ∨ others = some type := by
  split at known
  · rename_i holds
    exact Or.inl ⟨holds, Option.some.inj known⟩
  · exact Or.inr known

theorem byte_of_typeOfByte {byte : UInt8} {type : ReplyType}
    (known : typeOfByte byte = some type) : byte = type.byte := by
  unfold typeOfByte at known
  iterate 14
    rcases cases_of_ite_some known with ⟨equal, rfl⟩ | known
    · exact equal
  cases known

/-- The values that are one line. -/
def ReplyType.isLine (type : ReplyType) : Bool := type.readsLine && !type.isAggregate

theorem bigNumber_of_isBignumText {text : Bytes} (checked : isBignumText text = true)
    (digits : text ≠ [] ∧ text ≠ ascii "-") : BigNumber text := by
  cases text with
  | nil => exact absurd rfl digits.1
  | cons first rest =>
      simp only [isBignumText, Bool.and_eq_true, Bool.or_eq_true, beq_iff_eq,
        List.all_eq_true] at checked
      obtain ⟨minus | digit, all⟩ := checked
      · refine ⟨rest, ?_, all, Or.inr (by rw [minus])⟩
        rintro rfl
        exact digits.2 (by rw [minus]; rfl)
      · refine ⟨first :: rest, List.cons_ne_nil _ _, ?_, Or.inl rfl⟩
        intro byte member
        rcases List.mem_cons.mp member with rfl | later
        · exact digit
        · exact all byte later

/-- A line is a value of its type, or `lineObject` has a message for it. -/
theorem lineItem_or_error (ffc : DoubleParser Double) {type : ReplyType}
    (line : type.isLine = true) {text : Bytes} (ends : EndsAtFirstNewline text)
    (clean : slipLine type text = false) :
    (∃ tree, LineItem ffc type text tree) ∨
      ∃ message, ∀ (heap : ReplyHeap Double) (cur : ReadTask Nat)
        (parent : Option (ReadTask Nat)) (more : Bytes), cur.type = some type →
          lineObject ffc (defaultFunctions Double) heap cur parent (text ++ crlf ++ more)
            text.length = .error message := by
  have readsLine : type.readsLine = true := (Bool.and_eq_true_iff.mp line).1
  have short : text.length + 2 < 2 ^ 31 := by
    simp only [slipLine, readsLine, Bool.true_and, Bool.or_eq_false_iff,
      decide_eq_false_iff_not] at clean
    omega
  have size := toSize_of_small (show text.length < 2 ^ 31 by omega)
  have cut : (text ++ crlf).take text.length = text := List.take_left
  have failing : ∀ message : String, (∀ (heap : ReplyHeap Double) (cur : ReadTask Nat)
      (parent : Option (ReadTask Nat)), cur.type = some type →
        lineObject ffc (defaultFunctions Double) heap cur parent (text ++ crlf) text.length =
          .error message) → ∃ message, ∀ (heap : ReplyHeap Double) (cur : ReadTask Nat)
      (parent : Option (ReadTask Nat)) (more : Bytes), cur.type = some type →
        lineObject ffc (defaultFunctions Double) heap cur parent (text ++ crlf ++ more)
          text.length = .error message := by
    intro message failed
    refine ⟨message, fun heap cur parent more known => ?_⟩
    rw [lineObject_append _ _ _ _ _ _ (by simp [crlf]) short]
    exact failed heap cur parent known
  cases type with
  | string | array | map | set | attr | push | verb => cases line
  | integer =>
      cases parsed : string2ll text with
      | none =>
          right
          refine failing "Bad integer value" fun heap cur parent known => ?_
          simp only [lineObject, known, size, cut, parsed]
      | some value =>
          left
          obtain ⟨inRange, rfl⟩ := (string2ll_eq_some_iff text value).mp parsed
          exact ⟨_, .integer inRange⟩
  | double =>
      have same := doubleValue_append ffc crlf (Nat.le_refl text.length)
      cases number : doubleValue ffc text text.length with
      | none =>
          right
          refine failing "Bad double value" fun heap cur parent known => ?_
          simp only [lineObject, known, same, number]
      | some value =>
          left
          exact ⟨_, .double ends number⟩
  | nil =>
      by_cases empty : text = []
      · left
        subst empty
        exact ⟨_, .nil⟩
      · right
        refine failing "Bad nil value" fun heap cur parent known => ?_
        have nonempty : (text.length : Int) ≠ 0 := by
          simpa using empty
        simp only [lineObject, known, if_pos nonempty]
  | bool =>
      by_cases letter : text.length = 1 ∧ strchr (ascii "tTfF") ((text ++ crlf).headD 0) = true
      · left
        obtain ⟨byte, rfl⟩ := List.length_eq_one_iff.mp letter.1
        have notNul : byte ≠ 0 := by
          rintro rfl
          simp [slipLine] at clean
        have named : byte = 't'.toUInt8 ∨ byte = 'T'.toUInt8 ∨ byte = 'f'.toUInt8 ∨
            byte = 'F'.toUInt8 := by
          simpa [strchr, ascii, notNul] using letter.2
        rcases named with rfl | rfl | rfl | rfl
        · exact ⟨_, .boolTrue (Or.inl rfl)⟩
        · exact ⟨_, .boolTrue (Or.inr rfl)⟩
        · exact ⟨_, .boolFalse (Or.inl rfl)⟩
        · exact ⟨_, .boolFalse (Or.inr rfl)⟩
      · right
        refine failing "Bad bool value" fun heap cur parent known => ?_
        have bad : (text.length : Int) ≠ 1 ∨
            ¬strchr (ascii "tTfF") ((text ++ crlf).headD 0) = true := by
          by_cases one : text.length = 1
          · exact Or.inr fun named => letter ⟨one, named⟩
          · exact Or.inl (by omega)
        simp only [lineObject, known, if_pos bad]
  | bignum =>
      cases checked : isBignumText text with
      | true =>
          left
          have digits : text.length < 2147483646 ∧ text ≠ [] ∧ text ≠ ascii "-" := by
            simpa [slipLine, ReplyType.isAggregate, ReplyType.readsLine] using clean
          exact ⟨_, .bignum (bigNumber_of_isBignumText checked digits.2)⟩
      | false =>
          right
          refine failing "Bad bignum value" fun heap cur parent known => ?_
          simp [lineObject, known, cut, checked]
  | status | error =>
      cases broken : text.any fun byte => byte == CR || byte == LF with
      | true =>
          right
          refine failing "Bad simple string value" fun heap cur parent known => ?_
          simp only [lineObject, known, Int.toNat_natCast, cut, broken, if_true]
      | false =>
          left
          rw [List.any_eq_false] at broken
          have simple : Simple text :=
            ⟨fun member => broken CR member (by simp), fun member => broken LF member (by simp)⟩
          first
            | exact ⟨_, .status simple⟩
            | exact ⟨_, .error simple⟩

@[simp] theorem typed_task {Heap Obj : Type} (r : ValkeyReader Heap Obj) (cur : ReadTask Obj)
    (rest : List (ReadTask Obj)) (type : ReplyType) :
    (typed r cur rest type).task = { cur with type := some type } :: rest := rfl

theorem AtValue.typed_inside {r : ValkeyReader (ReplyHeap Double) Nat} {cur : ReadTask Nat}
    {rest : List (ReadTask Nat)} {byte : UInt8} {bytes : Bytes}
    (atValue : AtValue r cur rest (byte :: bytes)) (type : ReplyType) :
    (typed r cur rest type).pos ≤ (typed r cur rest type).buf.length :=
  (AtValue.room [byte] atValue).1

/-- What an item at a value comes to. -/
inductive ItemResult (ffc : DoubleParser Double) (maxelements : Int)
    (r : ValkeyReader (ReplyHeap Double) Nat) (cur : ReadTask Nat) (rest : List (ReadTask Nat))
    (input : Bytes) : Status × ValkeyReader (ReplyHeap Double) Nat → Prop
  | value {tree : ReplyTree} {item more : Bytes} {objects : ReplyHeap Double} {tasks : Nat}
      (split : input = item ++ more) (accepted : Accepted ffc maxelements tree item) :
      ItemResult ffc maxelements r cur rest input
        (.ok, afterValue r cur rest item.length objects cur.obj tasks)
  | header {kind : AggregateKind} {count : Nat} {more : Bytes} {tasks : Nat}
      (split : input = aggregateHeader kind count ++ more) (positive : 0 < count)
      (admitted : Admitted maxelements count) (countable : count * kind.arity ≤ 2 ^ 31) :
      ItemResult ffc maxelements r cur rest input
        (.ok, opened r cur rest kind (count * kind.arity) (aggregateHeader kind count).length
          tasks)
  | waits {waiting : ValkeyReader (ReplyHeap Double) Nat} (unfinished : Unfinished input)
      (alive : waiting.err = none) (busy : waiting.task ≠ []) :
      ItemResult ffc maxelements r cur rest input (.err, waiting)
  | fails {failed : ValkeyReader (ReplyHeap Double) Nat} (error : failed.err = some .protocol) :
      ItemResult ffc maxelements r cur rest input (.err, failed)

/-- A line item whose line has ended. -/
theorem itemResult_line {r : ValkeyReader (ReplyHeap Double) Nat} {cur : ReadTask Nat}
    {rest : List (ReadTask Nat)} {type : ReplyType} {text more : Bytes}
    (line : type.isLine = true) (ends : EndsAtFirstNewline text)
    (clean : slipLine type text = false)
    (atValue : AtValue r cur rest (type.byte :: (text ++ crlf ++ more))) :
    ItemResult ffc maxelements r cur rest (type.byte :: (text ++ crlf ++ more))
      (processItem ffc (defaultFunctions Double) r) := by
  have short : text.length + 2 < 2 ^ 31 := by
    have readsLine : type.readsLine = true := (Bool.and_eq_true_iff.mp line).1
    simp only [slipLine, readsLine, Bool.true_and, Bool.or_eq_false_iff,
      decide_eq_false_iff_not] at clean
    omega
  rcases lineItem_or_error ffc line ends clean with ⟨tree, item⟩ | ⟨message, failed⟩
  · rw [processItem_line item short atValue]
    have length : (type.byte :: (text ++ crlf)).length = text.length + 3 := by simp [crlf]
    rw [← length]
    have split : type.byte :: (text ++ crlf ++ more) =
        (type.byte :: (text ++ crlf)) ++ more := by simp
    refine .value split ⟨.line item, ?_, ?_⟩
    · cases item with
      | status | error | double | bignum => exact short
      | integer | boolTrue | boolFalse | nil => trivial
    · cases item <;> trivial
  · have read := readLine_text (r := typed r cur rest type)
      (unread_typed atValue.unread cur rest type) ends short
    have processed : processTypedItem ffc (defaultFunctions Double) (typed r cur rest type) type =
        processLineItem ffc (defaultFunctions Double) (typed r cur rest type) := by
      cases type <;> first | rfl | cases line
    rw [processItem_of_value atValue, processed, processLineItem_of_line ffc _ rfl read,
      failed _ _ _ _ rfl]
    exact .fails rfl

/-- A verbatim string with a type of three bytes, or a plain string. -/
theorem payloadItem_of_checked {type : ReplyType} (bulk : type = .string ∨ type = .verb)
    {text : Bytes}
    (checked : ¬(type = .verb ∧ ((text.length : Int) < 4 ∨ text[3]? ≠ some ':'.toUInt8))) :
    ∃ tree, PayloadItem type text tree ∧ tree.ShortLines ∧ tree.Countable := by
  rcases bulk with rfl | rfl
  · exact ⟨_, .string, trivial, trivial⟩
  · simp only [true_and, not_or, not_lt, ne_eq, not_not] at checked
    obtain ⟨long, separator⟩ := checked
    have three : (text.take 3).length = 3 := by
      rw [List.length_take]
      omega
    have split : text = text.take 3 ++ ':'.toUInt8 :: text.drop 4 := by
      obtain ⟨bound, colon⟩ := List.getElem?_eq_some_iff.mp separator
      rw [← colon, ← List.drop_eq_getElem_cons bound, List.take_append_drop]
    rw [split]
    exact ⟨_, .verb three, trivial, trivial⟩

/-- A string whose payload has arrived. -/
theorem itemResult_payload (ffc : DoubleParser Double) (maxelements : Int) (tail : Bytes)
    {r : ValkeyReader (ReplyHeap Double) Nat} {cur : ReadTask Nat} {rest : List (ReadTask Nat)}
    {type : ReplyType} {payload trailer : Bytes}
    (bulk : type = .string ∨ type = .verb) (small : payload.length ≤ llongMax)
    (two : trailer.length = 2)
    (atValue : AtValue r cur rest
      (type.byte :: (Decimal.ofNat payload.length ++ crlf ++ (payload ++ trailer ++ tail)))) :
    ItemResult ffc maxelements r cur rest
      (type.byte :: (Decimal.ofNat payload.length ++ crlf ++ (payload ++ trailer ++ tail)))
      (processItem ffc (defaultFunctions Double) r) := by
  by_cases checked : type = .verb ∧ ((payload.length : Int) < 4 ∨ payload[3]? ≠ some ':'.toUInt8)
  · have failed : type = .verb ∧ ((payload.length : Int) < 4 ∨
        (payload ++ trailer ++ tail)[3]? ≠ some ':'.toUInt8) := by
      refine ⟨checked.1, ?_⟩
      by_cases long : payload.length < 4
      · exact Or.inl (by omega)
      · right
        rw [List.append_assoc, List.getElem?_append_left (by omega)]
        exact checked.2.resolve_left (by omega)
    rw [processItem_bulk bulk small two atValue, if_pos failed]
    exact .fails rfl
  · obtain ⟨tree, item, shortLines, countable⟩ := payloadItem_of_checked bulk checked
    rw [processItem_payload item small two atValue]
    have split : type.byte :: (Decimal.ofNat payload.length ++ crlf ++
        (payload ++ trailer ++ tail)) = (type.byte :: (Decimal.ofNat payload.length ++ crlf ++
          (payload ++ trailer))) ++ tail := by simp
    have length : (type.byte :: (Decimal.ofNat payload.length ++ crlf ++
        (payload ++ trailer))).length =
          1 + ((Decimal.ofNat payload.length).length + 2 + payload.length + 2) := by
      simp [crlf, two]
      omega
    rw [← length]
    exact .value split ⟨.payload item small two, shortLines, countable⟩

/-- A string whose length line has ended. -/
theorem itemResult_bulk {r : ValkeyReader (ReplyHeap Double) Nat} {cur : ReadTask Nat}
    {rest : List (ReadTask Nat)} {type : ReplyType} {text more : Bytes}
    (bulk : type = .string ∨ type = .verb) (ends : EndsAtFirstNewline text)
    (atValue : AtValue r cur rest (type.byte :: (text ++ crlf ++ more))) :
    ItemResult ffc maxelements r cur rest (type.byte :: (text ++ crlf ++ more))
      (processItem ffc (defaultFunctions Double) r) := by
  have unread := unread_typed atValue.unread cur rest type
  have found : seekNewline (typed r cur rest type).unread = some text.length := by
    rw [unread]
    simpa [crlf] using ends.seek more
  have taken : (typed r cur rest type).unread.take text.length = text := by
    rw [unread, List.append_assoc, List.take_left]
  have processed : processTypedItem ffc (defaultFunctions Double) (typed r cur rest type) type =
      processBulkItem (defaultFunctions Double) (typed r cur rest type) := by
    rcases bulk with rfl | rfl <;> rfl
  rw [processItem_of_value atValue, processed]
  cases parsed : string2ll text with
  | none =>
      simp only [processBulkItem, typed_task, found, taken, parsed]
      exact .fails rfl
  | some len =>
      obtain ⟨inRange, rfl⟩ := (string2ll_eq_some_iff text len).mp parsed
      by_cases below : len < -1
      · simp only [processBulkItem, typed_task, found, taken, parsed, if_pos below]
        exact .fails rfl
      by_cases null : len = -1
      · subst null
        have item : ∃ form, NullItem type form := by
          rcases bulk with rfl | rfl
          · exact ⟨_, .string⟩
          · exact ⟨_, .verb⟩
        obtain ⟨form, item⟩ := item
        obtain ⟨tasks, read⟩ := processItem_null ffc item atValue
        rw [processItem_of_value atValue, processed] at read
        rw [read]
        have split : type.byte :: (Decimal.ofInt (-1) ++ crlf ++ more) =
            (type.byte :: (Decimal.ofInt (-1) ++ crlf)) ++ more := by simp
        have length : (type.byte :: (Decimal.ofInt (-1) ++ crlf)).length = 5 := by
          simp [header_minus_one, crlf]
        rw [← length]
        exact .value split ⟨.null item, trivial, trivial⟩
      obtain ⟨size, rfl⟩ : ∃ size : Nat, len = size := ⟨len.toNat, by omega⟩
      have small : size ≤ llongMax := by
        unfold InLongLong at inRange
        unfold llongMax
        omega
      by_cases short : more.length < size + 2
      · have inside := atValue.typed_inside type
        have waits : BulkWaits (typed r cur rest type) (Decimal.ofInt (size : Int)).length := by
          refine ⟨size, by rw [taken, parsed], by omega, ?_⟩
          rw [unread]
          simp only [List.length_append, crlf, List.length_cons, List.length_nil,
            Int.toNat_natCast]
          omega
        rw [processBulkItem_of_waits _ inside found waits]
        refine .waits ?_ atValue.alive (by simp [typed])
        rw [ofInt_natCast]
        exact .payload bulk small short
      · have length : (more.take size).length = size := by
          rw [List.length_take]
          omega
        have two : ((more.drop size).take 2).length = 2 := by
          rw [List.length_take, List.length_drop]
          omega
        have rejoined : more.take size ++ (more.drop size).take 2 ++ (more.drop size).drop 2 =
            more := by
          rw [List.append_assoc, List.take_append_drop, List.take_append_drop]
        have arrived := itemResult_payload ffc maxelements ((more.drop size).drop 2) bulk
          (length.symm ▸ small) two (by rw [length, rejoined, ← ofInt_natCast]; exact atValue)
        rw [length, rejoined, ← ofInt_natCast, processItem_of_value atValue, processed] at arrived
        exact arrived

theorem processAggregateHeader_of_outOfRange (r : ValkeyReader (ReplyHeap Double) Nat)
    {cur : ReadTask Nat} {rest : List (ReadTask Nat)} {elements : Int}
    (outOfRange : elements < -1 ∨ (r.maxelements > 0 ∧ elements > r.maxelements)) :
    processAggregateHeader (defaultFunctions Double) r cur rest elements =
      (.err, valkeyReaderSetError (defaultFunctions Double) r .protocol
        "Multi-bulk length out of range") := by
  rw [processAggregateHeader, if_pos outOfRange]

/-- An aggregate whose header has ended. -/
theorem itemResult_aggregate (kind : AggregateKind) {r : ValkeyReader (ReplyHeap Double) Nat}
    {cur : ReadTask Nat} {rest : List (ReadTask Nat)} {text more : Bytes}
    (limit : r.maxelements = maxelements) (ends : EndsAtFirstNewline text)
    (clean : slipLine kind.type text = false)
    (atValue : AtValue r cur rest (kind.type.byte :: (text ++ crlf ++ more))) :
    ItemResult ffc maxelements r cur rest (kind.type.byte :: (text ++ crlf ++ more))
      (processItem ffc (defaultFunctions Double) r) := by
  have readsLine : kind.type.readsLine = true := by cases kind <;> rfl
  have isAggregate : kind.type.isAggregate = true := by cases kind <;> rfl
  simp only [slipLine, readsLine, isAggregate, Bool.true_and, Bool.or_eq_false_iff,
    decide_eq_false_iff_not] at clean
  obtain ⟨⟨⟨fits, _⟩, _⟩, few⟩ := clean
  have short : text.length + 2 < 2 ^ 31 := by omega
  have unread := unread_typed atValue.unread cur rest kind.type
  cases parsed : string2ll text with
  | none =>
      have size := toSize_of_small (show text.length < 2 ^ 31 by omega)
      have line := readLine_text (r := growForChild (typed r cur rest kind.type))
        (by rw [(growForChild_fields _).1, unread]) ends short
      rw [processItem_of_value atValue, kind.processTypedItem_eq,
        processAggregateItem_of_line _ rfl line, size, List.append_assoc, List.take_left, parsed]
      exact .fails rfl
  | some elements =>
      obtain ⟨inRange, rfl⟩ := (string2ll_eq_some_iff text elements).mp parsed
      rw [parsed] at few
      simp only [decide_eq_false_iff_not, kind.childrenPerElement_eq] at few
      by_cases outOfRange : elements < -1 ∨ (r.maxelements > 0 ∧ elements > r.maxelements)
      · obtain ⟨tasks, header⟩ := processAggregateItem_of_header rfl inRange unread
        rw [processItem_of_value atValue, kind.processTypedItem_eq, header,
          processAggregateHeader_of_outOfRange _ (by exact outOfRange)]
        exact .fails rfl
      by_cases null : elements = -1
      · subst null
        obtain ⟨tasks, read⟩ := processItem_null ffc (.aggregate kind) atValue
        rw [read]
        have split : kind.type.byte :: (Decimal.ofInt (-1) ++ crlf ++ more) =
            (kind.type.byte :: (Decimal.ofInt (-1) ++ crlf)) ++ more := by simp
        have length : (kind.type.byte :: (Decimal.ofInt (-1) ++ crlf)).length = 5 := by
          simp [header_minus_one, crlf]
        rw [← length]
        exact .value split ⟨.null (.aggregate kind), trivial, trivial⟩
      obtain ⟨count, rfl⟩ : ∃ count : Nat, elements = count := ⟨elements.toNat, by omega⟩
      have admitted : Admitted maxelements count := by
        intro positive
        rw [← limit] at positive ⊢
        omega
      have countable : count * kind.arity ≤ 2 ^ 31 := by
        have cast : ((count * kind.arity : Nat) : Int) ≤ ((2 ^ 31 : Nat) : Int) := by
          push_cast
          omega
        exact Int.ofNat_le.mp cast
      have small : count * kind.arity ≤ llongMax := by
        unfold llongMax
        omega
      rw [ofInt_natCast] at atValue ⊢
      obtain ⟨tasks, read⟩ := processItem_aggregate ffc (limit ▸ admitted) small atValue
      rw [read]
      have split : kind.type.byte :: (Decimal.ofNat count ++ crlf ++ more) =
          aggregateHeader kind count ++ more := by simp [aggregateHeader]
      have length : (aggregateHeader kind count).length = (Decimal.ofNat count).length + 3 := by
        simp [aggregateHeader, crlf]
      rw [← length]
      by_cases empty : count = 0
      · subst empty
        rw [if_pos rfl]
        have frame : Frame ffc maxelements (.aggregate kind []) (aggregateHeader kind 0 ++ []) :=
          .aggregate (by simp) admitted (Nat.zero_le _) .nil
        rw [List.append_nil] at frame
        exact .value split ⟨frame, trivial, Nat.zero_le _, trivial⟩
      · rw [if_neg empty]
        exact .header split (Nat.pos_of_ne_zero empty) admitted countable

/-- An unfinished value waits for more bytes. -/
theorem processItem_of_unfinished (ffc : DoubleParser Double)
    {r : ValkeyReader (ReplyHeap Double) Nat} {cur : ReadTask Nat}
    {rest : List (ReadTask Nat)} {input : Bytes} (unfinished : Unfinished input)
    (atValue : AtValue r cur rest input) :
    ∃ waiting, processItem ffc (defaultFunctions Double) r = (.err, waiting) ∧
      waiting.err = none ∧ waiting.task ≠ [] := by
  cases unfinished with
  | empty =>
      exact ⟨r, processItem_of_empty ffc _ atValue.task atValue.unknown atValue.unread,
        atValue.alive, by simp [atValue.task]⟩
  | @line type text noEnd =>
      have inside := atValue.typed_inside type
      have missing : seekNewline (typed r cur rest type).unread = none := by
        rw [unread_typed atValue.unread, noEnd]
      have self : Aligned [] (typed r cur rest type) (typed r cur rest type) :=
        ⟨rfl, (List.append_nil _).symm, inside, inside⟩
      rw [processItem_of_value atValue]
      rcases processTypedItem_resumes ffc (defaultFunctions Double) self rfl type
        (by simp [missing]) with ⟨_, offset, found⟩ | ⟨waiting, _, waits, alive, task, _⟩
      · simp [missing] at found
      · exact ⟨waiting, waits, alive.trans atValue.alive, by simp [task]⟩
  | @payload type length arrived bulk small short =>
      have unread := unread_typed atValue.unread cur rest type
      rw [← ofInt_natCast] at unread
      have inRange : InLongLong (length : Int) := by
        unfold InLongLong
        unfold llongMax at small
        omega
      obtain ⟨found, taken, parsed⟩ := header_parsed inRange unread
      have waits : BulkWaits (typed r cur rest type) (Decimal.ofInt (length : Int)).length := by
        refine ⟨length, by rw [taken, parsed], by omega, ?_⟩
        rw [unread]
        simp only [List.length_append, crlf, List.length_cons, List.length_nil,
          Int.toNat_natCast]
        omega
      have processed : processTypedItem ffc (defaultFunctions Double) (typed r cur rest type)
          type = processBulkItem (defaultFunctions Double) (typed r cur rest type) := by
        rcases bulk with rfl | rfl <;> rfl
      rw [processItem_of_value atValue, processed,
        processBulkItem_of_waits _ (atValue.typed_inside type) found waits]
      exact ⟨_, rfl, atValue.alive, by simp⟩

/-- Every item that is not a slip is one of the four. -/
theorem itemResult_of_clean (ffc : DoubleParser Double) {r : ValkeyReader (ReplyHeap Double) Nat}
    {cur : ReadTask Nat} {rest : List (ReadTask Nat)} {input : Bytes}
    (limit : r.maxelements = maxelements)
    (clean : ∀ type text more, EndsAtFirstNewline text →
      input = type.byte :: (text ++ crlf ++ more) → slipLine type text = false)
    (atValue : AtValue r cur rest input) :
    ItemResult ffc maxelements r cur rest input (processItem ffc (defaultFunctions Double) r) := by
  have waits : Unfinished input → ItemResult ffc maxelements r cur rest input
      (processItem ffc (defaultFunctions Double) r) := by
    intro unfinished
    obtain ⟨waiting, read, alive, busy⟩ := processItem_of_unfinished ffc unfinished atValue
    rw [read]
    exact .waits unfinished alive busy
  cases input with
  | nil => exact waits .empty
  | cons byte bytes =>
      cases kind : typeOfByte byte with
      | none =>
          rw [processItem_of_byte ffc _ atValue.task atValue.unknown atValue.unread, kind]
          exact .fails rfl
      | some type =>
          obtain rfl := byte_of_typeOfByte kind
          cases found : seekNewline bytes with
          | none => exact waits (.line found)
          | some offset =>
              have split := eq_take_newline_drop found
              have ends := endsAtFirstNewline_take found
              have split : bytes = bytes.take offset ++ crlf ++ bytes.drop (offset + 2) := by
                simpa [crlf] using split
              have cleanLine := clean type _ _ ends (congrArg (type.byte :: ·) split)
              rw [split] at atValue ⊢
              cases type with
              | error | status | integer | double | nil | bool | bignum =>
                  exact itemResult_line rfl ends cleanLine atValue
              | string => exact itemResult_bulk (Or.inl rfl) ends atValue
              | verb => exact itemResult_bulk (Or.inr rfl) ends atValue
              | array => exact itemResult_aggregate .array limit ends cleanLine atValue
              | map => exact itemResult_aggregate .map limit ends cleanLine atValue
              | attr => exact itemResult_aggregate .attr limit ends cleanLine atValue
              | set => exact itemResult_aggregate .set limit ends cleanLine atValue
              | push => exact itemResult_aggregate .push limit ends cleanLine atValue

end Items

/-! ## Replies -/

/-- The open tasks of a reader that is inside the given levels. -/
inductive Stacked (size : Nat) : List (Nat × Nat) → List (ReadTask Nat) → Prop
  | root {cur : ReadTask Nat} : Stacked size [] [cur]
  | level {done total : Nat} {levels : List (Nat × Nat)} {cur prv : ReadTask Nat}
      {rest : List (ReadTask Nat)} (idx : cur.idx = done) (elements : prv.elements = total)
      (inHeap : ∀ obj, prv.obj = some obj → obj < size)
      (outer : Stacked size levels (prv :: rest)) :
      Stacked size ((done, total) :: levels) (cur :: prv :: rest)

namespace Stacked

variable {ffc : DoubleParser Double} {maxelements : Int} {size : Nat}
  {levels : List (Nat × Nat)} {cur : ReadTask Nat} {rest : List (ReadTask Nat)}

theorem grow {tasks : List (ReadTask Nat)} (stacked : Stacked size levels tasks) (larger : Nat)
    (more : size ≤ larger) : Stacked larger levels tasks := by
  induction stacked with
  | root => exact .root
  | level idx elements inHeap outer induction =>
      exact .level idx elements
        (fun obj found => Nat.lt_of_lt_of_le (inHeap obj found) more) induction

theorem attached {heap : ReplyHeap Double} (stacked : Stacked heap.length levels (cur :: rest)) :
    Attached heap rest.head? := by
  cases stacked with
  | root => exact fun obj found => by simp at found
  | level idx elements inHeap outer => exact fun obj found => inHeap obj (by simpa using found)

/-- A value that others follow in its aggregate. -/
theorem advance {done total : Nat} (stacked : Stacked size ((done, total) :: levels) (cur :: rest))
    (others : done + 1 < total) (small : total ≤ 2 ^ 31) :
    ∃ next, moveToNextTask (cur :: rest) = next :: rest ∧ next.type = none ∧
      Stacked size ((done + 1, total) :: levels) (next :: rest) := by
  cases stacked with
  | @level _ _ _ _ prv rest idx elements inHeap outer =>
      have notLast : ¬cur.idx = prv.elements - 1 := by omega
      have counted : toInt32 (cur.idx + 1) = (done + 1 : Nat) := by
        rw [idx, ← toInt32_of_small (show done + 1 < 2 ^ 31 by omega)]
        push_cast
        rfl
      exact ⟨_, by rw [moveToNextTask, if_neg notLast], rfl, .level counted elements inHeap outer⟩

/-- A value ends the reply or is followed by another value. -/
theorem finish {before item : Bytes} {tree : ReplyTree}
    (stacked : Stacked size levels (cur :: rest)) (opens : Opens ffc maxelements levels before)
    (accepted : Accepted ffc maxelements tree item) :
    (moveToNextTask (cur :: rest) = [] ∧
        ∃ whole, Accepted ffc maxelements whole (before ++ item)) ∨
      ∃ nextLevels next nextRest, moveToNextTask (cur :: rest) = next :: nextRest ∧
        next.type = none ∧ Stacked size nextLevels (next :: nextRest) ∧
        Opens ffc maxelements nextLevels (before ++ item) := by
  generalize tasksEq : cur :: rest = tasks at stacked
  induction stacked generalizing cur rest before item tree with
  | root =>
      obtain ⟨rfl, rfl⟩ := List.cons.inj tasksEq
      cases opens
      exact Or.inl ⟨rfl, tree, accepted⟩
  | @level done total levels cur' prv rest' idx elements inHeap outer induction =>
      by_cases last : cur'.idx = prv.elements - 1
      · rw [moveToNextTask, if_pos last]
        have closes : done + 1 = total := by omega
        obtain ⟨start, whole, wholeBytes, outerOpens, wholeAccepted, same⟩ :=
          opens.close accepted closes
        rw [same]
        exact induction outerOpens wholeAccepted rfl
      · right
        obtain ⟨inside, small⟩ := opens.bound
        have others : done + 1 < total := by omega
        have here : Stacked size ((done, total) :: levels) (cur' :: prv :: rest') :=
          .level idx elements inHeap outer
        obtain ⟨next, moved, unknown, nextStacked⟩ := here.advance others small
        exact ⟨_, next, _, moved, unknown, nextStacked, .value opens accepted others⟩

theorem congr_idx {other : ReadTask Nat} (stacked : Stacked size levels (cur :: rest))
    (idx : other.idx = cur.idx) : Stacked size levels (other :: rest) := by
  cases stacked with
  | root => exact .root
  | level curIdx elements inHeap outer =>
      exact .level (idx.trans curIdx) elements inHeap outer

end Stacked

section Replies

variable {ffc : DoubleParser Double} {maxelements : Int}

/-- How the items of one reply end. -/
inductive LoopResult (ffc : DoubleParser Double) (maxelements : Int) (input : Bytes)
    (last : ValkeyReader (ReplyHeap Double) Nat) : Prop
  | replied {tree : ReplyTree} {item : Bytes} (alive : last.err = none) (done : last.task = [])
      (accepted : Accepted ffc maxelements tree item) (split : input = item ++ last.unread) :
      LoopResult ffc maxelements input last
  | waits {levels : List (Nat × Nat)} {before line : Bytes} (alive : last.err = none)
      (busy : last.task ≠ []) (opens : Opens ffc maxelements levels before)
      (unfinished : Unfinished line) (split : input = before ++ line) :
      LoopResult ffc maxelements input last
  | fails (error : last.err = some .protocol) : LoopResult ffc maxelements input last

/-- The reader after a value that another value follows. -/
theorem AtValue.after {r : ValkeyReader (ReplyHeap Double) Nat} {cur next : ReadTask Nat}
    {rest nextRest : List (ReadTask Nat)} {bytes more : Bytes} {levels : List (Nat × Nat)}
    (atValue : AtValue r cur rest (bytes ++ more)) {objects : ReplyHeap Double}
    {obj : Option Nat} {tasks : Nat}
    (moved : moveToNextTask ({ cur with obj := obj } :: rest) = next :: nextRest)
    (unknown : next.type = none) (stacked : Stacked r.heap.length levels (next :: nextRest)) :
    AtValue (afterValue r cur rest bytes.length objects obj tasks) next nextRest more ∧
      Stacked (afterValue r cur rest bytes.length objects obj tasks).heap.length levels
        (next :: nextRest) := by
  obtain ⟨room, unread⟩ := atValue.room bytes
  have larger := stacked.grow (afterValue r cur rest bytes.length objects obj tasks).heap.length
    (by simp [afterValue])
  exact ⟨⟨atValue.alive, moved, unknown, unread, room, larger.attached⟩, larger⟩

/-- The reader at the first value of an aggregate. -/
theorem AtValue.open {r : ValkeyReader (ReplyHeap Double) Nat} {cur : ReadTask Nat}
    {rest : List (ReadTask Nat)} {kind : AggregateKind} {count : Nat} {more : Bytes}
    {levels : List (Nat × Nat)} (atValue : AtValue r cur rest (aggregateHeader kind count ++ more))
    (tasks : Nat) (stacked : Stacked r.heap.length levels (cur :: rest)) :
    ∃ first outer, AtValue (opened r cur rest kind (count * kind.arity)
        (aggregateHeader kind count).length tasks) first outer more ∧
      Stacked (opened r cur rest kind (count * kind.arity)
        (aggregateHeader kind count).length tasks).heap.length
          ((0, count * kind.arity) :: levels) (first :: outer) := by
  obtain ⟨room, unread⟩ := atValue.room (aggregateHeader kind count)
  have larger := stacked.grow (opened r cur rest kind (count * kind.arity)
    (aggregateHeader kind count).length tasks).heap.length (by simp [opened])
  have inner : Stacked (opened r cur rest kind (count * kind.arity)
      (aggregateHeader kind count).length tasks).heap.length
      ((0, count * kind.arity) :: levels) (opened r cur rest kind (count * kind.arity)
        (aggregateHeader kind count).length tasks).task :=
    .level rfl rfl (fun obj found => by
      obtain rfl := Option.some.inj found
      simp [opened]) (larger.congr_idx rfl)
  exact ⟨_, _, ⟨atValue.alive, rfl, rfl, unread, room, inner.attached⟩, inner⟩

theorem processItems_loopResult (ffc : DoubleParser Double) (fuel : Nat)
    {r : ValkeyReader (ReplyHeap Double) Nat} {cur : ReadTask Nat} {rest : List (ReadTask Nat)}
    {before input : Bytes} {levels : List (Nat × Nat)} (limit : r.maxelements = maxelements)
    (atValue : AtValue r cur rest input)
    (stacked : Stacked r.heap.length levels (cur :: rest))
    (opens : Opens ffc maxelements levels before) (enough : input.length < fuel)
    (noSlip : NoSlip ffc maxelements (before ++ input)) :
    LoopResult ffc maxelements (before ++ input)
      (processItems ffc (defaultFunctions Double) fuel r) := by
  induction fuel generalizing r cur rest before input levels with
  | zero => exact absurd enough (Nat.not_lt_zero _)
  | succ fuel induction =>
      have busy : r.task ≠ [] := by simp [atValue.task]
      rw [processItems, if_neg busy]
      have result := itemResult_of_clean ffc limit
        (fun type text more ends split =>
          noSlip levels before type text more opens ends (by rw [split])) atValue
      generalize processItem ffc (defaultFunctions Double) r = processed at result ⊢
      cases result with
      | @value tree item more objects tasks split accepted =>
          subst split
          dsimp only
          have positive := List.length_pos_iff.mpr accepted.frame.ne_nil
          rw [List.length_append] at enough
          rw [← List.append_assoc] at noSlip ⊢
          rcases stacked.finish opens accepted with ⟨done, whole, wholeAccepted⟩ |
            ⟨nextLevels, next, nextRest, moved, unknown, nextStacked, nextOpens⟩
          · rw [processItems_of_done ffc _ fuel done]
            exact .replied atValue.alive done wholeAccepted
              (congrArg (before ++ item ++ ·) (atValue.room item).2.symm)
          · obtain ⟨atNext, larger⟩ := atValue.after moved unknown nextStacked
            exact induction limit atNext larger nextOpens (by omega) noSlip
      | @header kind count more tasks split positive admitted countable =>
          subst split
          dsimp only
          rw [List.length_append] at enough
          rw [← List.append_assoc] at noSlip ⊢
          obtain ⟨first, outer, atFirst, inner⟩ := atValue.open tasks stacked
          exact induction limit atFirst inner (.header opens positive admitted countable)
            (by simp only [aggregateHeader, List.length_cons] at enough; omega) noSlip
      | waits unfinished alive stillBusy =>
          exact .waits alive stillBusy opens unfinished rfl
      | fails error => exact .fails error

/-- Reading the bytes before a value leads to it. -/
theorem Opens.steps {levels : List (Nat × Nat)} {before : Bytes}
    (opens : Opens ffc maxelements levels before) (more : Bytes)
    {r : ValkeyReader (ReplyHeap Double) Nat} (limit : r.maxelements = maxelements)
    (atValue : AtValue r rootTask [] (before ++ more)) :
    ∃ last cur rest, Steps ffc (defaultFunctions Double) r last ∧
      last.maxelements = maxelements ∧ AtValue last cur rest more ∧
      Stacked last.heap.length levels (cur :: rest) := by
  induction opens generalizing more with
  | root => exact ⟨r, rootTask, [], .refl, limit, atValue, .root⟩
  | @header levels before kind count opens positive admitted countable induction =>
      rw [List.append_assoc] at atValue
      obtain ⟨last, cur, rest, steps, lastLimit, atLast, stacked⟩ := induction _ atValue
      have small : count * kind.arity ≤ llongMax := by
        unfold llongMax
        omega
      have header : AtValue last cur rest
          (kind.type.byte :: (Decimal.ofNat count ++ crlf ++ more)) := atLast
      obtain ⟨tasks, item⟩ := processItem_aggregate ffc (lastLimit ▸ admitted) small header
      have length : (aggregateHeader kind count).length = (Decimal.ofNat count).length + 3 := by
        simp [aggregateHeader, crlf]
      rw [if_neg (Nat.pos_iff_ne_zero.mp positive), ← length] at item
      obtain ⟨first, outer, atFirst, inner⟩ := atLast.open tasks stacked
      have inLine := header.shortCount small kind.arity_pos
      refine ⟨_, first, outer, steps.trans (.step item inLine ?_ .refl), lastLimit, atFirst, inner⟩
      rw [atFirst.unread, atLast.unread, List.length_append]
      omega
  | @value levels before bytes done total tree opens accepted others induction =>
      rw [List.append_assoc] at atValue
      obtain ⟨last, cur, rest, steps, lastLimit, atLast, stacked⟩ := induction _ atValue
      obtain ⟨obj, tasks, later⟩ := accepted.frame.steps accepted.shortLines
        accepted.countable last cur rest more lastLimit atLast
      have sameIdx : Stacked last.heap.length ((done, total) :: levels)
          ({ cur with obj := obj } :: rest) := stacked.congr_idx rfl
      obtain ⟨next, moved, unknown, nextStacked⟩ := sameIdx.advance others opens.bound.2
      obtain ⟨atNext, larger⟩ := atLast.after moved unknown nextStacked
      exact ⟨_, next, rest, steps.trans later, lastLimit, atNext, larger⟩

theorem Steps.processItems_of_waits {Heap Obj : Type} {fn : ReplyObjectFunctions Heap Obj Double}
    {r last waiting : ValkeyReader Heap Obj} (steps : Steps ffc fn r last)
    (waits : processItem ffc fn last = (.err, waiting)) (busy : last.task ≠ []) {fuel : Nat}
    (enough : r.unread.length < fuel) : processItems ffc fn fuel r = waiting := by
  induction steps generalizing fuel with
  | @refl r =>
      cases fuel with
      | zero => exact absurd enough (Nat.not_lt_zero _)
      | succ fuel => rw [processItems, if_neg busy, waits]
  | @step r next last item short shorter steps induction =>
      cases fuel with
      | zero => exact absurd enough (Nat.not_lt_zero _)
      | succ fuel =>
          have running : r.task ≠ [] := by
            intro idle
            simp [processItem, idle] at item
          rw [processItems, if_neg running, item]
          exact induction waits busy (by omega)

end Replies

/-! ## Verdicts -/

/-- A call returns a reply and leaves the bytes after its frame. -/
def Emits (result : Status × Option Nat × ValkeyReader (ReplyHeap Double) Nat) (rest : Bytes) :
    Prop :=
  result.1 = .ok ∧ result.2.1 ≠ none ∧ result.2.2.unread = rest

def AsksForMore (result : Status × Option Nat × ValkeyReader (ReplyHeap Double) Nat) : Prop :=
  result.1 = .ok ∧ result.2.1 = none

def RaisesProtocolError (result : Status × Option Nat × ValkeyReader (ReplyHeap Double) Nat) :
    Prop :=
  result.1 = .err ∧ result.2.2.err = some .protocol

section Verdicts

variable {ffc : DoubleParser Double} {r : ValkeyReader (ReplyHeap Double) Nat}

theorem atValue_startReply (ready : Ready r) (idle : r.task = []) :
    AtValue (startReply r) rootTask [] r.unread := by
  rw [startReply, if_pos idle]
  exact ⟨ready.alive, rfl, rfl, rfl, ready.inside, fun _ found => by simp at found⟩

theorem emits_of_accepted (ready : Ready r) (idle : r.task = []) {tree : ReplyTree}
    {bytes rest : Bytes} (accepted : Accepted ffc r.maxelements tree bytes)
    (split : r.unread = bytes ++ rest) :
    Emits (valkeyReaderGetReply ffc (defaultFunctions Double) r) rest := by
  obtain ⟨tasks, returned⟩ := valkeyReaderGetReply_frame rest accepted.frame
    accepted.shortLines accepted.countable r ready.alive idle rfl ready.inside split
  have atValue := atValue_startReply ready idle
  rw [split] at atValue
  have unread := (atValue.room bytes).2
  rw [(startReply_fields r).2.2.2.1, (startReply_fields r).2.2.2.2] at unread
  rw [returned]
  exact ⟨rfl, by simp, unread⟩

theorem asksForMore_of_opens (ready : Ready r) (idle : r.task = []) {levels : List (Nat × Nat)}
    {before line : Bytes} (opens : Opens ffc r.maxelements levels before)
    (unfinished : Unfinished line) (split : r.unread = before ++ line) :
    AsksForMore (valkeyReaderGetReply ffc (defaultFunctions Double) r) := by
  unfold valkeyReaderGetReply
  rw [if_neg (not_not.mpr ready.alive)]
  by_cases noBytes : r.buf.length = 0
  · rw [if_pos noBytes]
    exact ⟨rfl, rfl⟩
  rw [if_neg noBytes]
  have atValue := atValue_startReply ready idle
  rw [split] at atValue
  have limit : (startReply r).maxelements = r.maxelements := by rw [startReply, if_pos idle]
  obtain ⟨last, cur, rest, steps, _, atLast, _⟩ := opens.steps line limit atValue
  obtain ⟨waiting, waits, alive, busy⟩ := processItem_of_unfinished ffc unfinished atLast
  have processed := steps.processItems_of_waits waits (by simp [atLast.task])
    (show (startReply r).unread.length < r.unread.length + 1 by
      rw [(startReply_fields r).1]
      omega)
  simp only [processed, alive, ne_eq, not_true_eq_false, if_false, if_neg busy]
  exact ⟨rfl, rfl⟩

/-- The three ends of a call, as what the buffer is. -/
theorem valkeyReaderGetReply_verdict (ready : Ready r) (idle : r.task = [])
    (noSlip : NoSlip ffc r.maxelements r.unread) :
    (∃ tree bytes, Accepted ffc r.maxelements tree bytes ∧ r.unread =
        bytes ++ (valkeyReaderGetReply ffc (defaultFunctions Double) r).2.2.unread) ∨
      (∃ levels before line, Opens ffc r.maxelements levels before ∧ Unfinished line ∧
        r.unread = before ++ line) ∨
      RaisesProtocolError (valkeyReaderGetReply ffc (defaultFunctions Double) r) := by
  by_cases noBytes : r.buf.length = 0
  · have empty : r.unread = [] := by simp [unread, List.length_eq_zero_iff.mp noBytes]
    exact Or.inr (Or.inl ⟨[], [], [], .root, .empty, empty⟩)
  have limit : (startReply r).maxelements = r.maxelements := by rw [startReply, if_pos idle]
  have result := processItems_loopResult ffc (r.unread.length + 1) limit
    (atValue_startReply ready idle) .root .root (Nat.lt_succ_self _) noSlip
  have unfolded : valkeyReaderGetReply ffc (defaultFunctions Double) r =
      let r := processItems ffc (defaultFunctions Double) (r.unread.length + 1) (startReply r)
      if r.err ≠ none then (.err, none, r)
      else if r.task = [] then (.ok, r.reply, { r with reply := none })
      else (.ok, none, r) := by
    rw [valkeyReaderGetReply, if_neg (not_not.mpr ready.alive), if_neg noBytes]
  rw [unfolded]
  generalize processItems ffc (defaultFunctions Double) (r.unread.length + 1) (startReply r) =
    last at result ⊢
  cases result with
  | @replied tree item alive done accepted split =>
      refine Or.inl ⟨tree, item, accepted, ?_⟩
      simpa [alive, done, unread] using split
  | waits alive busy opens unfinished split =>
      exact Or.inr (Or.inl ⟨_, _, _, opens, unfinished, split⟩)
  | fails error =>
      refine Or.inr (Or.inr ?_)
      simp [error, RaisesProtocolError]

end Verdicts

/-- A string of one byte with two other bytes after it, and the start of a line. -/
def looseString : Bytes := ascii "$1\r\naXY:"

def looseReader : ValkeyReader (ReplyHeap String) Nat :=
  (valkeyReaderFeed (defaultFunctions String) (newReader Nat [] readerMaxArrayElements)
    looseString).2

theorem ready_looseReader : Ready looseReader :=
  ⟨rfl, by decide, fun two => absurd two (by decide)⟩

theorem noSlip_looseReader :
    NoSlip DoubleParser.namesOnly looseReader.maxelements looseReader.unread := by
  intro levels before type text more opens ends split
  rcases opens.starts with ⟨_, rfl⟩ | ⟨kind, tail, rfl⟩
  · have string : type = .string := by
      have first : '$'.toUInt8 = type.byte := Option.some.inj (congrArg List.head? split)
      revert first
      cases type <;> decide
    subst string
    rfl
  · have first : '$'.toUInt8 = kind.type.byte := Option.some.inj (congrArg List.head? split)
    exact absurd first (by cases kind <;> decide)

theorem accepted_looseString :
    Accepted DoubleParser.namesOnly readerMaxArrayElements (.string (ascii "a"))
      (ascii "$1\r\naXY") := by
  have frame : Frame DoubleParser.namesOnly readerMaxArrayElements (.string (ascii "a"))
      (ReplyType.string.byte ::
        (Decimal.ofNat (ascii "a").length ++ crlf ++ (ascii "a" ++ ascii "XY"))) :=
    .payload .string (by decide) rfl
  exact ⟨frame, trivial, trivial⟩

end Libvalkey
