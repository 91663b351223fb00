import Libvalkey.Reader.Scan
import Libvalkey.Reader.Types

/-! # The reply reader

`read.c`: the functions that process one item, the loop that drains the buffer
into a reply, and the two ways to feed bytes. -/

namespace Libvalkey

variable {Heap Obj Double : Type}

/-- A conversion to `int`. -/
def toInt32 (value : Int) : Int := value.bmod (2 ^ 32)

/-- A conversion from a signed integer to `size_t`. -/
def toSize (value : Int) : Nat := (value % 2 ^ 64).toNat

/-- The cursor after a step of `step` bytes. Offsets into a buffer are far below
`SIZE_MAX`, so only a step to before the buffer wraps around. -/
def moveCursor (pos : Nat) (step : Int) : Nat :=
  if 0 ≤ pos + step then (pos + step).toNat else toSize (pos + step)

section Errors

variable (fn : ReplyObjectFunctions Heap Obj Double)

def valkeyReaderSetError (r : ValkeyReader Heap Obj) (type : ErrorType) (str : String) :
    ValkeyReader Heap Obj :=
  { r with
    heap := match r.reply with
      | some reply => fn.freeObject r.heap reply
      | none => r.heap
    reply := none
    buf := []
    pos := 0
    task := []
    err := some type
    errstr := str }

def hexDigit (value : Nat) : Char :=
  if value < 10 then Char.ofNat (48 + value) else Char.ofNat (87 + value)

def chrtos (byte : UInt8) : String :=
  if byte = '\\'.toUInt8 ∨ byte = '"'.toUInt8 then String.ofList ['"', '\\',
    Char.ofNat byte.toNat, '"']
  else if byte = LF then "\"\\n\""
  else if byte = CR then "\"\\r\""
  else if byte = 9 then "\"\\t\""
  else if byte = 7 then "\"\\a\""
  else if byte = 8 then "\"\\b\""
  else if 32 ≤ byte ∧ byte ≤ 126 then String.ofList ['"', Char.ofNat byte.toNat, '"']
  else String.ofList
    ['"', '\\', 'x', hexDigit (byte.toNat / 16), hexDigit (byte.toNat % 16), '"']

def valkeyReaderSetErrorProtocolByte (r : ValkeyReader Heap Obj) (byte : UInt8) :
    ValkeyReader Heap Obj :=
  valkeyReaderSetError fn r .protocol
    ("Protocol error, got " ++ chrtos byte ++ " as reply type byte")

def valkeyReaderSetErrorOOM (r : ValkeyReader Heap Obj) : ValkeyReader Heap Obj :=
  valkeyReaderSetError fn r .oom "Out of memory"

end Errors

def readBytes (r : ValkeyReader Heap Obj) (bytes : Nat) :
    Option (Bytes × ValkeyReader Heap Obj) :=
  if bytes ≤ r.buf.length - r.pos then
    some (r.unread.take bytes, { r with pos := r.pos + bytes })
  else none

/-- The bytes from the cursor on, and the length of the line there as an `int`.
The length wraps around when the line is too long for an `int`, and so does the
step to the next line, whose addition then overflows. -/
def readLine (r : ValkeyReader Heap Obj) : Option (Bytes × Int × ValkeyReader Heap Obj) :=
  match seekNewline r.unread with
  | none => none
  | some offset =>
      let len := toInt32 offset
      some (r.unread, len,
        { r with
          pos := moveCursor r.pos (toInt32 (len + 2))
          overflow := r.overflow || decide (2 ^ 31 ≤ len + 2) })

/-- Pop the completed tasks and make the next item of the innermost open
aggregate the current task. -/
def moveToNextTask : List (ReadTask Obj) → List (ReadTask Obj)
  | [] => []
  | [_] => []
  | cur :: prv :: rest =>
      if cur.idx = prv.elements - 1 then moveToNextTask (prv :: rest)
      else
        { cur with type := none, elements := -1, idx := toInt32 (cur.idx + 1) } :: prv :: rest

/-! ## Line items -/

/-- The comparison of `strncasecmp` with a lower-case word of the same length. -/
def equalsIgnoreCase (text word : Bytes) : Bool :=
  text.map (fun byte => if 65 ≤ byte ∧ byte ≤ 90 then byte + 32 else byte) == word

def doubleValue (ffc : DoubleParser Double) (p : Bytes) (len : Int) : Option Double :=
  if len = 3 ∧ equalsIgnoreCase (p.take 3) (ascii "inf") then some ffc.infinity
  else if len = 4 ∧ equalsIgnoreCase (p.take 4) (ascii "-inf") then some ffc.negInfinity
  else if (len = 3 ∧ equalsIgnoreCase (p.take 3) (ascii "nan")) ∨
      (len = 4 ∧ equalsIgnoreCase (p.take 4) (ascii "-nan")) then some ffc.nan
  else
    match ffc.fromChars (p.take len.toNat) with
    | none => none
    | some (d, used) => if (used : Int) ≠ len ∨ ¬ffc.isfinite d then none else some d

/-- `strchr(str, c) != NULL`. The terminating NUL is part of the string. -/
def strchr (str : Bytes) (c : UInt8) : Bool := str.contains c || c == 0

/-- The loop over a big number: digits, with an optional minus sign first. -/
def isBignumText : Bytes → Bool
  | [] => true
  | first :: rest => (first == '-'.toUInt8 || Decimal.isDigit first) && rest.all Decimal.isDigit

/-- The object for a line, or the text of the protocol error. -/
def lineObject (ffc : DoubleParser Double) (fn : ReplyObjectFunctions Heap Obj Double)
    (heap : Heap) (cur : ReadTask Obj) (parent : Option (ReadTask Obj)) (p : Bytes) (len : Int) :
    Except String (Option Obj × Heap) :=
  match cur.type with
  | some .integer =>
      match string2ll (p.take (toSize len)) with
      | none => .error "Bad integer value"
      | some v => .ok (fn.createInteger heap cur parent v)
  | some .double =>
      match doubleValue ffc p len with
      | none => .error "Bad double value"
      | some d => .ok (fn.createDouble heap cur parent d (p.take (toSize len)) (toSize len))
  | some .nil =>
      if len ≠ 0 then .error "Bad nil value" else .ok (fn.createNil heap cur parent)
  | some .bool =>
      let first := p.headD 0
      if len ≠ 1 ∨ ¬strchr (ascii "tTfF") first then .error "Bad bool value"
      else .ok (fn.createBool heap cur parent (first == 't'.toUInt8 || first == 'T'.toUInt8))
  | some .bignum =>
      if isBignumText (p.take len.toNat) then
        .ok (fn.createString heap cur parent (p.take (toSize len)) (toSize len))
      else .error "Bad bignum value"
  | _ =>
      -- Type will be error or status.
      if (p.take len.toNat).any (fun byte => byte == CR || byte == LF) then
        .error "Bad simple string value"
      else .ok (fn.createString heap cur parent (p.take (toSize len)) (toSize len))

/-- Set the reply if this is the root object, and go on with the next task. -/
def completeItem (r : ValkeyReader Heap Obj) (obj : Obj) : ValkeyReader Heap Obj :=
  { r with
    reply := if r.ridx = 0 then some obj else r.reply
    task := moveToNextTask r.task }

/-- What follows the creation of an object in every kind of item: `NULL` means
out of memory, and an object completes the item. -/
def acceptObject (fn : ReplyObjectFunctions Heap Obj Double) (r : ValkeyReader Heap Obj)
    (created : Option Obj × Heap) : Status × ValkeyReader Heap Obj :=
  match created with
  | (none, heap) => (.err, valkeyReaderSetErrorOOM fn { r with heap := heap })
  | (some obj, heap) => (.ok, completeItem { r with heap := heap } obj)

def processLineItem (ffc : DoubleParser Double) (fn : ReplyObjectFunctions Heap Obj Double)
    (r : ValkeyReader Heap Obj) : Status × ValkeyReader Heap Obj :=
  match r.task with
  | [] => (.err, r)
  | cur :: rest =>
      match readLine r with
      | none => (.err, r)
      | some (p, len, r) =>
          match lineObject ffc fn r.heap cur rest.head? p len with
          | .error message => (.err, valkeyReaderSetError fn r .protocol message)
          | .ok created => acceptObject fn r created

/-! ## Bulk items -/

/-- The part of `processBulkItem` after the length line, which ends at `offset`. -/
def processBulkPayload (fn : ReplyObjectFunctions Heap Obj Double) (r : ValkeyReader Heap Obj)
    (cur : ReadTask Obj) (parent : Option (ReadTask Obj)) (offset : Nat) (len : Int) :
    Status × ValkeyReader Heap Obj :=
  if len = -1 then
    -- The nil object can always be created.
    acceptObject fn { r with pos := r.pos + (offset + 2) } (fn.createNil r.heap cur parent)
  else
    -- Only continue when the buffer contains the entire bulk item.
    let bytelen := offset + 2 + len.toNat + 2
    if r.pos + bytelen ≤ r.buf.length then
      if cur.type = some .verb ∧ (len < 4 ∨ r.unread[offset + 5]? ≠ some ':'.toUInt8) then
        (.err, valkeyReaderSetError fn r .protocol
          "Verbatim string 4 bytes of content type are missing or incorrectly encoded.")
      else
        acceptObject fn { r with pos := r.pos + bytelen }
          (fn.createString r.heap cur parent
            ((r.unread.drop (offset + 2)).take len.toNat) len.toNat)
    else (.err, r)

def processBulkItem (fn : ReplyObjectFunctions Heap Obj Double) (r : ValkeyReader Heap Obj) :
    Status × ValkeyReader Heap Obj :=
  match r.task with
  | [] => (.err, r)
  | cur :: rest =>
      match seekNewline r.unread with
      | none => (.err, r)
      | some offset =>
          match string2ll (r.unread.take offset) with
          | none => (.err, valkeyReaderSetError fn r .protocol "Bad bulk string length")
          | some len =>
              if len < -1 then
                (.err, valkeyReaderSetError fn r .protocol "Bulk string length out of range")
              else processBulkPayload fn r cur rest.head? offset len

/-! ## Aggregates -/

/-- `valkeyReaderGrow`, with all allocations made. -/
def valkeyReaderGrow (r : ValkeyReader Heap Obj) : ValkeyReader Heap Obj :=
  { r with tasks := r.tasks + readerStackSize }

/-- An aggregate needs one more task for its children. -/
def growForChild (r : ValkeyReader Heap Obj) : ValkeyReader Heap Obj :=
  if r.ridx = r.tasks - 1 then valkeyReaderGrow r else r

/-- The number of children of an aggregate: maps and attributes have two for
each element that the header counts. -/
def childrenPerElement : Option ReplyType → Nat
  | some .map => 2
  | some .attr => 2
  | _ => 1

/-- Make the first child of the new aggregate `obj` the current task. -/
def openAggregate (r : ValkeyReader Heap Obj) (cur : ReadTask Obj)
    (rest : List (ReadTask Obj)) (elements : Int) (obj : Obj) : ValkeyReader Heap Obj :=
  { r with
    reply := if r.ridx = 0 then some obj else r.reply
    task := { type := none, elements := -1, idx := 0, obj := none } ::
      { cur with elements := elements, obj := some obj } :: rest }

/-- The part of `processAggregateItem` after the header line. -/
def processAggregateHeader (fn : ReplyObjectFunctions Heap Obj Double)
    (r : ValkeyReader Heap Obj) (cur : ReadTask Obj) (rest : List (ReadTask Obj))
    (elements : Int) : Status × ValkeyReader Heap Obj :=
  if elements < -1 ∨ (r.maxelements > 0 ∧ elements > r.maxelements) then
    (.err, valkeyReaderSetError fn r .protocol "Multi-bulk length out of range")
  else if elements = -1 then
    acceptObject fn r (fn.createNil r.heap cur rest.head?)
  else if childrenPerElement cur.type = 2 ∧ elements > (llongMax / 2 : Nat) then
    (.err, valkeyReaderSetError fn r .protocol "Multi-bulk length out of range")
  else
    let elements := elements * childrenPerElement cur.type
    let created := fn.createArray r.heap cur rest.head? elements.toNat
    -- Modify task stack when there are more than 0 elements.
    if elements > 0 then
      match created with
      | (none, heap) => (.err, valkeyReaderSetErrorOOM fn { r with heap := heap })
      | (some obj, heap) => (.ok, openAggregate { r with heap := heap } cur rest elements obj)
    else acceptObject fn r created

def processAggregateItem (fn : ReplyObjectFunctions Heap Obj Double)
    (r : ValkeyReader Heap Obj) : Status × ValkeyReader Heap Obj :=
  match r.task with
  | [] => (.err, r)
  | cur :: rest =>
      match readLine (growForChild r) with
      | none => (.err, growForChild r)
      | some (p, len, r) =>
          match string2ll (p.take (toSize len)) with
          | none => (.err, valkeyReaderSetError fn r .protocol "Bad multi-bulk length")
          | some elements => processAggregateHeader fn r cur rest elements

/-! ## Items and replies -/

def typeOfByte (byte : UInt8) : Option ReplyType :=
  if byte = '-'.toUInt8 then some .error
  else if byte = '+'.toUInt8 then some .status
  else if byte = ':'.toUInt8 then some .integer
  else if byte = ','.toUInt8 then some .double
  else if byte = '_'.toUInt8 then some .nil
  else if byte = '$'.toUInt8 then some .string
  else if byte = '*'.toUInt8 then some .array
  else if byte = '%'.toUInt8 then some .map
  else if byte = '|'.toUInt8 then some .attr
  else if byte = '~'.toUInt8 then some .set
  else if byte = '#'.toUInt8 then some .bool
  else if byte = '='.toUInt8 then some .verb
  else if byte = '>'.toUInt8 then some .push
  else if byte = '('.toUInt8 then some .bignum
  else none

/-- The last `switch` of `processItem`. -/
def processTypedItem (ffc : DoubleParser Double) (fn : ReplyObjectFunctions Heap Obj Double)
    (r : ValkeyReader Heap Obj) (type : ReplyType) : Status × ValkeyReader Heap Obj :=
  match type with
  | .error | .status | .integer | .double | .nil | .bool | .bignum => processLineItem ffc fn r
  | .string | .verb => processBulkItem fn r
  | .array | .map | .attr | .set | .push => processAggregateItem fn r

def processItem (ffc : DoubleParser Double) (fn : ReplyObjectFunctions Heap Obj Double)
    (r : ValkeyReader Heap Obj) : Status × ValkeyReader Heap Obj :=
  match r.task with
  | [] => (.err, r)
  | cur :: rest =>
      match cur.type with
      | some type => processTypedItem ffc fn r type
      | none =>
          match readBytes r 1 with
          | none => (.err, r)
          | some (p, r) =>
              match typeOfByte (p.headD 0) with
              | none => (.err, valkeyReaderSetErrorProtocolByte fn r (p.headD 0))
              | some type =>
                  processTypedItem ffc fn
                    { r with task := { cur with type := some type } :: rest } type

/-- The `while` loop of `valkeyReaderGetReply`. -/
def processItems (ffc : DoubleParser Double) (fn : ReplyObjectFunctions Heap Obj Double) :
    Nat → ValkeyReader Heap Obj → ValkeyReader Heap Obj
  | 0, r => r
  | fuel + 1, r =>
      if r.task = [] then r
      else
        match processItem ffc fn r with
        | (.ok, r) => processItems ffc fn fuel r
        | (.err, r) => r

def rootTask : ReadTask Obj where
  type := none
  elements := -1
  idx := -1
  obj := none

/-- Set the first item to process when the stack is empty. -/
def startReply (r : ValkeyReader Heap Obj) : ValkeyReader Heap Obj :=
  if r.task = [] then { r with task := [rootTask] } else r

/-- The status, the reply and the reader after the call. An item takes at least
one byte, so the unread bytes bound the number of items. -/
def valkeyReaderGetReply (ffc : DoubleParser Double) (fn : ReplyObjectFunctions Heap Obj Double)
    (r : ValkeyReader Heap Obj) : Status × Option Obj × ValkeyReader Heap Obj :=
  if r.err ≠ none then (.err, none, r)
  else if r.buf.length = 0 then (.ok, none, r)
  else
    let r := processItems ffc fn (r.unread.length + 1) (startReply r)
    if r.err ≠ none then (.err, none, r)
    else if r.task = [] then (.ok, r.reply, { r with reply := none })
    else (.ok, none, r)

/-! ## Feeding -/

/-- `valkeyReaderGetReadBuf`: the compaction and the size checks. The writable
space it hands out is not part of the contents, and the allocations succeed. -/
def valkeyReaderGetReadBuf (fn : ReplyObjectFunctions Heap Obj Double)
    (r : ValkeyReader Heap Obj) (minbytes : Nat) : Status × ValkeyReader Heap Obj :=
  if r.err ≠ none then (.err, r)
  else if minbytes > ssizeMax then
    (.err, valkeyReaderSetError fn r .protocol "Requested buffer size too large")
  else if r.pos > 0 then
    if r.buf.length > ssizeMax then
      (.err, valkeyReaderSetError fn r .protocol "Reader buffer is too large")
    else (.ok, { r with buf := r.unread, pos := 0 })
  else (.ok, r)

def valkeyReaderCommitRead (r : ValkeyReader Heap Obj) (read : Bytes) : ValkeyReader Heap Obj :=
  { r with buf := r.buf ++ read }

def valkeyReaderFeed (fn : ReplyObjectFunctions Heap Obj Double) (r : ValkeyReader Heap Obj)
    (buf : Bytes) : Status × ValkeyReader Heap Obj :=
  if r.err ≠ none then (.err, r)
  else if buf.length ≥ 1 then
    match valkeyReaderGetReadBuf fn r buf.length with
    | (.err, r) => (.err, r)
    | (.ok, r) => (.ok, valkeyReaderCommitRead r buf)
  else (.ok, r)

end Libvalkey
