import Mathlib.Algebra.Group.Int.Defs
import Libvalkey.Foundation.Bytes

/-! # Reader state

The data of `read.h`: reply types, read tasks, the functions that build reply
objects and the reader itself. -/

namespace Libvalkey

/-- `VALKEY_OK` and `VALKEY_ERR`. -/
inductive Status
  | ok
  | err
  deriving DecidableEq, Repr

/-- The `VALKEY_ERR_*` codes. An `err` field holds `none` for zero. -/
inductive ErrorType
  | io
  | other
  | eof
  | protocol
  | oom
  | timeout
  | clusterTooManyRetries
  deriving DecidableEq, Repr

/-- The `VALKEY_REPLY_*` types. -/
inductive ReplyType
  | string
  | array
  | integer
  | nil
  | status
  | error
  | double
  | bool
  | map
  | set
  | attr
  | push
  | bignum
  | verb
  deriving DecidableEq, Repr

/-- `valkeyReadTask`. The type is `none` for -1. The parent is not stored: the
parent of an open task is the task below it. -/
structure ReadTask (Obj : Type) where
  type : Option ReplyType
  elements : Int
  idx : Int
  obj : Option Obj
  deriving DecidableEq, Repr

/-- `valkeyReplyObjectFunctions`. Each function gets the heap it allocates from,
the task and the parent of the task, and returns `none` for `NULL`. Strings are
passed with their length as a `size_t`. -/
structure ReplyObjectFunctions (Heap Obj Double : Type) where
  createString : Heap → ReadTask Obj → Option (ReadTask Obj) → Bytes → Nat → Option Obj × Heap
  createArray : Heap → ReadTask Obj → Option (ReadTask Obj) → Nat → Option Obj × Heap
  createInteger : Heap → ReadTask Obj → Option (ReadTask Obj) → Int → Option Obj × Heap
  createDouble : Heap → ReadTask Obj → Option (ReadTask Obj) → Double → Bytes → Nat →
    Option Obj × Heap
  createNil : Heap → ReadTask Obj → Option (ReadTask Obj) → Option Obj × Heap
  createBool : Heap → ReadTask Obj → Option (ReadTask Obj) → Bool → Option Obj × Heap
  freeObject : Heap → Obj → Heap

/-- The vendored parser of doubles: the value and the number of bytes used when
its outcome is `FFC_OUTCOME_OK`. -/
structure DoubleParser (Double : Type) where
  infinity : Double
  negInfinity : Double
  nan : Double
  isfinite : Double → Bool
  fromChars : Bytes → Option (Double × Nat)

/-- A parser that accepts no number. The names of the infinities and of NaN do
not go through it. -/
def DoubleParser.namesOnly : DoubleParser String where
  infinity := "inf"
  negInfinity := "-inf"
  nan := "nan"
  isfinite := fun _ => false
  fromChars := fun _ => none

/-- `valkeyReader`. `buf` holds the `len` bytes of the buffer, `task` the open
tasks with the current one first, so `ridx` is one less than its length, and
`tasks` counts the allocated tasks. `overflow` is not in the code: it says that
a signed addition has overflowed, which leaves the behaviour undefined. -/
structure ValkeyReader (Heap Obj : Type) where
  err : Option ErrorType
  errstr : String
  buf : Bytes
  pos : Nat
  maxelements : Int
  task : List (ReadTask Obj)
  tasks : Nat
  reply : Option Obj
  heap : Heap
  overflow : Bool
  deriving DecidableEq

namespace ValkeyReader

variable {Heap Obj : Type}

def ridx (r : ValkeyReader Heap Obj) : Int := r.task.length - 1

/-- The bytes that have not been consumed. -/
def unread (r : ValkeyReader Heap Obj) : Bytes := r.buf.drop r.pos

end ValkeyReader

/-- `VALKEY_READER_STACK_SIZE` -/
def readerStackSize : Nat := 9

/-- `VALKEY_READER_MAX_ARRAY_ELEMENTS` -/
def readerMaxArrayElements : Int := 2 ^ 32 - 1

/-- `valkeyReaderCreateWithFunctions`, with all allocations made. -/
def valkeyReaderCreate {Heap : Type} (Obj : Type) (heap : Heap) : ValkeyReader Heap Obj where
  err := none
  errstr := ""
  buf := []
  pos := 0
  maxelements := readerMaxArrayElements
  task := []
  tasks := readerStackSize
  reply := none
  heap := heap
  overflow := false

/-- A new reader with a limit on the elements of an aggregate. -/
def newReader {Heap : Type} (Obj : Type) (heap : Heap) (maxelements : Int) :
    ValkeyReader Heap Obj :=
  { valkeyReaderCreate Obj heap with maxelements := maxelements }

end Libvalkey
