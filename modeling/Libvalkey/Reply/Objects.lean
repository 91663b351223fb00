import Libvalkey.Reader.Types
import Libvalkey.Reader.Scan

/-! # Reply objects

The functions of `valkey.c` that build replies for the reader. The heap is a
list of objects, and the address of an object is its position there. -/

namespace Libvalkey

variable {Double : Type}

/-- `valkeyReply`. `str` is `none` for `NULL`, `dval` is `none` while it is not
set and `vtype` leaves out the terminating NUL. -/
structure ReplyObject (Double : Type) where
  type : ReplyType
  integer : Int
  dval : Option Double
  len : Nat
  str : Option Bytes
  vtype : Bytes
  elements : Nat
  element : List (Option Nat)
  deriving DecidableEq, Repr

/-- The allocated objects. A freed one is `none`. -/
abbrev ReplyHeap (Double : Type) := List (Option (ReplyObject Double))

def createReplyObject (type : ReplyType) : ReplyObject Double where
  type := type
  integer := 0
  dval := none
  len := 0
  str := none
  vtype := []
  elements := 0
  element := []

namespace ReplyType

def isAggregate : ReplyType → Bool
  | .array | .map | .attr | .set | .push => true
  | _ => false

end ReplyType

/-- Free an object and, up to a depth, the objects below it. -/
def freeReplyObjectTo : Nat → ReplyHeap Double → Nat → ReplyHeap Double
  | 0, heap, _ => heap
  | depth + 1, heap, reply =>
      match heap[reply]?.join with
      | none => heap
      | some r =>
          let heap :=
            if r.type.isAggregate then
              r.element.foldl
                (fun heap child =>
                  match child with
                  | none => heap
                  | some child => freeReplyObjectTo depth heap child)
                heap
            else heap
          heap.set reply none

/-- An object is at most as deep as there are objects. -/
def freeReplyObject (heap : ReplyHeap Double) (reply : Nat) : ReplyHeap Double :=
  freeReplyObjectTo heap.length heap reply

/-- `parent->element[task->idx] = r` -/
def setElement (heap : ReplyHeap Double) (task : ReadTask Nat) (parent : Option (ReadTask Nat))
    (r : Nat) : ReplyHeap Double :=
  match parent.bind ReadTask.obj with
  | none => heap
  | some obj => heap.modify obj (Option.map fun parent =>
      { parent with element := parent.element.set task.idx.toNat (some r) })

/-- What every function does with its new object: allocate it and put it into the parent. -/
def addObject (heap : ReplyHeap Double) (task : ReadTask Nat) (parent : Option (ReadTask Nat))
    (r : ReplyObject Double) : Option Nat × ReplyHeap Double :=
  (some heap.length, setElement (heap ++ [some r]) task parent heap.length)

/-- The contents of a string of `len` bytes, if it can be allocated. -/
def copyString (str : Bytes) (len : Nat) : Option Bytes :=
  if len ≤ ssizeMax then some str else none

def createStringObject (heap : ReplyHeap Double) (task : ReadTask Nat)
    (parent : Option (ReadTask Nat)) (str : Bytes) (len : Nat) : Option Nat × ReplyHeap Double :=
  let type := task.type.getD .string
  match copyString str len with
  | none => (none, heap)
  | some str =>
      if type = .verb then
        -- Skip 4 bytes of verbatim type header.
        addObject heap task parent
          { createReplyObject type with
            vtype := str.take 3
            str := some (str.drop 4)
            len := len - 4 }
      else
        addObject heap task parent { createReplyObject type with str := some str, len := len }

def createArrayObject (heap : ReplyHeap Double) (task : ReadTask Nat)
    (parent : Option (ReadTask Nat)) (elements : Nat) : Option Nat × ReplyHeap Double :=
  addObject heap task parent
    { createReplyObject (task.type.getD .array) with
      elements := elements
      element := List.replicate elements none }

def createIntegerObject (heap : ReplyHeap Double) (task : ReadTask Nat)
    (parent : Option (ReadTask Nat)) (value : Int) : Option Nat × ReplyHeap Double :=
  addObject heap task parent { createReplyObject .integer with integer := value }

def createDoubleObject (heap : ReplyHeap Double) (task : ReadTask Nat)
    (parent : Option (ReadTask Nat)) (value : Double) (str : Bytes) (len : Nat) :
    Option Nat × ReplyHeap Double :=
  match copyString str len with
  | none => (none, heap)
  | some str =>
      addObject heap task parent
        { (createReplyObject .double : ReplyObject Double) with
          dval := some value
          str := some str
          len := len }

def createNilObject (heap : ReplyHeap Double) (task : ReadTask Nat)
    (parent : Option (ReadTask Nat)) : Option Nat × ReplyHeap Double :=
  addObject heap task parent (createReplyObject .nil)

def createBoolObject (heap : ReplyHeap Double) (task : ReadTask Nat)
    (parent : Option (ReadTask Nat)) (bval : Bool) : Option Nat × ReplyHeap Double :=
  addObject heap task parent { createReplyObject .bool with integer := if bval then 1 else 0 }

def defaultFunctions (Double : Type) : ReplyObjectFunctions (ReplyHeap Double) Nat Double where
  createString := createStringObject
  createArray := createArrayObject
  createInteger := createIntegerObject
  createDouble := createDoubleObject
  createNil := createNilObject
  createBool := createBoolObject
  freeObject := freeReplyObject

end Libvalkey
