import Libvalkey.Foundation.Checked
import Libvalkey.Foundation.LinkedList

/-! # Lists

`adlist.c`: doubly linked lists of nodes that are allocated one by one. -/

namespace Libvalkey

open LinkedList Checked

variable {Val : Type}

/-- `listNode` -/
abbrev ListNode (Val : Type) := Node Val

/-- The functions of a list on its values: `dup` can be out of memory, and whether there is a
`free` is what is kept of it. -/
structure ListType (Val : Type) where
  dup : Option (Val → Option Val)
  free : Bool
  matchKey : Option (Val → Val → Bool)

/-- `hilist` -/
structure HiList where
  head : Option Nat
  tail : Option Nat
  len : Nat
  deriving DecidableEq, Repr

/-- Undefined behaviour: a null pointer, one to a node that has been freed, or an index that cannot
be negated. -/
inductive ListFault
  | null
  | freed
  | overflow
  deriving DecidableEq, Repr

/-- The node that a pointer points to. -/
def loadNode (heap : Heap Val) (pointer : Option Nat) : Except ListFault (ListNode Val) :=
  match pointer with
  | none => .error .null
  | some address =>
      match heap address with
      | none => .error .freed
      | some node => .ok node

/-- `pointer->next = next` -/
def storeNext (heap : Heap Val) (pointer next : Option Nat) : Except ListFault (Heap Val) := do
  let _ ← loadNode heap pointer
  .ok (relinkNext heap pointer next)

/-- `pointer->prev = prev` -/
def storePrev (heap : Heap Val) (pointer prev : Option Nat) : Except ListFault (Heap Val) := do
  let _ ← loadNode heap pointer
  .ok (relinkPrev heap pointer prev)

/-- A store through a pointer that can be null. -/
def storeNextIf (heap : Heap Val) (pointer next : Option Nat) : Except ListFault (Heap Val) :=
  if pointer = none then .ok heap else storeNext heap pointer next

def storePrevIf (heap : Heap Val) (pointer prev : Option Nat) : Except ListFault (Heap Val) :=
  if pointer = none then .ok heap else storePrev heap pointer prev

namespace HiList

/-- The list that `listCreate` makes. -/
def empty : HiList := ⟨none, none, 0⟩

variable (list : HiList)

/-- `listAddNodeHead`, with the address that `vk_malloc` returns. The result is whether a node was
added. -/
def listAddNodeHead (heap : Heap Val) (value : Val) (malloc : Option Nat) :
    Except ListFault (Bool × Heap Val × HiList) :=
  match malloc with
  | none => .ok (false, heap, list)
  | some node =>
      if list.len = 0 then
        .ok (true, Function.update heap node (some ⟨none, none, value⟩),
          ⟨some node, some node, list.len + 1⟩)
      else do
        let stored ← storePrev (Function.update heap node (some ⟨none, list.head, value⟩)) list.head
          (some node)
        .ok (true, stored, { list with head := some node, len := list.len + 1 })

/-- `listAddNodeTail` -/
def listAddNodeTail (heap : Heap Val) (value : Val) (malloc : Option Nat) :
    Except ListFault (Bool × Heap Val × HiList) :=
  match malloc with
  | none => .ok (false, heap, list)
  | some node =>
      if list.len = 0 then
        .ok (true, Function.update heap node (some ⟨none, none, value⟩),
          ⟨some node, some node, list.len + 1⟩)
      else do
        let stored ← storeNext (Function.update heap node (some ⟨list.tail, none, value⟩)) list.tail
          (some node)
        .ok (true, stored, { list with tail := some node, len := list.len + 1 })

/-- `listInsertNode` -/
def listInsertNode (heap : Heap Val) (oldNode : Nat) (value : Val) (after : Bool)
    (malloc : Option Nat) : Except ListFault (Bool × Heap Val × HiList) :=
  match malloc with
  | none => .ok (false, heap, list)
  | some node => do
      let old ← loadNode heap (some oldNode)
      let prev := if after then some oldNode else old.prev
      let next := if after then old.next else some oldNode
      let placed := Function.update heap node (some ⟨prev, next, value⟩)
      let behind ← storeNextIf placed prev (some node)
      let stored ← storePrevIf behind next (some node)
      .ok (true, stored, {
        head := if after = false ∧ list.head = some oldNode then some node else list.head
        tail := if after = true ∧ list.tail = some oldNode then some node else list.tail
        len := list.len + 1 })

/-- `listDelNode`, with the values that `list->free` is called for. -/
def listDelNode (type : ListType Val) (heap : Heap Val) (node : Nat) :
    Except ListFault (Heap Val × HiList × List Val) := do
  let del ← loadNode heap (some node)
  let front ← storeNextIf heap del.prev del.next
  let stored ← storePrevIf front del.next del.prev
  .ok (Function.update stored node none, {
    head := if del.prev = none then del.next else list.head
    tail := if del.next = none then del.prev else list.tail
    len := list.len - 1 }, if type.free then [del.value] else [])

/-- The loop of `listRelease` -/
def listReleaseFrom (type : ListType Val) : Nat → Heap Val → Option Nat →
    Except ListFault (Heap Val × List Val)
  | 0, heap, _ => .ok (heap, [])
  | len + 1, heap, current => do
      let node ← loadNode heap current
      let rest ← listReleaseFrom type len
        (match current with
          | some address => Function.update heap address none
          | none => heap) node.next
      .ok (rest.1, (if type.free then [node.value] else []) ++ rest.2)

/-- `listRelease`, with the values that `list->free` is called for. -/
def listRelease (type : ListType Val) (heap : Heap Val) : Except ListFault (Heap Val × List Val) :=
  listReleaseFrom type list.len heap list.head

/-- `listRotate` -/
def listRotate (heap : Heap Val) : Except ListFault (Heap Val × HiList) :=
  if list.len ≤ 1 then .ok (heap, list)
  else do
    let tail ← loadNode heap list.tail
    let cut ← storeNext heap tail.prev none
    let moved ← storePrev cut list.head list.tail
    let front ← storePrev moved list.tail none
    let stored ← storeNext front list.tail list.head
    .ok (stored, ⟨list.tail, tail.prev, list.len⟩)

end HiList

/-! ## Going along a list -/

inductive Direction
  | startHead
  | startTail
  deriving DecidableEq, Repr

/-- The pointer of a node that is followed in a direction. -/
def Direction.follow (direction : Direction) (node : ListNode Val) : Option Nat :=
  match direction with
  | .startHead => node.next
  | .startTail => node.prev

/-- `listIter` -/
structure ListIter where
  next : Option Nat
  direction : Direction
  deriving DecidableEq, Repr

/-- `listGetIterator`, `listRewind` and `listRewindTail` -/
def listRewind (list : HiList) (direction : Direction) : ListIter where
  next := match direction with
    | .startHead => list.head
    | .startTail => list.tail
  direction := direction

/-- `listNext` -/
def listNext (heap : Heap Val) (iter : ListIter) : Except ListFault (Option Nat × ListIter) :=
  match iter.next with
  | none => .ok (none, iter)
  | some current => do
      let node ← loadNode heap (some current)
      .ok (some current, { iter with next := iter.direction.follow node })

/-- The comparison of `listSearchKey`: without a function the pointers are compared. -/
def listMatches [DecidableEq Val] (type : ListType Val) (value key : Val) : Bool :=
  match type.matchKey with
  | some test => test value key
  | none => decide (key = value)

/-- The loop of `listSearchKey`. The first argument bounds its rounds. -/
def listSearchFrom [DecidableEq Val] (type : ListType Val) (heap : Heap Val) (key : Val) :
    Nat → ListIter → Except ListFault (Option Nat)
  | 0, _ => .ok none
  | rounds + 1, iter => do
      let next ← listNext heap iter
      match next.1 with
      | none => .ok none
      | some current =>
          let node ← loadNode heap (some current)
          if listMatches type node.value key then .ok (some current)
          else listSearchFrom type heap key rounds next.2

/-- `listSearchKey` -/
def listSearchKey [DecidableEq Val] (type : ListType Val) (heap : Heap Val) (list : HiList)
    (key : Val) : Except ListFault (Option Nat) :=
  listSearchFrom type heap key (list.len + 1) (listRewind list .startHead)

/-- A loop of `listIndex`, which goes along while there are steps left and nodes. -/
def listWalk (heap : Heap Val) (direction : Direction) :
    Nat → Option Nat → Except ListFault (Option Nat)
  | 0, pointer => .ok pointer
  | index + 1, pointer =>
      match pointer with
      | none => .ok none
      | some current => do
          let node ← loadNode heap (some current)
          listWalk heap direction index (direction.follow node)

/-- `LONG_MIN` -/
def longMin : Int := -9223372036854775808

/-- `listIndex`. The index is a `long`. -/
def listIndex (heap : Heap Val) (list : HiList) (index : Int) : Except ListFault (Option Nat) :=
  if index < 0 then
    if index = longMin then .error .overflow
    else listWalk heap .startTail (-index - 1).toNat list.tail
  else listWalk heap .startHead index.toNat list.head

/-! ## Copies -/

/-- The value of a copied node. -/
def listDupValue (type : ListType Val) (value : Val) : Option Val :=
  match type.dup with
  | some dup => dup value
  | none => some value

/-- The loop of `listDup`, with the blocks that `vk_malloc` returns for the nodes. `none` is a copy
that was given up. The first argument bounds the rounds. -/
def listDupFrom (type : ListType Val) : Nat → List (Option Nat) → Heap Val → HiList → ListIter →
    Except ListFault (Option HiList × Heap Val × List Val)
  | 0, _, heap, copy, _ => .ok (some copy, heap, [])
  | rounds + 1, mallocs, heap, copy, iter => do
      let next ← listNext heap iter
      match next.1 with
      | none => .ok (some copy, heap, [])
      | some current =>
          let node ← loadNode heap (some current)
          match listDupValue type node.value with
          | none =>
              let released ← copy.listRelease type heap
              .ok (none, released.1, released.2)
          | some value =>
              let added ← copy.listAddNodeTail heap value (mallocs.headD none)
              if added.1 then listDupFrom type rounds mallocs.tail added.2.1 added.2.2 next.2
              else
                let released ← copy.listRelease type heap
                .ok (none, released.1, released.2)

/-- `listDup`, with whether there is a block for the list itself. -/
def listDup (type : ListType Val) (heap : Heap Val) (orig : HiList) (malloc : Bool)
    (mallocs : List (Option Nat)) : Except ListFault (Option HiList × Heap Val × List Val) :=
  if malloc = false then .ok (none, heap, [])
  else listDupFrom type (orig.len + 1) mallocs heap .empty (listRewind orig .startHead)

end Libvalkey
