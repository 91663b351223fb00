import Mathlib.Data.List.Nodup
import Mathlib.Logic.Function.Basic
import Mathlib.Tactic.Common

/-! # Doubly linked lists in a heap

A heap of nodes that point to their neighbours stands for the list of their addresses and values.
A node is put between two others, or taken out. -/

namespace Libvalkey.LinkedList

variable {Val : Type}

structure Node (Val : Type) where
  prev : Option Nat
  next : Option Nat
  value : Val
  deriving DecidableEq, Repr

/-- The nodes that are allocated, by their addresses. -/
abbrev Heap (Val : Type) := Nat → Option (Node Val)

/-- A node as a list has it. -/
structure Cell (Val : Type) where
  address : Nat
  value : Val
  deriving DecidableEq, Repr

abbrev addresses (cells : List (Cell Val)) : List Nat := cells.map Cell.address

/-- The address of the first cell, or of what comes behind the cells. -/
def first (cells : List (Cell Val)) (after : Option Nat) : Option Nat :=
  (cells.head?.map Cell.address).or after

/-- The address of the last cell, or of what comes before the cells. -/
def last (before : Option Nat) (cells : List (Cell Val)) : Option Nat :=
  (cells.getLast?.map Cell.address).or before

@[simp] theorem first_nil (after : Option Nat) : first ([] : List (Cell Val)) after = after := rfl

@[simp] theorem first_cons (cell : Cell Val) (cells : List (Cell Val)) (after : Option Nat) :
    first (cell :: cells) after = some cell.address := rfl

@[simp] theorem last_nil (before : Option Nat) : last before ([] : List (Cell Val)) = before := rfl

@[simp] theorem last_cons (before : Option Nat) (cell : Cell Val) (cells : List (Cell Val)) :
    last before (cell :: cells) = last (some cell.address) cells := by
  cases cells with
  | nil => rfl
  | cons other cells => simp [last, List.getLast?_eq_some_getLast]

@[simp] theorem last_append (before : Option Nat) (cells others : List (Cell Val)) :
    last before (cells ++ others) = last (last before cells) others := by
  induction cells generalizing before with
  | nil => rfl
  | cons cell cells induction => rw [List.cons_append, last_cons, last_cons, induction]

@[simp] theorem first_append (cells others : List (Cell Val)) (after : Option Nat) :
    first (cells ++ others) after = first cells (first others after) := by
  cases cells with
  | nil => rfl
  | cons cell cells => rfl

theorem mem_of_first {cells : List (Cell Val)} {address : Nat}
    (there : first cells none = some address) : address ∈ addresses cells := by
  cases cells with
  | nil => cases there
  | cons cell cells =>
      obtain rfl : cell.address = address := Option.some.inj there
      exact List.mem_cons_self

theorem mem_of_last {cells : List (Cell Val)} {address : Nat}
    (there : last none cells = some address) : address ∈ addresses cells := by
  cases known : cells.getLast? with
  | none =>
      rw [last, known] at there
      cases there
  | some cell =>
      rw [last, known] at there
      obtain rfl : cell.address = address := Option.some.inj there
      exact List.mem_map_of_mem (List.mem_of_getLast? known)

theorem first_ne_of_notMem {cells : List (Cell Val)} {address : Nat}
    (absent : address ∉ addresses cells) : first cells none ≠ some address :=
  fun there => absent (mem_of_first there)

theorem last_ne_of_notMem {cells : List (Cell Val)} {address : Nat}
    (absent : address ∉ addresses cells) : last none cells ≠ some address :=
  fun there => absent (mem_of_last there)

theorem first_eq_none {cells : List (Cell Val)} : first cells none = none ↔ cells = [] := by
  cases cells with
  | nil => simp
  | cons cell cells => simp

theorem last_eq_none {cells : List (Cell Val)} : last none cells = none ↔ cells = [] := by
  simp [last]

/-- What is before the first cell does not show in the last of some cells. -/
theorem last_of_ne_nil {cells : List (Cell Val)} (some : cells ≠ []) (before other : Option Nat) :
    last before cells = last other cells := by
  cases cells with
  | nil => exact absurd rfl some
  | cons cell cells => rw [last_cons, last_cons]

theorem first_of_ne_nil {cells : List (Cell Val)} (some : cells ≠ []) (after other : Option Nat) :
    first cells after = first cells other := by
  cases cells with
  | nil => exact absurd rfl some
  | cons cell cells => rfl

/-! ## Cells in a heap -/

/-- The nodes of the cells point to each other, and at the ends to what is around them. -/
def Linked (heap : Heap Val) : Option Nat → List (Cell Val) → Option Nat → Prop
  | _, [], _ => True
  | before, cell :: cells, after =>
      heap cell.address = some ⟨before, first cells after, cell.value⟩ ∧
        Linked heap (some cell.address) cells after

variable {heap other : Heap Val} {before after : Option Nat} {cells others : List (Cell Val)}

theorem linked_append : Linked heap before (cells ++ others) after ↔
    Linked heap before cells (first others after) ∧
      Linked heap (last before cells) others after := by
  induction cells generalizing before with
  | nil => simp [Linked]
  | cons cell cells induction =>
      rw [List.cons_append, Linked, Linked, induction, last_cons, first_append, and_assoc]

/-- A node that is linked in. -/
theorem Linked.node {cell : Cell Val}
    (linked : Linked heap before (cells ++ cell :: others) after) :
    heap cell.address = some ⟨last before cells, first others after, cell.value⟩ :=
  (linked_append.mp linked).2.1

/-- Other heaps with the same nodes at these addresses have the cells as well. -/
theorem Linked.frame (linked : Linked heap before cells after)
    (same : ∀ address ∈ addresses cells, other address = heap address) :
    Linked other before cells after := by
  induction cells generalizing before with
  | nil => trivial
  | cons cell cells induction =>
      refine ⟨(same _ List.mem_cons_self).trans linked.1, induction linked.2 fun address member => ?_⟩
      exact same address (List.mem_cons_of_mem _ member)

theorem Linked.live (linked : Linked heap before cells after) {address : Nat}
    (member : address ∈ addresses cells) : (heap address).isSome = true := by
  obtain ⟨cell, inCells, rfl⟩ := List.mem_map.mp member
  obtain ⟨front, back, rfl⟩ := List.append_of_mem inCells
  rw [linked.node]
  rfl

/-! ## Changes of one node -/

/-- The node at an address points forwards to another one. -/
def setNext (heap : Heap Val) (address : Nat) (next : Option Nat) : Heap Val :=
  Function.update heap address ((heap address).map fun node => { node with next })

/-- The node at an address points backwards to another one. -/
def setPrev (heap : Heap Val) (address : Nat) (prev : Option Nat) : Heap Val :=
  Function.update heap address ((heap address).map fun node => { node with prev })

/-- A node behind which something else comes, if there is one. -/
def relinkNext (heap : Heap Val) (pointer next : Option Nat) : Heap Val :=
  match pointer with
  | none => heap
  | some address => setNext heap address next

/-- A node before which something else comes, if there is one. -/
def relinkPrev (heap : Heap Val) (pointer prev : Option Nat) : Heap Val :=
  match pointer with
  | none => heap
  | some address => setPrev heap address prev

@[simp] theorem isSome_relinkNext (pointer next : Option Nat) (address : Nat) :
    (relinkNext heap pointer next address).isSome = (heap address).isSome := by
  cases pointer with
  | none => rfl
  | some changed =>
      rw [relinkNext, setNext, Function.update_apply]
      split
      · rename_i same
        rw [Option.isSome_map, same]
      · rfl

@[simp] theorem isSome_relinkPrev (pointer prev : Option Nat) (address : Nat) :
    (relinkPrev heap pointer prev address).isSome = (heap address).isSome := by
  cases pointer with
  | none => rfl
  | some changed =>
      rw [relinkPrev, setPrev, Function.update_apply]
      split
      · rename_i same
        rw [Option.isSome_map, same]
      · rfl

theorem relinkNext_of_ne {address : Nat} {pointer : Option Nat} (apart : pointer ≠ some address)
    (next : Option Nat) : relinkNext heap pointer next address = heap address := by
  cases pointer with
  | none => rfl
  | some changed => exact Function.update_of_ne (fun same => apart (congrArg some same.symm)) _ _

theorem relinkPrev_of_ne {address : Nat} {pointer : Option Nat} (apart : pointer ≠ some address)
    (prev : Option Nat) : relinkPrev heap pointer prev address = heap address := by
  cases pointer with
  | none => rfl
  | some changed => exact Function.update_of_ne (fun same => apart (congrArg some same.symm)) _ _

/-- The last of some cells points to something else. -/
theorem Linked.relinkNext (linked : Linked heap before cells after)
    (nodup : (addresses cells).Nodup) (next : Option Nat) :
    Linked (relinkNext heap (last none cells) next) before cells next := by
  induction cells generalizing before with
  | nil => trivial
  | cons cell cells induction =>
      obtain ⟨absent, nodup⟩ := List.nodup_cons.mp nodup
      obtain ⟨here, behind⟩ := linked
      cases cells with
      | nil =>
          refine ⟨?_, trivial⟩
          rw [last_cons, last_nil, LinkedList.relinkNext, setNext, Function.update_self, here]
          rfl
      | cons second cells =>
          rw [last_cons, last_of_ne_nil (List.cons_ne_nil _ _) _ none]
          refine ⟨?_, induction behind nodup⟩
          rw [relinkNext_of_ne, here]
          · rfl
          · exact last_ne_of_notMem absent

/-- The first of some cells points back to something else. -/
theorem Linked.relinkPrev (linked : Linked heap before cells after)
    (nodup : (addresses cells).Nodup) (prev : Option Nat) :
    Linked (relinkPrev heap (first cells none) prev) prev cells after := by
  cases cells with
  | nil => trivial
  | cons cell cells =>
      obtain ⟨absent, _⟩ := List.nodup_cons.mp nodup
      obtain ⟨here, behind⟩ := linked
      refine ⟨?_, behind.frame fun address member => relinkPrev_of_ne ?_ prev⟩
      · rw [first_cons, LinkedList.relinkPrev, setPrev, Function.update_self, here]
        rfl
      · rw [first_cons]
        rintro ⟨⟩
        exact absent member

/-! ## Nodes that come and go -/

/-- A new node between two lists of cells. -/
def link (heap : Heap Val) (cells others : List (Cell Val)) (cell : Cell Val) : Heap Val :=
  LinkedList.relinkPrev
    (LinkedList.relinkNext
      (Function.update heap cell.address (some ⟨last none cells, first others none, cell.value⟩))
      (last none cells) (some cell.address))
    (first others none) (some cell.address)

/-- A node between two lists of cells is freed. -/
def unlink (heap : Heap Val) (cells others : List (Cell Val)) (address : Nat) : Heap Val :=
  Function.update
    (LinkedList.relinkPrev (LinkedList.relinkNext heap (last none cells) (first others none))
      (first others none) (last none cells))
    address none

/-- Two lists of cells at different addresses are linked to what is to be between them. -/
theorem relinked (linkedCells : Linked heap none cells after) (linkedOthers : Linked heap before
    others none) (nodup : (addresses (cells ++ others)).Nodup) (next prev : Option Nat) :
    Linked (LinkedList.relinkPrev (LinkedList.relinkNext heap (last none cells) next)
        (first others none) prev) none cells next ∧
      Linked (LinkedList.relinkPrev (LinkedList.relinkNext heap (last none cells) next)
        (first others none) prev) prev others none := by
  rw [addresses, List.map_append, List.nodup_append] at nodup
  obtain ⟨nodupCells, nodupOthers, apart⟩ := nodup
  constructor
  · refine (linkedCells.relinkNext nodupCells next).frame fun address member =>
      relinkPrev_of_ne (first_ne_of_notMem fun inOthers => ?_) prev
    exact apart _ member _ inOthers rfl
  · refine Linked.relinkPrev (linkedOthers.frame fun address member =>
      relinkNext_of_ne (last_ne_of_notMem fun inCells => ?_) next) nodupOthers prev
    exact apart _ inCells _ member rfl

theorem Linked.link (linked : Linked heap none (cells ++ others) none)
    (nodup : (addresses (cells ++ others)).Nodup) {cell : Cell Val}
    (fresh : cell.address ∉ addresses (cells ++ others)) :
    Linked (link heap cells others cell) none (cells ++ cell :: others) none := by
  have placed : Linked (Function.update heap cell.address
      (some ⟨last none cells, first others none, cell.value⟩)) none (cells ++ others) none :=
    linked.frame fun address member => Function.update_of_ne (fun same => by
      subst same
      exact fresh member) _ _
  obtain ⟨linkedCells, linkedOthers⟩ := linked_append.mp placed
  obtain ⟨front, back⟩ := relinked linkedCells linkedOthers nodup (some cell.address)
    (some cell.address)
  refine linked_append.mpr ⟨front, ?_, back⟩
  rw [addresses, List.map_append, List.mem_append, not_or] at fresh
  rw [LinkedList.link, relinkPrev_of_ne, relinkNext_of_ne, Function.update_self]
  · exact last_ne_of_notMem fresh.1
  · exact first_ne_of_notMem fresh.2

theorem Linked.unlink {cell : Cell Val} (linked : Linked heap none (cells ++ cell :: others) none)
    (nodup : (addresses (cells ++ cell :: others)).Nodup) :
    Linked (unlink heap cells others cell.address) none (cells ++ others) none := by
  obtain ⟨linkedCells, _, linkedOthers⟩ := linked_append.mp linked
  rw [addresses, List.map_append, List.map_cons] at nodup
  have absent := (List.nodup_middle.mp nodup).notMem
  have rest := (List.nodup_middle.mp nodup).of_cons
  rw [← List.map_append] at absent rest
  obtain ⟨front, back⟩ := relinked linkedCells linkedOthers rest (first others none) (last none cells)
  have joined := linked_append.mpr ⟨front, back⟩
  exact joined.frame fun address member => Function.update_of_ne (fun same => by
    subst same
    exact absent member) _ _

/-- Nodes that are elsewhere stay as they are. -/
theorem link_of_notMem {cell : Cell Val} {address : Nat} (apart : address ≠ cell.address)
    (absent : address ∉ addresses (cells ++ others)) :
    LinkedList.link heap cells others cell address = heap address := by
  rw [addresses, List.map_append, List.mem_append, not_or] at absent
  rw [LinkedList.link, relinkPrev_of_ne, relinkNext_of_ne, Function.update_of_ne apart]
  · exact last_ne_of_notMem absent.1
  · exact first_ne_of_notMem absent.2

theorem unlink_of_notMem {freed address : Nat} (apart : address ≠ freed)
    (absent : address ∉ addresses (cells ++ others)) :
    LinkedList.unlink heap cells others freed address = heap address := by
  rw [addresses, List.map_append, List.mem_append, not_or] at absent
  rw [LinkedList.unlink, Function.update_of_ne apart, relinkPrev_of_ne, relinkNext_of_ne]
  · exact last_ne_of_notMem absent.1
  · exact first_ne_of_notMem absent.2

@[simp] theorem unlink_freed (freed : Nat) :
    LinkedList.unlink heap cells others freed freed = none := Function.update_self _ _ _

end Libvalkey.LinkedList
