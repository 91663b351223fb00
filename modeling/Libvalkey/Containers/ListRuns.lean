import Libvalkey.Containers.Adlist
import Libvalkey.Foundation.Runs

/-! # Runs of a list

Along every sequence of calls a list stands for a sequence of values, and the rest of the heap
stays as it is. -/

namespace Libvalkey

open LinkedList Checked

variable {Val : Type}

/-! ## Calls on a sequence -/

/-- A call, with what `vk_malloc` returns if it is called. -/
inductive ListCall (Val : Type)
  | addHead (value : Val) (malloc : Option Nat)
  | addTail (value : Val) (malloc : Option Nat)
  | insert (oldNode : Nat) (value : Val) (after : Bool) (malloc : Option Nat)
  | delete (node : Nat)
  | rotate
  | index (index : Int)
  | search (key : Val)
  deriving DecidableEq, Repr

inductive ListReply
  | added (node : Bool)
  | done
  | node (node : Option Nat)
  deriving DecidableEq, Repr

/-- A new cell before or behind the one at an address. -/
def insertBeside (address : Nat) (cell : Cell Val) (after : Bool) : List (Cell Val) → List (Cell Val)
  | [] => []
  | old :: cells =>
      if old.address = address then
        if after then old :: cell :: cells else cell :: old :: cells
      else old :: insertBeside address cell after cells

/-- The last cell comes first. -/
def rotated (cells : List (Cell Val)) : List (Cell Val) :=
  cells.getLast?.toList ++ cells.dropLast

namespace ListCall

/-- The address that `vk_malloc` returns. -/
def malloc : ListCall Val → Option Nat
  | addHead _ malloc => malloc
  | addTail _ malloc => malloc
  | insert _ _ _ malloc => malloc
  | delete _ => none
  | rotate => none
  | index _ => none
  | search _ => none

/-- The node that a call is about. -/
def node : ListCall Val → Option Nat
  | addHead _ _ => none
  | addTail _ _ => none
  | insert oldNode _ _ _ => some oldNode
  | delete node => some node
  | rotate => none
  | index _ => none
  | search _ => none

/-- The cells after a call. -/
def cellsAfter (cells : List (Cell Val)) : ListCall Val → List (Cell Val)
  | addHead value malloc => (malloc.map (⟨·, value⟩)).toList ++ cells
  | addTail value malloc => cells ++ (malloc.map (⟨·, value⟩)).toList
  | insert oldNode value after malloc =>
      match malloc with
      | none => cells
      | some node => insertBeside oldNode ⟨node, value⟩ after cells
  | delete node => cells.eraseP fun cell => decide (cell.address = node)
  | rotate => rotated cells
  | index _ => cells
  | search _ => cells

/-- The values that a call frees. -/
def frees (type : ListType Val) (cells : List (Cell Val)) : ListCall Val → List Val
  | delete node =>
      if type.free then
        ((cells.find? fun cell => decide (cell.address = node)).map Cell.value).toList
      else []
  | addHead _ _ => []
  | addTail _ _ => []
  | insert _ _ _ _ => []
  | rotate => []
  | index _ => []
  | search _ => []

/-- The reply to a call. -/
def reply [DecidableEq Val] (type : ListType Val) (cells : List (Cell Val)) :
    ListCall Val → ListReply
  | addHead _ malloc => .added malloc.isSome
  | addTail _ malloc => .added malloc.isSome
  | insert _ _ _ malloc => .added malloc.isSome
  | delete _ => .done
  | rotate => .done
  | index place => .node <|
      if place < 0 then cells.reverse[(-place - 1).toNat]?.map Cell.address
      else cells[place.toNat]?.map Cell.address
  | search key => .node <|
      (cells.find? fun cell => listMatches type cell.value key).map Cell.address

/-- A call that may be made: its node is in the list, new memory is not in use, and an index is
not the least `long`. -/
structure Allowed (heap : Heap Val) (cells : List (Cell Val)) (call : ListCall Val) : Prop where
  node : ∀ address ∈ call.node, address ∈ addresses cells
  malloc : ∀ address ∈ call.malloc, address ∉ addresses cells ∧ heap address = none
  place : call ≠ .index longMin

theorem allowed_iff {heap : Heap Val} {cells : List (Cell Val)} {call : ListCall Val} :
    ((∀ address ∈ call.node, address ∈ addresses cells) ∧
      (∀ address ∈ call.malloc, address ∉ addresses cells ∧ heap address = none) ∧
      call ≠ .index longMin) ↔ call.Allowed heap cells :=
  ⟨fun all => ⟨all.1, all.2.1, all.2.2⟩, fun allowed => ⟨allowed.node, allowed.malloc, allowed.place⟩⟩

instance [DecidableEq Val] (heap : Heap Val) (cells : List (Cell Val)) (call : ListCall Val) :
    Decidable (call.Allowed heap cells) := decidable_of_iff _ allowed_iff

end ListCall

/-! ## Lists that stand for cells -/

/-- A list and its nodes stand for some cells, and the other nodes are those of a heap. -/
structure ListOf (around : Heap Val) (heap : Heap Val) (list : HiList)
    (cells : List (Cell Val)) : Prop where
  head : list.head = first cells none
  tail : list.tail = last none cells
  len : list.len = cells.length
  linked : Linked heap none cells none
  nodup : (addresses cells).Nodup
  others : ∀ address, address ∉ addresses cells → heap address = around address
  own : ∀ address ∈ addresses cells, around address = none

variable {around heap : Heap Val} {list : HiList} {cells others : List (Cell Val)}

theorem listOf_empty (heap : Heap Val) : ListOf heap heap .empty [] where
  head := rfl
  tail := rfl
  len := rfl
  linked := trivial
  nodup := .nil
  others := fun _ _ => rfl
  own := fun _ member => absurd member List.not_mem_nil

theorem loadNode_of_eq {address : Nat} {node : ListNode Val} (there : heap address = some node) :
    loadNode heap (some address) = .ok node := by
  simp only [loadNode, there]

theorem storeNext_eq {pointer : Option Nat} (there : pointer ≠ none)
    (live : ∀ address ∈ pointer, (heap address).isSome = true) (next : Option Nat) :
    storeNext heap pointer next = .ok (relinkNext heap pointer next) := by
  obtain ⟨address, rfl⟩ := Option.ne_none_iff_exists'.mp there
  obtain ⟨node, known⟩ := Option.isSome_iff_exists.mp (live address rfl)
  rw [storeNext, loadNode_of_eq known, bind_ok]

theorem storePrev_eq {pointer : Option Nat} (there : pointer ≠ none)
    (live : ∀ address ∈ pointer, (heap address).isSome = true) (prev : Option Nat) :
    storePrev heap pointer prev = .ok (relinkPrev heap pointer prev) := by
  obtain ⟨address, rfl⟩ := Option.ne_none_iff_exists'.mp there
  obtain ⟨node, known⟩ := Option.isSome_iff_exists.mp (live address rfl)
  rw [storePrev, loadNode_of_eq known, bind_ok]

theorem storeNextIf_eq (pointer next : Option Nat)
    (live : ∀ address ∈ pointer, (heap address).isSome = true) :
    storeNextIf heap pointer next = .ok (relinkNext heap pointer next) := by
  unfold storeNextIf
  by_cases null : pointer = none
  · rw [if_pos null, null]
    rfl
  · rw [if_neg null, storeNext_eq null live]

theorem storePrevIf_eq (pointer prev : Option Nat)
    (live : ∀ address ∈ pointer, (heap address).isSome = true) :
    storePrevIf heap pointer prev = .ok (relinkPrev heap pointer prev) := by
  unfold storePrevIf
  by_cases null : pointer = none
  · rw [if_pos null, null]
    rfl
  · rw [if_neg null, storePrev_eq null live]

/-! ## Adding and deleting -/

namespace ListOf

/-- A new node between some of the cells. -/
theorem link (front back : List (Cell Val)) (cell : Cell Val) {after : HiList}
    (represents : ListOf around heap list (front ++ back))
    (fresh : cell.address ∉ addresses (front ++ back)) (unused : heap cell.address = none)
    (head : after.head = first (front ++ cell :: back) none)
    (tail : after.tail = last none (front ++ cell :: back)) (len : after.len = list.len + 1) :
    ListOf around (LinkedList.link heap front back cell) after (front ++ cell :: back) where
  head := head
  tail := tail
  len := by
    rw [len, represents.len]
    simp only [List.length_append, List.length_cons]
    omega
  linked := represents.linked.link represents.nodup fresh
  nodup := by
    rw [addresses, List.map_append] at fresh ⊢
    rw [List.map_cons, List.nodup_middle]
    refine List.nodup_cons.mpr ⟨fresh, ?_⟩
    rw [← List.map_append]
    exact represents.nodup
  others := fun address absent => by
    have both : address ≠ cell.address ∧ address ∉ addresses (front ++ back) := by
      simp only [addresses, List.map_append, List.map_cons, List.mem_append, List.mem_cons,
        not_or] at absent ⊢
      exact ⟨absent.2.1, absent.1, absent.2.2⟩
    rw [link_of_notMem both.1 both.2]
    exact represents.others address both.2
  own := fun address member => by
    by_cases same : address = cell.address
    · rw [same, ← represents.others _ fresh, unused]
    · refine represents.own address ?_
      simp only [addresses, List.map_append, List.map_cons, List.mem_append, List.mem_cons] at member ⊢
      tauto

/-- A node that is taken out from between the other cells. -/
theorem unlink (front back : List (Cell Val)) (cell : Cell Val) {after : HiList}
    (represents : ListOf around heap list (front ++ cell :: back))
    (head : after.head = first (front ++ back) none) (tail : after.tail = last none (front ++ back))
    (len : after.len = list.len - 1) :
    ListOf around (LinkedList.unlink heap front back cell.address) after (front ++ back) where
  head := head
  tail := tail
  len := by
    rw [len, represents.len]
    simp only [List.length_append, List.length_cons]
    omega
  linked := represents.linked.unlink represents.nodup
  nodup := by
    have nodup := represents.nodup
    rw [addresses, List.map_append, List.map_cons] at nodup
    rw [addresses, List.map_append]
    exact (List.nodup_middle.mp nodup).of_cons
  others := fun address absent => by
    by_cases same : address = cell.address
    · rw [same, unlink_freed, represents.own]
      exact List.mem_map_of_mem (by simp)
    · rw [unlink_of_notMem same absent]
      refine represents.others address ?_
      simp only [addresses, List.map_append, List.map_cons, List.mem_append, List.mem_cons,
        not_or] at absent ⊢
      exact ⟨absent.1, same, absent.2⟩
  own := fun address member => by
    refine represents.own address ?_
    simp only [addresses, List.map_append, List.map_cons, List.mem_append, List.mem_cons] at member ⊢
    exact member.imp_right .inr

theorem len_eq_zero (represents : ListOf around heap list cells) :
    list.len = 0 ↔ cells = [] := by
  rw [represents.len, List.length_eq_zero_iff]

/-- The pointers of a list are to nodes that are there, also when a node has been put elsewhere. -/
theorem live_update (represents : ListOf around heap list cells) {address : Nat}
    (member : address ∈ addresses cells) (other : Nat) (node : ListNode Val) :
    (Function.update heap other (some node) address).isSome = true := by
  rw [Function.update_apply]
  split
  · rfl
  · exact represents.linked.live member

theorem listAddNodeHead (represents : ListOf around heap list cells) (value : Val)
    {malloc : Option Nat}
    (unused : ∀ address ∈ malloc, address ∉ addresses cells ∧ heap address = none) :
    ∃ stored after, list.listAddNodeHead heap value malloc = .ok (malloc.isSome, stored, after) ∧
      ListOf around stored after ((malloc.map (⟨·, value⟩)).toList ++ cells) := by
  cases malloc with
  | none => exact ⟨heap, list, rfl, represents⟩
  | some node =>
      obtain ⟨fresh, free⟩ := unused node rfl
      have linked (after : HiList) (head : after.head = some node)
          (tail : after.tail = last (some node) cells) (len : after.len = list.len + 1) :=
        ListOf.link [] cells ⟨node, value⟩ represents fresh free head
          (by rw [tail, List.nil_append, last_cons]) len
      rw [HiList.listAddNodeHead]
      by_cases empty : cells = []
      · rw [if_pos (represents.len_eq_zero.mpr empty)]
        subst empty
        exact ⟨_, _, rfl, linked _ rfl rfl rfl⟩
      · have there : list.head ≠ none := by
          rw [represents.head]
          exact mt first_eq_none.mp empty
        rw [if_neg (mt represents.len_eq_zero.mp empty), storePrev_eq there, bind_ok]
        · refine ⟨_, _, rfl, ?_⟩
          rw [represents.head]
          refine linked _ rfl ?_ rfl
          rw [represents.tail, last_of_ne_nil empty]
        · intro address known
          rw [represents.head] at known
          exact represents.live_update (mem_of_first known) _ _

theorem listAddNodeTail (represents : ListOf around heap list cells) (value : Val)
    {malloc : Option Nat}
    (unused : ∀ address ∈ malloc, address ∉ addresses cells ∧ heap address = none) :
    ∃ stored after, list.listAddNodeTail heap value malloc = .ok (malloc.isSome, stored, after) ∧
      ListOf around stored after (cells ++ (malloc.map (⟨·, value⟩)).toList) := by
  cases malloc with
  | none => exact ⟨heap, list, rfl, by simpa using represents⟩
  | some node =>
      obtain ⟨fresh, free⟩ := unused node rfl
      have same : cells ++ [] = cells := List.append_nil cells
      have linked (after : HiList) (head : after.head = first cells (some node))
          (tail : after.tail = some node) (len : after.len = list.len + 1) :=
        ListOf.link cells [] ⟨node, value⟩ (by rwa [same]) (by rwa [same]) free
          (by rw [head, first_append]; rfl) (by rw [tail, last_append]; rfl) len
      rw [HiList.listAddNodeTail]
      by_cases empty : cells = []
      · rw [if_pos (represents.len_eq_zero.mpr empty)]
        subst empty
        exact ⟨_, _, rfl, linked _ rfl rfl rfl⟩
      · have there : list.tail ≠ none := by
          rw [represents.tail]
          exact mt last_eq_none.mp empty
        rw [if_neg (mt represents.len_eq_zero.mp empty), storeNext_eq there, bind_ok]
        · refine ⟨_, _, rfl, ?_⟩
          rw [represents.tail]
          refine linked _ ?_ rfl rfl
          rw [represents.head, first_of_ne_nil empty]
        · intro address known
          rw [represents.tail] at known
          exact represents.live_update (mem_of_last known) _ _

/-- A cell at an address is somewhere between the others. -/
theorem split_at {address : Nat} (member : address ∈ addresses cells) :
    ∃ front cell back, cells = front ++ cell :: back ∧ cell.address = address := by
  obtain ⟨cell, inCells, same⟩ := List.mem_map.mp member
  obtain ⟨front, back, split⟩ := List.append_of_mem inCells
  exact ⟨front, cell, back, split, same⟩

theorem notMem_front {front back : List (Cell Val)} {cell : Cell Val}
    (represents : ListOf around heap list (front ++ cell :: back)) :
    cell.address ∉ addresses front ∧ cell.address ∉ addresses back := by
  have nodup := represents.nodup
  rw [addresses, List.map_append, List.map_cons, List.nodup_middle, List.nodup_cons,
    List.mem_append, not_or] at nodup
  exact nodup.1

theorem listDelNode (represents : ListOf around heap list cells) (type : ListType Val)
    {node : Nat} (member : node ∈ addresses cells) :
    ∃ stored after, list.listDelNode type heap node = .ok (stored, after,
        (ListCall.delete node).frees type cells) ∧
      ListOf around stored after ((ListCall.delete node).cellsAfter cells) := by
  obtain ⟨front, cell, back, rfl, rfl⟩ := split_at member
  obtain ⟨notFront, notBack⟩ := represents.notMem_front
  have here := represents.linked.node
  have fronts : ∀ other ∈ front, ¬ decide (other.address = cell.address) = true :=
    fun other inFront same =>
      notFront (List.mem_map.mpr ⟨other, inFront, of_decide_eq_true same⟩)
  have liveFront (address : Nat) (inFront : address ∈ addresses front) :
      (heap address).isSome = true :=
    represents.linked.live (by rw [addresses, List.map_append]; exact List.mem_append_left _ inFront)
  have liveBack (address : Nat) (inBack : address ∈ addresses back) :
      (heap address).isSome = true := by
    refine represents.linked.live ?_
    rw [addresses, List.map_append]
    exact List.mem_append_right _ (List.mem_cons_of_mem _ inBack)
  rw [HiList.listDelNode, loadNode_of_eq here, bind_ok]
  dsimp only
  rw [storeNextIf_eq _ _ fun address known => liveFront address (mem_of_last known), bind_ok,
    storePrevIf_eq _ _ fun address known => by
      rw [isSome_relinkNext]
      exact liveBack address (mem_of_first known),
    bind_ok]
  have found : (front ++ cell :: back).find? (fun other => decide (other.address = cell.address)) =
      some cell := by
    rw [List.find?_append, List.find?_eq_none.mpr fronts, Option.none_or, List.find?_cons_of_pos]
    exact decide_eq_true rfl
  have rest : (ListCall.delete cell.address).cellsAfter (front ++ cell :: back) = front ++ back := by
    rw [ListCall.cellsAfter, List.eraseP_append_right _ fronts, List.eraseP_cons_of_pos]
    exact decide_eq_true rfl
  rw [rest, ListCall.frees, found]
  refine ⟨_, _, rfl, represents.unlink front back cell ?_ ?_ rfl⟩
  · cases front with
    | nil => rfl
    | cons other front =>
        rw [if_neg (mt last_eq_none.mp (List.cons_ne_nil _ _)), represents.head]
        rfl
  · cases back with
    | nil => rw [List.append_nil]; rfl
    | cons other back =>
        rw [if_neg (mt first_eq_none.mp (List.cons_ne_nil _ _)), represents.tail]
        simp

theorem insertBeside_eq {front back : List (Cell Val)} {old : Cell Val}
    (absent : old.address ∉ addresses front) (cell : Cell Val) (after : Bool) :
    insertBeside old.address cell after (front ++ old :: back) =
      front ++ if after then old :: cell :: back else cell :: old :: back := by
  induction front with
  | nil => rw [List.nil_append, insertBeside, if_pos rfl, List.nil_append]
  | cons other front induction =>
      rw [addresses, List.map_cons, List.mem_cons, not_or] at absent
      rw [List.cons_append, insertBeside, if_neg (Ne.symm absent.1), induction absent.2,
        List.cons_append]

/-- The neighbours of a new node are made to point to it. -/
theorem stores_link {front back : List (Cell Val)} {Result : Type}
    (represents : ListOf around heap list (front ++ back)) (node : Nat) (value : Val)
    (rest : Heap Val → Except ListFault Result) :
    (storeNextIf (Function.update heap node (some ⟨last none front, first back none, value⟩))
        (last none front) (some node) >>= fun behind =>
      storePrevIf behind (first back none) (some node) >>= rest) =
      rest (LinkedList.link heap front back ⟨node, value⟩) := by
  rw [storeNextIf_eq _ _ fun address known => ?_, bind_ok,
    storePrevIf_eq _ _ fun address known => ?_, bind_ok]
  · rfl
  · rw [isSome_relinkNext]
    refine represents.live_update ?_ _ _
    rw [addresses, List.map_append]
    exact List.mem_append_right _ (mem_of_first known)
  · refine represents.live_update ?_ _ _
    rw [addresses, List.map_append]
    exact List.mem_append_left _ (mem_of_last known)

theorem listInsertNode (represents : ListOf around heap list cells) {oldNode : Nat}
    (member : oldNode ∈ addresses cells) (value : Val) (after : Bool) {malloc : Option Nat}
    (unused : ∀ address ∈ malloc, address ∉ addresses cells ∧ heap address = none) :
    ∃ stored next, list.listInsertNode heap oldNode value after malloc =
        .ok (malloc.isSome, stored, next) ∧
      ListOf around stored next
        ((ListCall.insert oldNode value after malloc).cellsAfter cells) := by
  cases malloc with
  | none => exact ⟨heap, list, rfl, represents⟩
  | some node =>
      obtain ⟨fresh, free⟩ := unused node rfl
      obtain ⟨front, old, back, rfl, rfl⟩ := split_at member
      obtain ⟨notFront, notBack⟩ := represents.notMem_front
      rw [ListCall.cellsAfter, insertBeside_eq notFront, HiList.listInsertNode,
        loadNode_of_eq represents.linked.node, bind_ok]
      dsimp only
      cases after with
      | true =>
          have behind : front ++ old :: back = (front ++ [old]) ++ back := by simp
          have prev : some old.address = last none (front ++ [old]) := by simp
          rw [behind] at represents fresh
          rw [if_pos rfl, if_pos rfl, prev, represents.stores_link node value, ← prev]
          refine ⟨_, _, rfl, ?_⟩
          have same : front ++ old :: (⟨node, value⟩ : Cell Val) :: back =
            front ++ [old] ++ ⟨node, value⟩ :: back := by simp
          rw [if_pos rfl, same]
          refine represents.link (front ++ [old]) back ⟨node, value⟩ fresh free ?_ ?_ rfl
          · rw [represents.head]
            simp
          · rw [represents.tail]
            cases back with
            | nil => simp
            | cons other back =>
                have apart : last none (other :: back) ≠ some old.address :=
                  last_ne_of_notMem notBack
                rw [last_cons] at apart
                simp [apart]
      | false =>
          rw [if_neg Bool.false_ne_true, if_neg Bool.false_ne_true]
          have next : some old.address = first (old :: back) none := rfl
          rw [next, represents.stores_link node value, ← next]
          refine ⟨_, _, rfl, ?_⟩
          rw [if_neg Bool.false_ne_true]
          refine represents.link front (old :: back) ⟨node, value⟩ fresh free ?_ ?_ rfl
          · rw [represents.head]
            cases front with
            | nil => simp
            | cons other front =>
                have apart : first (other :: front) none ≠ some old.address :=
                  first_ne_of_notMem notFront
                rw [first_cons] at apart
                simp [apart]
          · rw [represents.tail]
            simp

theorem listRotate (represents : ListOf around heap list cells) :
    ∃ stored after, list.listRotate heap = .ok (stored, after) ∧
      ListOf around stored after (rotated cells) := by
  rw [HiList.listRotate]
  by_cases short : list.len ≤ 1
  · rw [if_pos short]
    refine ⟨heap, list, rfl, ?_⟩
    rw [represents.len] at short
    cases cells with
    | nil => exact represents
    | cons cell cells =>
        cases cells with
        | nil => exact represents
        | cons other cells => simp at short
  · rw [if_neg short]
    rw [represents.len] at short
    obtain ⟨front, cell, rfl⟩ : ∃ front cell, cells = front ++ [cell] := by
      obtain rfl | ⟨front, cell, rfl⟩ := cells.eq_nil_or_concat
      · simp at short
      · exact ⟨front, cell, List.concat_eq_append⟩
    have filled : front ≠ [] := by
      rintro rfl
      simp at short
    have tail : list.tail = some cell.address := by
      rw [represents.tail, last_append]
      rfl
    have head : list.head = first front none := by
      rw [represents.head, first_append, first_of_ne_nil filled]
    have turned : rotated (front ++ [cell]) = cell :: front := by simp [rotated]
    obtain ⟨notFront, _⟩ := represents.notMem_front
    have linked := (linked_append.mp represents.linked).1
    have nodup : (addresses front).Nodup := by
      have nodup := represents.nodup
      rw [addresses, List.map_append] at nodup
      exact (List.nodup_append.mp nodup).1
    have live (address : Nat) (member : address ∈ addresses front) :
        (heap address).isSome = true := linked.live member
    have here := represents.linked.node
    rw [tail, head, loadNode_of_eq here, bind_ok]
    dsimp only
    rw [storeNext_eq (mt last_eq_none.mp filled) fun address known => live _ (mem_of_last known),
      bind_ok, storePrev_eq (mt first_eq_none.mp filled) fun address known => by
        rw [isSome_relinkNext]
        exact live _ (mem_of_first known), bind_ok]
    rw [storePrev_eq (by simp) fun address known => by
        obtain rfl : cell.address = address := Option.some.inj known
        rw [isSome_relinkPrev, isSome_relinkNext, here]
        rfl, bind_ok,
      storeNext_eq (by simp) fun address known => by
        obtain rfl : cell.address = address := Option.some.inj known
        rw [isSome_relinkPrev, isSome_relinkPrev, isSome_relinkNext, here]
        rfl, bind_ok]
    refine ⟨_, _, rfl, ?_⟩
    rw [turned]
    have moved := (linked.relinkNext nodup none).relinkPrev nodup (some cell.address)
    have apart (address : Nat) (member : address ∈ addresses front) :
        (some cell.address : Option Nat) ≠ some address := by
      rintro ⟨⟩
      exact notFront member
    exact {
      head := rfl
      tail := by
        rw [last_cons]
        exact last_of_ne_nil filled _ _
      len := by
        rw [represents.len]
        simp
      linked := by
        refine ⟨?_, moved.frame fun address member => ?_⟩
        · rw [relinkNext, setNext, Function.update_self, relinkPrev, setPrev, Function.update_self,
            relinkPrev_of_ne (first_ne_of_notMem notFront),
            relinkNext_of_ne (last_ne_of_notMem notFront), here]
          rfl
        · rw [relinkNext_of_ne (apart address member), relinkPrev_of_ne (apart address member)]
      nodup := List.nodup_cons.mpr ⟨notFront, nodup⟩
      others := fun address absent => by
        rw [addresses, List.map_cons, List.mem_cons, not_or] at absent
        have elsewhere : (some cell.address : Option Nat) ≠ some address :=
          fun same => absent.1 (Option.some.inj same).symm
        rw [relinkNext_of_ne elsewhere, relinkPrev_of_ne elsewhere,
          relinkPrev_of_ne (first_ne_of_notMem absent.2),
          relinkNext_of_ne (last_ne_of_notMem absent.2)]
        refine represents.others address ?_
        rw [addresses, List.map_append, List.mem_append, not_or]
        exact ⟨absent.2, by simpa using absent.1⟩
      own := fun address member => by
        refine represents.own address ?_
        rw [addresses, List.map_append, List.mem_append]
        rcases List.mem_cons.mp member with here | inFront
        · exact .inr (by simp [here])
        · exact .inl inFront }

end ListOf

/-! ## Going along the cells -/

theorem listNext_cons {before after : Option Nat} {cell : Cell Val}
    (linked : Linked heap before (cell :: cells) after) :
    listNext heap ⟨some cell.address, .startHead⟩ =
      .ok (some cell.address, ⟨first cells after, .startHead⟩) := by
  rw [listNext]
  dsimp only
  rw [loadNode_of_eq linked.1]
  rfl

theorem listSearchFrom_eq [DecidableEq Val] (type : ListType Val) (key : Val) {rounds : Nat}
    {before : Option Nat} (linked : Linked heap before cells none) (enough : cells.length < rounds) :
    listSearchFrom type heap key rounds ⟨first cells none, .startHead⟩ =
      .ok ((cells.find? fun cell => listMatches type cell.value key).map Cell.address) := by
  induction cells generalizing rounds before with
  | nil =>
      obtain ⟨rounds, rfl⟩ : ∃ fewer, rounds = fewer + 1 := ⟨rounds - 1, by
        rw [List.length_nil] at enough
        omega⟩
      rfl
  | cons cell cells induction =>
      rw [List.length_cons] at enough
      obtain ⟨rounds, rfl⟩ : ∃ fewer, rounds = fewer + 1 := ⟨rounds - 1, by omega⟩
      rw [first_cons, listSearchFrom, listNext_cons linked, bind_ok]
      dsimp only
      rw [loadNode_of_eq linked.1, bind_ok, List.find?_cons]
      cases listMatches type cell.value key with
      | true => rfl
      | false => exact induction linked.2 (by omega)

theorem listWalk_head (index : Nat) {before : Option Nat} (linked : Linked heap before cells none) :
    listWalk heap .startHead index (first cells none) = .ok (cells[index]?.map Cell.address) := by
  induction index generalizing cells before with
  | zero =>
      cases cells with
      | nil => rfl
      | cons cell cells => rfl
  | succ index induction =>
      cases cells with
      | nil => rfl
      | cons cell cells =>
          rw [first_cons, listWalk]
          rw [loadNode_of_eq linked.1, bind_ok, List.getElem?_cons_succ]
          exact induction linked.2

theorem listWalk_tail (index : Nat) {after : Option Nat} (linked : Linked heap none cells after) :
    listWalk heap .startTail index (last none cells) =
      .ok (cells.reverse[index]?.map Cell.address) := by
  induction index generalizing cells after with
  | zero =>
      obtain rfl | ⟨front, cell, rfl⟩ := cells.eq_nil_or_concat
      · rfl
      · rw [List.concat_eq_append, listWalk]
        simp
  | succ index induction =>
      obtain rfl | ⟨front, cell, rfl⟩ := cells.eq_nil_or_concat
      · rfl
      · rw [List.concat_eq_append] at linked ⊢
        rw [last_append, last_cons, last_nil, listWalk]
        rw [loadNode_of_eq linked.node, bind_ok, List.reverse_append, List.reverse_singleton,
          List.singleton_append, List.getElem?_cons_succ]
        exact induction (linked_append.mp linked).1

/-- What a call of `free` for every value gets. -/
def valuesFreed (type : ListType Val) (cells : List (Cell Val)) : List Val :=
  if type.free then cells.map Cell.value else []

theorem listReleaseFrom_eq (type : ListType Val) {before : Option Nat}
    (linked : Linked heap before cells none) (nodup : (addresses cells).Nodup) :
    HiList.listReleaseFrom type cells.length heap (first cells none) =
      .ok (fun address => if address ∈ addresses cells then none else heap address,
        valuesFreed type cells) := by
  induction cells generalizing heap before with
  | nil =>
      rw [List.length_nil, HiList.listReleaseFrom, valuesFreed]
      simp
  | cons cell cells induction =>
      obtain ⟨absent, nodup⟩ := List.nodup_cons.mp nodup
      have rest : Linked (Function.update heap cell.address none) (some cell.address) cells none :=
        linked.2.frame fun address member => Function.update_of_ne (fun same => by
          subst same
          exact absent member) _ _
      rw [List.length_cons, first_cons, HiList.listReleaseFrom, loadNode_of_eq linked.1, bind_ok]
      dsimp only
      rw [induction rest nodup, bind_ok]
      congr 2
      · funext address
        dsimp only
        rw [Function.update_apply, addresses, addresses, List.map_cons]
        by_cases same : address = cell.address
        · simp [same]
        · simp [same]
      · rw [valuesFreed, valuesFreed]
        cases type.free <;> rfl

/-- A list that is released gives back all its nodes. -/
theorem ListOf.listRelease (represents : ListOf around heap list cells)
    (type : ListType Val) :
    list.listRelease type heap = .ok (around, valuesFreed type cells) := by
  rw [HiList.listRelease, represents.len, represents.head,
    listReleaseFrom_eq type represents.linked represents.nodup]
  congr 2
  funext address
  split
  · rename_i member
    exact (represents.own address member).symm
  · rename_i absent
    exact represents.others address absent


/-! ## One call -/

/-- A list, with the replies so far and the values that were freed. -/
structure ListState (Val : Type) where
  heap : Heap Val
  list : HiList
  replies : List ListReply
  freed : List Val

namespace ListState

/-- A list that was just created in a heap. -/
def created (heap : Heap Val) : ListState Val := ⟨heap, .empty, [], []⟩

variable [DecidableEq Val]

/-- A call of one of the functions. -/
def step (type : ListType Val) (state : ListState Val) (call : ListCall Val) :
    Except ListFault (ListState Val) :=
  match call with
  | .addHead value malloc => do
      let result ← state.list.listAddNodeHead state.heap value malloc
      .ok ⟨result.2.1, result.2.2, state.replies ++ [.added result.1], state.freed⟩
  | .addTail value malloc => do
      let result ← state.list.listAddNodeTail state.heap value malloc
      .ok ⟨result.2.1, result.2.2, state.replies ++ [.added result.1], state.freed⟩
  | .insert oldNode value after malloc => do
      let result ← state.list.listInsertNode state.heap oldNode value after malloc
      .ok ⟨result.2.1, result.2.2, state.replies ++ [.added result.1], state.freed⟩
  | .delete node => do
      let result ← state.list.listDelNode type state.heap node
      .ok ⟨result.1, result.2.1, state.replies ++ [.done], state.freed ++ result.2.2⟩
  | .rotate => do
      let result ← state.list.listRotate state.heap
      .ok ⟨result.1, result.2, state.replies ++ [.done], state.freed⟩
  | .index index => do
      let result ← listIndex state.heap state.list index
      .ok { state with replies := state.replies ++ [.node result] }
  | .search key => do
      let result ← listSearchKey type state.heap state.list key
      .ok { state with replies := state.replies ++ [.node result] }

variable {around : Heap Val} {state : ListState Val} {cells : List (Cell Val)}

/-- A call does to a list what it does to the cells that the list stands for. -/
theorem step_spec (type : ListType Val)
    (represents : ListOf around state.heap state.list cells) {call : ListCall Val}
    (allowed : call.Allowed around cells) :
    ∃ heap list, state.step type call = .ok ⟨heap, list, state.replies ++ [call.reply type cells],
        state.freed ++ call.frees type cells⟩ ∧
      ListOf around heap list (call.cellsAfter cells) := by
  have unused : ∀ address ∈ call.malloc,
      address ∉ addresses cells ∧ state.heap address = none := fun address known => by
    obtain ⟨fresh, free⟩ := allowed.malloc address known
    exact ⟨fresh, (represents.others address fresh).trans free⟩
  cases call with
  | addHead value malloc =>
      rw [ListCall.malloc] at unused
      obtain ⟨heap, list, result, after⟩ := represents.listAddNodeHead value unused
      refine ⟨heap, list, ?_, after⟩
      rw [step, result, bind_ok, ListCall.frees, List.append_nil]
      rfl
  | addTail value malloc =>
      rw [ListCall.malloc] at unused
      obtain ⟨heap, list, result, after⟩ := represents.listAddNodeTail value unused
      refine ⟨heap, list, ?_, after⟩
      rw [step, result, bind_ok, ListCall.frees, List.append_nil]
      rfl
  | insert oldNode value after malloc =>
      rw [ListCall.malloc] at unused
      obtain ⟨heap, list, result, next⟩ :=
        represents.listInsertNode (allowed.node oldNode rfl) value after unused
      refine ⟨heap, list, ?_, next⟩
      rw [step, result, bind_ok, ListCall.frees, List.append_nil]
      rfl
  | delete node =>
      obtain ⟨heap, list, result, after⟩ :=
        represents.listDelNode type (allowed.node node rfl)
      refine ⟨heap, list, ?_, after⟩
      rw [step, result, bind_ok]
      rfl
  | rotate =>
      obtain ⟨heap, list, result, after⟩ := represents.listRotate
      refine ⟨heap, list, ?_, after⟩
      rw [step, result, bind_ok, ListCall.frees, List.append_nil]
      rfl
  | index place =>
      refine ⟨state.heap, state.list, ?_, represents⟩
      rw [step, listIndex, represents.head, represents.tail, ListCall.frees, List.append_nil,
        ListCall.reply]
      by_cases negative : place < 0
      · have other : place ≠ longMin := fun same => allowed.place (congrArg ListCall.index same)
        rw [if_pos negative, if_neg other, if_pos negative, listWalk_tail _ represents.linked, bind_ok]
      · rw [if_neg negative, if_neg negative, listWalk_head _ represents.linked, bind_ok]
  | search key =>
      refine ⟨state.heap, state.list, ?_, represents⟩
      have found := listSearchFrom_eq type key represents.linked (Nat.lt_succ_self _)
      rw [step, listSearchKey, listRewind, represents.head, represents.len, found, bind_ok,
        ListCall.frees, List.append_nil]
      rfl

/-! ## All calls -/

/-- The cells after some calls. -/
def cellsAlong (cells : List (Cell Val)) (calls : List (ListCall Val)) : List (Cell Val) :=
  calls.foldl ListCall.cellsAfter cells

/-- The replies of a sequence of cells. -/
def repliesAlong (type : ListType Val) : List (Cell Val) → List (ListCall Val) → List ListReply
  | _, [] => []
  | cells, call :: calls => call.reply type cells :: repliesAlong type (call.cellsAfter cells) calls

/-- The values that are freed along some calls. -/
def freesAlong (type : ListType Val) : List (Cell Val) → List (ListCall Val) → List Val
  | _, [] => []
  | cells, call :: calls => call.frees type cells ++ freesAlong type (call.cellsAfter cells) calls

/-- Every call may be made when it is. -/
def AllowedAlong (around : Heap Val) : List (Cell Val) → List (ListCall Val) → Prop
  | _, [] => True
  | cells, call :: calls =>
      call.Allowed around cells ∧ AllowedAlong around (call.cellsAfter cells) calls

instance decidableAllowedAlong (around : Heap Val) :
    ∀ cells calls, Decidable (AllowedAlong around cells calls)
  | _, [] => .isTrue trivial
  | cells, call :: calls =>
      have := decidableAllowedAlong around (call.cellsAfter cells) calls
      instDecidableAnd

theorem run_spec (type : ListType Val) {calls : List (ListCall Val)}
    (represents : ListOf around state.heap state.list cells)
    (allowed : AllowedAlong around cells calls) :
    ∃ heap list, Runs.run (step type) state calls = .ok ⟨heap, list,
        state.replies ++ repliesAlong type cells calls, state.freed ++ freesAlong type cells calls⟩ ∧
      ListOf around heap list (cellsAlong cells calls) := by
  induction calls generalizing state cells with
  | nil =>
      refine ⟨state.heap, state.list, ?_, represents⟩
      rw [repliesAlong, freesAlong, List.append_nil, List.append_nil]
      rfl
  | cons call calls induction =>
      obtain ⟨heap, list, taken, after⟩ := step_spec type represents allowed.1
      obtain ⟨last, final, reached, ends⟩ := @induction ⟨heap, list, _, _⟩ _ after allowed.2
      refine ⟨last, final, ?_, ends⟩
      rw [Runs.run, taken, bind_ok, reached, repliesAlong, freesAlong]
      simp

/-- Along every sequence of calls, with any failures of the allocator, a list replies as a sequence
does, and it changes no other nodes. When it is released the heap is as it was before, and the values
have been freed that were deleted or left. -/
theorem list_is_sequence (type : ListType Val) (around : Heap Val) {calls : List (ListCall Val)}
    (allowed : AllowedAlong around [] calls) :
    ∃ final, Runs.run (step type) (created around) calls = .ok final ∧
      final.replies = repliesAlong type [] calls ∧
      ListOf around final.heap final.list (cellsAlong [] calls) ∧
      ∃ values, final.list.listRelease type final.heap = .ok (around, values) ∧
        final.freed ++ values = freesAlong type [] calls ++ valuesFreed type (cellsAlong [] calls) := by
  obtain ⟨heap, list, reached, represents⟩ :=
    @run_spec _ _ around (created around) [] type calls (listOf_empty around) allowed
  exact ⟨_, reached, rfl, represents, _, represents.listRelease type, rfl⟩

end ListState

/-! ## Requests -/

/-- `cc->requests`, whose commands are freed with their nodes. -/
def requestsType : ListType Nat where
  dup := none
  free := true
  matchKey := none

/-- Four commands, of which one has no node. One is inserted, one found and one deleted. -/
def requestCalls : List (ListCall Nat) :=
  [.addTail 10 (some 1), .addTail 20 (some 2), .addHead 5 none, .addHead 6 (some 3),
    .insert 1 15 true (some 4), .rotate, .search 15, .index (-2), .delete 2, .index 5]

theorem requests_are_sequence : ∃ final,
    Runs.run (ListState.step requestsType) (.created fun _ => none) requestCalls = .ok final ∧
      final.replies = ListState.repliesAlong requestsType [] requestCalls ∧
      ListOf (fun _ => none) final.heap final.list (ListState.cellsAlong [] requestCalls) ∧
      ∃ values, final.list.listRelease requestsType final.heap = .ok (fun _ => none, values) ∧
        final.freed ++ values = ListState.freesAlong requestsType [] requestCalls ++
          valuesFreed requestsType (ListState.cellsAlong [] requestCalls) :=
  ListState.list_is_sequence requestsType _ (by decide +kernel)

end Libvalkey
