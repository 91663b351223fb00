import Libvalkey.Containers.ListRuns
import Mathlib.Data.List.ReduceOption

/-! # Iterators and copies of a list

The node that an iterator has returned may be deleted before it goes on. A copy is made node by
node, and given back if there is no memory for all of it. -/

namespace Libvalkey

open LinkedList Checked

variable {Val : Type} {around heap : Heap Val} {list : HiList} {cells : List (Cell Val)}

/-! ## Deleting while iterating -/

/-- The cells as an iterator meets them. -/
def Direction.along (direction : Direction) (cells : List (Cell Val)) : List (Cell Val) :=
  match direction with
  | .startHead => cells
  | .startTail => cells.reverse

/-- A list that is gone through, with the nodes that were returned and the values that were freed. -/
structure ListVisit (Val : Type) where
  heap : Heap Val
  list : HiList
  iter : ListIter
  visited : List Nat
  freed : List Val

namespace ListVisit

def start (heap : Heap Val) (list : HiList) (direction : Direction) : ListVisit Val :=
  ⟨heap, list, listRewind list direction, [], []⟩

/-- The next node is asked for, and may be deleted. -/
def step (type : ListType Val) (state : ListVisit Val) (delete : Bool) :
    Except ListFault (ListVisit Val) := do
  let next ← listNext state.heap state.iter
  match next.1 with
  | none => .ok { state with iter := next.2 }
  | some node =>
      if delete then
        let deleted ← state.list.listDelNode type state.heap node
        .ok ⟨deleted.1, deleted.2.1, next.2, state.visited ++ [node], state.freed ++ deleted.2.2⟩
      else .ok { state with iter := next.2, visited := state.visited ++ [node] }

/-- The cells that are not deleted. -/
def kept (cells : List (Cell Val)) (deletions : List Bool) : List (Cell Val) :=
  (cells.zip deletions).filterMap fun choice => if choice.2 then none else some choice.1

/-- A list of which some cells are kept and the rest is to come. -/
structure Visits (around : Heap Val) (state : ListVisit Val) (direction : Direction)
    (before rest : List (Cell Val)) : Prop where
  represents : ∃ cells, ListOf around state.heap state.list cells ∧
    direction.along cells = before ++ rest
  iter : state.iter = ⟨rest.head?.map Cell.address, direction⟩

variable {state : ListVisit Val} {direction : Direction} {before rest : List (Cell Val)}
  {cell : Cell Val}

theorem visits_start (represents : ListOf around heap list cells) (direction : Direction) :
    Visits around (start heap list direction) direction [] (direction.along cells) where
  represents := ⟨cells, represents, rfl⟩
  iter := by
    cases direction with
    | startHead =>
        rw [start, listRewind, represents.head, Direction.along, first, Option.or_none]
    | startTail =>
        rw [start, listRewind, represents.tail, Direction.along, last, Option.or_none,
          List.head?_reverse]

/-- The cells before and behind the one that is returned. -/
theorem split_along (whole : direction.along cells = before ++ cell :: rest) :
    ∃ front back, cells = front ++ cell :: back ∧
      direction.along (front ++ back) = before ++ rest ∧
      direction.follow ⟨last none front, first back none, cell.value⟩ =
        rest.head?.map Cell.address := by
  cases direction with
  | startHead =>
      refine ⟨before, rest, whole, rfl, ?_⟩
      rw [Direction.follow, first, Option.or_none]
  | startTail =>
      refine ⟨rest.reverse, before.reverse, ?_, ?_, ?_⟩
      · have turned := congrArg List.reverse whole
        rw [Direction.along, List.reverse_reverse] at turned
        simpa using turned
      · simp [Direction.along]
      · rw [Direction.follow, last, Option.or_none, List.getLast?_reverse]

theorem Visits.step (type : ListType Val)
    (visits : Visits around state direction before (cell :: rest)) (delete : Bool) :
    ∃ next, state.step type delete = .ok next ∧ next.visited = state.visited ++ [cell.address] ∧
      Visits around next direction (before ++ kept [cell] [delete]) rest := by
  obtain ⟨⟨cells, represents, whole⟩, iter⟩ := visits
  obtain ⟨front, back, rfl, remaining, ahead⟩ := split_along whole
  have member : cell.address ∈ addresses (front ++ cell :: back) :=
    List.mem_map_of_mem (by simp)
  have next : listNext state.heap state.iter =
      .ok (some cell.address, ⟨rest.head?.map Cell.address, direction⟩) := by
    rw [iter, ← ahead, List.head?_cons, Option.map_some, listNext]
    dsimp only
    rw [loadNode_of_eq represents.linked.node]
    rfl
  rw [ListVisit.step, next, bind_ok]
  cases delete with
  | true =>
      obtain ⟨heap, list, deleted, after⟩ := represents.listDelNode type member
      have fronts : ∀ other ∈ front, ¬ decide (other.address = cell.address) = true :=
        fun other inFront same => represents.notMem_front.1
          (List.mem_map.mpr ⟨other, inFront, of_decide_eq_true same⟩)
      rw [ListCall.cellsAfter, List.eraseP_append_right _ fronts,
        List.eraseP_cons_of_pos (by simp)] at after
      dsimp only
      rw [if_pos rfl, deleted, bind_ok]
      refine ⟨_, rfl, rfl, ⟨front ++ back, after, ?_⟩, rfl⟩
      simpa [kept] using remaining
  | false =>
      refine ⟨_, rfl, rfl, ⟨front ++ cell :: back, represents, ?_⟩, rfl⟩
      simpa [kept] using whole

theorem Visits.run (type : ListType Val) {deletions : List Bool}
    (visits : Visits around state direction before rest) (all : deletions.length = rest.length) :
    ∃ final, Runs.run (ListVisit.step type) state deletions = .ok final ∧
      final.visited = state.visited ++ addresses rest ∧
      Visits around final direction (before ++ kept rest deletions) [] := by
  induction deletions generalizing state before rest with
  | nil =>
      have none : rest = [] := List.eq_nil_of_length_eq_zero all.symm
      subst none
      exact ⟨state, rfl, (List.append_nil _).symm, by simpa [kept] using visits⟩
  | cons delete deletions induction =>
      cases rest with
      | nil => cases all
      | cons cell rest =>
          obtain ⟨next, taken, visited, continues⟩ := visits.step type delete
          obtain ⟨final, reached, finalVisited, ends⟩ := induction continues (Nat.succ.inj all)
          refine ⟨final, ?_, ?_, ?_⟩
          · rw [Runs.run, taken]
            exact reached
          · rw [finalVisited, visited, List.append_assoc]
            rfl
          · cases delete <;> simpa [kept] using ends

/-- An iterator returns every node of a list once, from either end, and then `NULL`, whichever of the
nodes are deleted when they have been returned. The others stay in the list. -/
theorem nodes_visited_once [DecidableEq Val] (type : ListType Val) (around : Heap Val)
    {calls : List (ListCall Val)} (allowed : ListState.AllowedAlong around [] calls)
    {reached : ListState Val}
    (run : Runs.run (ListState.step type) (.created around) calls = .ok reached)
    (direction : Direction) {deletions : List Bool}
    (all : deletions.length = (ListState.cellsAlong [] calls).length) :
    ∃ final, Runs.run (step type) (start reached.heap reached.list direction) deletions = .ok final ∧
      final.visited = addresses (direction.along (ListState.cellsAlong [] calls)) ∧
      listNext final.heap final.iter = .ok (none, final.iter) ∧
      ∃ cells, ListOf around final.heap final.list cells ∧
        direction.along cells = kept (direction.along (ListState.cellsAlong [] calls)) deletions := by
  obtain ⟨heap, list, same, represents⟩ :=
    @ListState.run_spec _ _ around (.created around) [] type calls (listOf_empty around) allowed
  cases run.symm.trans same
  have long : deletions.length = (direction.along (ListState.cellsAlong [] calls)).length := by
    rw [all]
    cases direction with
    | startHead => rfl
    | startTail => exact List.length_reverse.symm
  obtain ⟨final, finalRun, visited, ends⟩ := (visits_start represents direction).run type long
  obtain ⟨⟨cells, finalRepresents, left⟩, iter⟩ := ends
  refine ⟨final, finalRun, visited, ?_, cells, finalRepresents, by simpa using left⟩
  rw [iter]
  rfl

end ListVisit

/-! ## Copies -/

/-- New blocks are at different addresses that are not in use. -/
structure Unused (heap : Heap Val) (mallocs : List (Option Nat)) : Prop where
  free : ∀ address, some address ∈ mallocs → heap address = none
  nodup : mallocs.reduceOption.Nodup

theorem listDupFrom_spec (type : ListType Val) {stored : Heap Val} {copy : HiList}
    {copied : List (Cell Val)} {mallocs : List (Option Nat)} {rounds : Nat} {before : Option Nat}
    (linked : Linked heap before cells none) (represents : ListOf heap stored copy copied)
    (unused : Unused heap mallocs) (fresh : ∀ address, some address ∈ mallocs →
      address ∉ addresses copied) (enough : cells.length < rounds) :
    ∃ result after freed, listDupFrom type rounds mallocs stored copy ⟨first cells none, .startHead⟩ =
        .ok (result, after, freed) ∧
      (result = none ∧ after = heap ∧
          ((∃ cell ∈ cells, listDupValue type cell.value = none) ∨
            ∃ place < cells.length, mallocs.getD place none = none) ∨
        ∃ final copies, result = some final ∧ ListOf heap after final (copied ++ copies) ∧
          copies.map (fun cell => some cell.value) =
            cells.map fun cell => listDupValue type cell.value) := by
  induction cells generalizing stored copy copied mallocs rounds before with
  | nil =>
      obtain ⟨rounds, rfl⟩ : ∃ fewer, rounds = fewer + 1 := ⟨rounds - 1, by
        rw [List.length_nil] at enough
        omega⟩
      exact ⟨some copy, stored, [], rfl, .inr ⟨copy, [], rfl, by simpa using represents, rfl⟩⟩
  | cons cell cells induction =>
      rw [List.length_cons] at enough
      obtain ⟨rounds, rfl⟩ : ∃ fewer, rounds = fewer + 1 := ⟨rounds - 1, by omega⟩
      have there : stored cell.address = some ⟨before, first cells none, cell.value⟩ := by
        rw [represents.others, linked.1]
        intro member
        have own := represents.own _ member
        rw [linked.1] at own
        cases own
      have next : listNext stored ⟨some cell.address, .startHead⟩ =
          .ok (some cell.address, ⟨first cells none, .startHead⟩) := by
        rw [listNext]
        dsimp only
        rw [loadNode_of_eq there]
        rfl
      have given := represents.listRelease type
      rw [first_cons, listDupFrom, next, bind_ok]
      dsimp only
      rw [loadNode_of_eq there, bind_ok]
      dsimp only
      cases known : listDupValue type cell.value with
      | none =>
          rw [given]
          exact ⟨none, heap, _, rfl, .inl ⟨rfl, rfl, .inl ⟨cell, List.mem_cons_self, known⟩⟩⟩
      | some value =>
          have stops (none : mallocs.headD none = none) : mallocs.getD 0 Option.none = Option.none := by
            cases mallocs with
            | nil => rfl
            | cons first others => exact none
          cases block : mallocs.headD none with
          | none =>
              rw [given]
              exact ⟨none, heap, _, rfl,
                .inl ⟨rfl, rfl, .inr ⟨0, Nat.succ_pos _, stops block⟩⟩⟩
          | some address =>
              obtain ⟨others, rfl⟩ : ∃ others, mallocs = some address :: others := by
                cases mallocs with
                | nil => cases block
                | cons first others => exact ⟨others, by rw [List.headD_cons] at block; rw [block]⟩
              have notCopied := fresh address List.mem_cons_self
              have free : stored address = none :=
                (represents.others _ notCopied).trans (unused.free _ List.mem_cons_self)
              obtain ⟨next, added, result, grown⟩ :=
                @ListOf.listAddNodeTail _ _ _ _ _ represents value (some address)
                  fun other same => by
                    obtain rfl : address = other := Option.some.inj same
                    exact ⟨notCopied, free⟩
              obtain ⟨notLater, nodup⟩ := List.nodup_cons.mp
                (show (address :: others.reduceOption).Nodup from unused.nodup)
              have later : Unused heap others :=
                ⟨fun other member => unused.free other (List.mem_cons_of_mem _ member), nodup⟩
              obtain ⟨last, after, freed, rest, outcome⟩ := induction linked.2 grown later
                (fun other member => by
                  rw [addresses, List.map_append, List.mem_append, not_or]
                  refine ⟨fresh other (List.mem_cons_of_mem _ member), fun same => notLater ?_⟩
                  obtain rfl : other = address := by simpa using same
                  exact List.reduceOption_mem_iff.mpr member) (Nat.lt_of_succ_lt_succ enough)
              dsimp only
              rw [result, bind_ok]
              dsimp only
              rw [Option.isSome_some, if_pos rfl, List.tail_cons]
              refine ⟨last, after, freed, rest, ?_⟩
              rcases outcome with ⟨failed, same, why⟩ | ⟨final, copies, success, copy, values⟩
              · refine .inl ⟨failed, same, ?_⟩
                rcases why with ⟨bad, member, reason⟩ | ⟨place, inside, reason⟩
                · exact .inl ⟨bad, List.mem_cons_of_mem _ member, reason⟩
                · exact .inr ⟨place + 1, by rw [List.length_cons]; omega, reason⟩
              · refine .inr ⟨final, ⟨address, value⟩ :: copies, success, ?_, ?_⟩
                · simpa using copy
                · rw [List.map_cons, List.map_cons, values]
                  rw [known]

/-- Three requests are gone through from the tail, and the last two of them are deleted. -/
theorem requests_visited_once : ∃ reached final,
    Runs.run (ListState.step requestsType) (.created fun _ => none) requestCalls = .ok reached ∧
      Runs.run (ListVisit.step requestsType) (.start reached.heap reached.list .startTail)
        [true, true, false] = .ok final ∧
      final.visited = addresses (Direction.startTail.along (ListState.cellsAlong [] requestCalls)) ∧
      listNext final.heap final.iter = .ok (none, final.iter) ∧
      ∃ cells, ListOf (fun _ => none) final.heap final.list cells ∧
        Direction.startTail.along cells = ListVisit.kept
          (Direction.startTail.along (ListState.cellsAlong [] requestCalls)) [true, true, false] := by
  have allowed : ListState.AllowedAlong (fun _ => none) [] requestCalls := by decide +kernel
  obtain ⟨reached, run, _⟩ := exists_of_passes (show passes
    (Runs.run (ListState.step requestsType) (.created fun _ => none) requestCalls)
    (fun _ => true) = true by decide +kernel)
  obtain ⟨final, visits⟩ := @ListVisit.nodes_visited_once _ _ requestsType _ _ allowed reached run
    .startTail [true, true, false] (by decide +kernel)
  exact ⟨reached, final, run, visits⟩

end Libvalkey
