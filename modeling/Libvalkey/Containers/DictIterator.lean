import Libvalkey.Containers.DictRuns

/-! # Iterators of a dictionary

An iterator keeps the entry that it returned last and the one behind it. The entry that was
returned may be deleted before the next one is asked for. -/

namespace Libvalkey

open HashTable KeyedMap Checked Runs

variable {Key Val : Type}

/-- `dictIterator`, with the addresses of its entries. -/
structure DictIterator where
  index : Int
  entry : Option Nat
  nextEntry : Option Nat
  deriving DecidableEq, Repr

/-- `dictInitIterator` -/
def dictInitIterator : DictIterator := ⟨-1, none, none⟩

/-- The entry of a chain at an address, and the address that it has as `next`. -/
def chainEntry (address : Nat) : List (DictEntry Key Val) → Option (DictEntry Key Val × Option Nat)
  | [] => none
  | he :: chain =>
      if he.address = address then some (he, chain.head?.map DictEntry.address)
      else chainEntry address chain

namespace Dict

variable (ht : Dict Key Val)

/-- What is read through the pointer to an entry. -/
def entryAt (address : Nat) : Except DictFault (DictEntry Key Val × Option Nat) :=
  match ht.table.findSome? (chainEntry address) with
  | some found => .ok found
  | none => .error .freed

/-- The first half of a round of `dictNext`: the loop is left, or there is an entry to look at. -/
def advance (iter : DictIterator) : Except DictFault (DictIterator ⊕ DictIterator) :=
  match iter.entry with
  | none =>
      if iter.index = 2 ^ 31 - 1 then .error .overflow
      else if toInt32 ht.size ≤ iter.index + 1 then
        .ok (.inl { iter with index := iter.index + 1 })
      else
        match ht.table[(iter.index + 1).toNat]? with
        | none => .error .outside
        | some chain => .ok (.inr { iter with
            index := iter.index + 1
            entry := chain.head?.map DictEntry.address })
  | some _ => .ok (.inr { iter with entry := iter.nextEntry })

/-- The loop of `dictNext`. The first argument bounds its rounds. -/
def dictNextFrom : Nat → DictIterator →
    Except DictFault (Option (DictEntry Key Val) × DictIterator)
  | 0, iter => .ok (none, iter)
  | rounds + 1, iter => do
      let moved ← ht.advance iter
      match moved with
      | .inl iter => .ok (none, iter)
      | .inr iter =>
          match iter.entry with
          | none => dictNextFrom rounds iter
          | some address =>
              let found ← ht.entryAt address
              .ok (some found.1, { iter with nextEntry := found.2 })

/-- `dictNext` -/
def dictNext (iter : DictIterator) : Except DictFault (Option (DictEntry Key Val) × DictIterator) :=
  ht.dictNextFrom (ht.size + 2) iter

end Dict

/-! ## Where an iterator stands -/

/-- The entries that an iterator has not returned yet. Those that it has returned may be gone. -/
inductive Stands (ht : Dict Key Val) : DictIterator → List (DictEntry Key Val) → Prop
  | between {index : Int} {nextEntry : Option Nat} (lower : -1 ≤ index) (upper : index < ht.size) :
      Stands ht ⟨index, none, nextEntry⟩ (ht.table.drop (index + 1).toNat).flatten
  | inside {index : Nat} {address : Nat} {nextEntry : Option Nat}
      {past ahead : List (DictEntry Key Val)} (chain : ht.table[index]? = some (past ++ ahead))
      (next : nextEntry = ahead.head?.map DictEntry.address) :
      Stands ht ⟨index, some address, nextEntry⟩ (ahead ++ (ht.table.drop (index + 1)).flatten)

theorem chainEntry_eq_none {chain : List (DictEntry Key Val)} {address : Nat}
    (absent : address ∉ chain.map DictEntry.address) : chainEntry address chain = none := by
  induction chain with
  | nil => rfl
  | cons he chain induction =>
      rw [List.map_cons, List.mem_cons, not_or] at absent
      rw [chainEntry, if_neg (Ne.symm absent.1), induction absent.2]

theorem chainEntry_append {past ahead : List (DictEntry Key Val)} {he : DictEntry Key Val}
    (absent : he.address ∉ past.map DictEntry.address) :
    chainEntry he.address (past ++ he :: ahead) =
      some (he, ahead.head?.map DictEntry.address) := by
  induction past with
  | nil => rw [List.nil_append, chainEntry, if_pos rfl]
  | cons other past induction =>
      rw [List.map_cons, List.mem_cons, not_or] at absent
      rw [List.cons_append, chainEntry, if_neg (Ne.symm absent.1), induction absent.2]

namespace Dict

variable {ht : Dict Key Val}

/-- An entry that is in its chain can be read, with the one behind it. -/
theorem entryAt_eq (addresses : (ht.entries.map DictEntry.address).Nodup) {index : Nat}
    {past ahead : List (DictEntry Key Val)} {he : DictEntry Key Val}
    (chain : ht.table[index]? = some (past ++ he :: ahead)) :
    ht.entryAt he.address = .ok (he, ahead.head?.map DictEntry.address) := by
  obtain ⟨inside, there⟩ := List.getElem?_eq_some_iff.mp chain
  have split := eq_append_getD inside
  rw [List.getD_eq_getElem?_getD, chain, Option.getD_some] at split
  unfold entries at addresses
  rw [split, List.flatten_append, List.flatten_cons, List.map_append, List.map_append,
    List.map_append, List.map_cons, List.nodup_append] at addresses
  obtain ⟨_, others, apart⟩ := addresses
  rw [List.append_assoc, List.nodup_append] at others
  obtain ⟨_, _, apartPast⟩ := others
  have first : (ht.table.take index).findSome? (chainEntry he.address) = none := by
    refine List.findSome?_eq_none_iff.mpr fun other member => chainEntry_eq_none fun absent => ?_
    obtain ⟨same, inOther, equal⟩ := List.mem_map.mp absent
    refine apart same.address ?_ he.address (by simp) equal
    exact List.mem_map_of_mem (List.mem_flatten_of_mem member inOther)
  have notPast : he.address ∉ past.map DictEntry.address := fun member =>
    apartPast _ member _ (by simp) rfl
  rw [entryAt, split, List.findSome?_append, first, Option.none_or, List.findSome?_cons,
    chainEntry_append notPast]

end Dict

/-- An iterator that has just returned an entry, with those that are to come. -/
inductive JustReturned (ht : Dict Key Val) :
    DictIterator → DictEntry Key Val → List (DictEntry Key Val) → Prop
  | last {index : Nat} {past ahead : List (DictEntry Key Val)} {he : DictEntry Key Val}
      (chain : ht.table[index]? = some (past ++ he :: ahead)) :
      JustReturned ht ⟨index, some he.address, ahead.head?.map DictEntry.address⟩ he
        (ahead ++ (ht.table.drop (index + 1)).flatten)

theorem JustReturned.stands {ht : Dict Key Val} {iter : DictIterator} {he : DictEntry Key Val}
    {rest : List (DictEntry Key Val)} (returns : JustReturned ht iter he rest) : Stands ht iter rest := by
  cases returns with
  | last chain => exact .inside (by rw [chain, List.append_cons]) rfl

namespace Dict

variable {ht : Dict Key Val} {iter : DictIterator} {rest : List (DictEntry Key Val)}

/-- The chain that an iterator enters. -/
theorem drop_succ_eq {index : Nat} {chain : List (DictEntry Key Val)}
    (known : ht.table[index]? = some chain) :
    ht.table.drop index = chain :: ht.table.drop (index + 1) := by
  obtain ⟨inside, rfl⟩ := List.getElem?_eq_some_iff.mp known
  exact List.drop_eq_getElem_cons inside

theorem advance_ended {index : Int} {nextEntry : Option Nat} (small : ht.size < 2 ^ 31)
    (ended : (ht.size : Int) ≤ index + 1) (inside : index < ht.size) :
    ht.advance ⟨index, none, nextEntry⟩ = .ok (.inl ⟨index + 1, none, nextEntry⟩) := by
  rw [advance]
  dsimp only
  rw [if_neg (by omega), toInt32_of_small small, if_pos ended]

theorem advance_between {index : Int} {nextEntry : Option Nat} {place : Nat}
    {chain : List (DictEntry Key Val)} (small : ht.size < 2 ^ 31) (here : index + 1 = place)
    (known : ht.table[place]? = some chain) :
    ht.advance ⟨index, none, nextEntry⟩ =
      .ok (.inr ⟨place, chain.head?.map DictEntry.address, nextEntry⟩) := by
  have inside : place < ht.size := (List.getElem?_eq_some_iff.mp known).1
  rw [advance]
  dsimp only
  rw [if_neg (by omega), toInt32_of_small small, if_neg (by omega), here, Int.toNat_natCast, known]

theorem dictNextFrom_returns (addresses : (ht.entries.map DictEntry.address).Nodup) (rounds : Nat)
    {index : Nat} {nextEntry : Option Nat} {he : DictEntry Key Val}
    {past ahead : List (DictEntry Key Val)}
    (known : ht.table[index]? = some (past ++ he :: ahead))
    (moved : ht.advance iter = .ok (.inr ⟨index, some he.address, nextEntry⟩)) :
    ∃ after, ht.dictNextFrom (rounds + 1) iter = .ok (some he, after) ∧
      JustReturned ht after he (ahead ++ (ht.table.drop (index + 1)).flatten) := by
  refine ⟨_, ?_, .last known⟩
  rw [dictNextFrom, moved, bind_ok]
  dsimp only
  rw [entryAt_eq addresses known]
  rfl

theorem dictNextFrom_continues {rounds : Nat} {after : DictIterator}
    (moved : ht.advance iter = .ok (.inr after)) (none : after.entry = none) :
    ht.dictNextFrom (rounds + 1) iter = ht.dictNextFrom rounds after := by
  rw [dictNextFrom, moved, bind_ok]
  dsimp only
  rw [none]

/-- The next entry is the first of those that were not returned. -/
theorem dictNextFrom_spec (addresses : (ht.entries.map DictEntry.address).Nodup)
    (small : ht.size < 2 ^ 31) {rounds : Nat} (stands : Stands ht iter rest)
    (enough : (ht.size - iter.index).toNat + (if iter.entry = none then 0 else 1) < rounds) :
    ∃ after, ht.dictNextFrom rounds iter = .ok (rest.head?, after) ∧
      ∀ he tail, rest = he :: tail → JustReturned ht after he tail := by
  induction rounds generalizing iter rest with
  | zero => omega
  | succ rounds induction =>
      cases stands with
      | @between index nextEntry lower upper =>
          rw [if_pos rfl] at enough
          obtain ⟨place, here⟩ : ∃ place : Nat, index + 1 = place := ⟨(index + 1).toNat, by omega⟩
          rw [here, Int.toNat_natCast]
          by_cases ended : ht.size ≤ place
          · have moved := @advance_ended _ _ ht index nextEntry small (by omega) upper
            rw [List.drop_of_length_le ended, dictNextFrom, moved]
            exact ⟨_, rfl, fun he tail wrong => absurd wrong (by simp)⟩
          · have known : ht.table[place]? = some (ht.table.get ⟨place, Nat.lt_of_not_le ended⟩) :=
              List.getElem?_eq_getElem _
            have moved := @advance_between _ _ ht index nextEntry _ _ small here known
            rw [drop_succ_eq known]
            generalize ht.table.get ⟨place, Nat.lt_of_not_le ended⟩ = chain at known moved
            cases chain with
            | nil =>
                have later : Stands ht ⟨place, none, nextEntry⟩
                    (ht.table.drop (place + 1)).flatten := .between (by omega) (by omega)
                rw [List.head?_nil, Option.map_none] at moved
                rw [dictNextFrom_continues moved rfl]
                exact induction later (by rw [if_pos rfl]; dsimp only at enough ⊢; omega)
            | cons he ahead =>
                obtain ⟨after, result, returns⟩ :=
                  @dictNextFrom_returns _ _ ht _ addresses rounds _ _ _ [] ahead known moved
                refine ⟨after, result, fun other tail same => ?_⟩
                obtain ⟨rfl, rfl⟩ := List.cons.inj same
                exact returns
      | @inside index address nextEntry past ahead known next =>
          rw [if_neg (by simp)] at enough
          have moved : ht.advance ⟨index, some address, nextEntry⟩ =
              .ok (.inr ⟨index, nextEntry, nextEntry⟩) := rfl
          have inside : index < ht.size := (List.getElem?_eq_some_iff.mp known).1
          cases ahead with
          | nil =>
              have later : Stands ht ⟨index, none, none⟩ (ht.table.drop (index + 1)).flatten :=
                .between (by omega) (by omega)
              rw [next, List.head?_nil, Option.map_none] at moved ⊢
              rw [dictNextFrom_continues moved rfl]
              exact induction later (by rw [if_pos rfl]; dsimp only at enough ⊢; omega)
          | cons he ahead =>
              rw [next] at moved ⊢
              obtain ⟨after, result, returns⟩ := dictNextFrom_returns addresses rounds known moved
              refine ⟨after, result, fun other tail same => ?_⟩
              obtain ⟨rfl, rfl⟩ := List.cons.inj same
              exact returns

theorem dictNext_spec (addresses : (ht.entries.map DictEntry.address).Nodup)
    (small : ht.size < 2 ^ 31) (stands : Stands ht iter rest) :
    ∃ after, ht.dictNext iter = .ok (rest.head?, after) ∧
      ∀ he tail, rest = he :: tail → JustReturned ht after he tail := by
  refine dictNextFrom_spec addresses small stands ?_
  cases stands with
  | between lower upper =>
      rw [if_pos rfl]
      dsimp only
      omega
  | inside known next =>
      rw [if_neg (by simp)]
      dsimp only
      omega

theorem stands_init : Stands ht dictInitIterator ht.entries := by
  have all : Stands ht ⟨-1, none, none⟩ (ht.table.drop (-1 + 1 : Int).toNat).flatten :=
    .between (by omega) (by omega)
  exact all

/-! ## Deleting while iterating -/

section Deleting

variable [DecidableEq Key] {type : DictType Key} {he : DictEntry Key Val}

/-- An iterator goes on as before if the entry that it has returned is deleted. -/
theorem WellFormed.returns_deleted (wellFormed : ht.WellFormed type) (lawful : type.Lawful)
    (returns : JustReturned ht iter he rest) :
    ∃ after, ht.dictDelete type he.key =
        .ok (.ok, after, dictFreeEntryKey type he ++ dictFreeEntryVal type he) ∧
      after.WellFormed type ∧ after.size = ht.size ∧ Stands after iter rest ∧
      after.entries =
        KeyedMap.remove (dictCompareHashKeys type) DictEntry.key ht.entries he.key := by
  cases returns with
  | @last index past ahead _ known =>
      have inChain : he ∈ past ++ he :: ahead := by simp
      have member : he ∈ ht.entries := List.mem_flatten_of_mem (List.mem_of_getElem? known) inChain
      have found : ht.lookup type he.key = some he :=
        wellFormed.distinct.find_of_mem lawful.equivalent member (lawful.equivalent.refl _)
      obtain ⟨after, result, afterWellFormed, rest, table⟩ :=
        wellFormed.dictDelete_found lawful found
      have here : dictHashIndex type he.key ht.sizemask = index := by
        rw [wellFormed.masked]
        exact wellFormed.placed index he (by rwa [List.getD_eq_getElem?_getD, known])
      have distinct : Distinct (dictCompareHashKeys type) DictEntry.key (past ++ he :: ahead) :=
        wellFormed.distinct.sublist (List.sublist_flatten_of_mem (List.mem_of_getElem? known))
      have chain : after.table[index]? = some (past ++ ahead) := by
        rw [table, here, List.getElem?_modify_eq, known]
        exact congrArg some (distinct.remove_middle lawful.equivalent)
      have behind : after.table.drop (index + 1) = ht.table.drop (index + 1) := by
        rw [table, here, List.drop_modify_of_lt _ _ _ _ (Nat.lt_succ_self index)]
      refine ⟨after, result, afterWellFormed, ?_, ?_, rest⟩
      · rw [size, table, List.length_modify, size]
      · rw [← behind]
        exact .inside chain rfl

end Deleting

end Dict

/-! ## Visits -/

/-- A dictionary that is gone through, with the entries that were returned. -/
structure DictVisit (Key Val : Type) where
  ht : Dict Key Val
  iter : DictIterator
  visited : List (DictEntry Key Val)
  deriving DecidableEq, Repr

namespace DictVisit

def start (ht : Dict Key Val) : DictVisit Key Val := ⟨ht, dictInitIterator, []⟩

variable [DecidableEq Key]

/-- The next entry is asked for, and may be deleted. -/
def step (type : DictType Key) (state : DictVisit Key Val) (delete : Bool) :
    Except DictFault (DictVisit Key Val) := do
  let next ← state.ht.dictNext state.iter
  match next.1 with
  | none => .ok { state with iter := next.2 }
  | some he =>
      if delete then
        let deleted ← state.ht.dictDelete type he.key
        .ok ⟨deleted.2.1, next.2, state.visited ++ [he]⟩
      else .ok ⟨state.ht, next.2, state.visited ++ [he]⟩

/-- The entries that are not deleted. -/
def kept (entries : List (DictEntry Key Val)) (deletions : List Bool) : List (DictEntry Key Val) :=
  (entries.zip deletions).filterMap fun choice => if choice.2 then none else some choice.1

/-- A dictionary of which some entries are kept and the rest is to come. -/
structure Visits (type : DictType Key) (state : DictVisit Key Val)
    (before rest : List (DictEntry Key Val)) : Prop where
  wellFormed : state.ht.WellFormed type
  small : state.ht.size < 2 ^ 31
  stands : Stands state.ht state.iter rest
  entries : state.ht.entries = before ++ rest

variable {type : DictType Key} {state : DictVisit Key Val} {he : DictEntry Key Val}
  {before rest : List (DictEntry Key Val)}

theorem Visits.step (lawful : type.Lawful) (visits : Visits type state before (he :: rest))
    (delete : Bool) :
    ∃ next, state.step type delete = .ok next ∧ next.visited = state.visited ++ [he] ∧
      Visits type next (before ++ kept [he] [delete]) rest := by
  obtain ⟨iter, result, returned⟩ :=
    Dict.dictNext_spec visits.wellFormed.addresses visits.small visits.stands
  have returns := returned he rest rfl
  rw [DictVisit.step, result, bind_ok]
  cases delete with
  | true =>
      obtain ⟨after, deleted, wellFormed, size, stands, removed⟩ :=
        visits.wellFormed.returns_deleted lawful returns
      have distinct := visits.wellFormed.distinct
      rw [visits.entries] at removed distinct
      rw [distinct.remove_middle lawful.equivalent] at removed
      refine ⟨⟨after, iter, state.visited ++ [he]⟩, ?_, rfl, ?_⟩
      · dsimp only [List.head?_cons]
        rw [if_pos rfl, deleted]
        rfl
      · exact ⟨wellFormed, by rw [size]; exact visits.small, stands, by simpa [kept] using removed⟩
  | false =>
      refine ⟨⟨state.ht, iter, state.visited ++ [he]⟩, rfl, rfl, ?_⟩
      exact ⟨visits.wellFormed, visits.small, returns.stands,
        by simpa [kept] using visits.entries⟩

theorem Visits.run (lawful : type.Lawful) {deletions : List Bool}
    (visits : Visits type state before rest) (all : deletions.length = rest.length) :
    ∃ final, Runs.run (DictVisit.step type) state deletions = .ok final ∧
      final.visited = state.visited ++ rest ∧
      Visits type final (before ++ kept rest deletions) [] := by
  induction deletions generalizing state before rest with
  | nil =>
      have none : rest = [] := List.eq_nil_of_length_eq_zero all.symm
      subst none
      exact ⟨state, rfl, (List.append_nil _).symm, by simpa [kept] using visits⟩
  | cons delete deletions induction =>
      cases rest with
      | nil => cases all
      | cons he rest =>
          obtain ⟨next, taken, visited, continues⟩ := visits.step lawful delete
          obtain ⟨final, reached, finalVisited, ends⟩ := induction continues (Nat.succ.inj all)
          refine ⟨final, ?_, ?_, ?_⟩
          · rw [Runs.run, taken]
            exact reached
          · rw [finalVisited, visited, List.append_assoc]
            rfl
          · cases delete <;> simpa [kept] using ends

/-- An iterator returns every entry of a dictionary once and then `NULL`, whichever of them are
deleted when they have been returned. -/
theorem entries_visited_once (lawful : type.Lawful) {calls : List (DictCall Key Val)}
    (few : calls.length ≤ 2 ^ 31)
    (allocates : Always (DictState.step type) DictState.Allocates .created calls)
    {reached : DictState Key Val}
    (run : Runs.run (DictState.step type) .created calls = .ok reached)
    (small : reached.ht.size < 2 ^ 31) {deletions : List Bool}
    (all : deletions.length = reached.ht.entries.length) :
    ∃ final iter, Runs.run (DictVisit.step type) (start reached.ht) deletions = .ok final ∧
      final.visited = reached.ht.entries ∧
      final.ht.dictNext final.iter = .ok (none, iter) ∧
      final.ht.entries = kept reached.ht.entries deletions := by
  obtain ⟨same, stored, sameRun, follows, _⟩ := DictState.follows_created.run lawful
    (by simpa [DictState.created, Dict.dictReset] using few) allocates
  cases run.symm.trans sameRun
  have begins : Visits type (start reached.ht) [] reached.ht.entries :=
    ⟨follows.wellFormed, small, Dict.stands_init, rfl⟩
  obtain ⟨final, finalRun, visited, ends⟩ := begins.run lawful all
  obtain ⟨iter, result, _⟩ :=
    Dict.dictNext_spec ends.wellFormed.addresses ends.small ends.stands
  refine ⟨final, iter, finalRun, visited, result, ?_⟩
  simpa using ends.entries

end DictVisit

/-- Four entries, of which the second and the third are deleted. -/
theorem letters_visited_once : ∃ reached final iter,
    Runs.run (DictState.step callbackDict) .created letterCalls = .ok reached ∧
      Runs.run (DictVisit.step callbackDict) (.start reached.ht) [false, true, true, false] =
        .ok final ∧
      final.visited = reached.ht.entries ∧
      final.ht.dictNext final.iter = .ok (none, iter) ∧
      final.ht.entries = DictVisit.kept reached.ht.entries [false, true, true, false] := by
  obtain ⟨reached, run, sizes⟩ := exists_of_passes (show passes
    (Runs.run (DictState.step callbackDict) .created letterCalls)
    (fun reached => decide (reached.ht.size = 8 ∧ reached.ht.entries.length = 4)) = true by
      decide +kernel)
  obtain ⟨size, length⟩ := of_decide_eq_true sizes
  obtain ⟨final, iter, visits⟩ := DictVisit.entries_visited_once lawful_sdsDictType (by decide)
    (by decide +kernel) run (by omega) (show [false, true, true, false].length = _ from length.symm)
  exact ⟨reached, final, iter, run, visits⟩

end Libvalkey
