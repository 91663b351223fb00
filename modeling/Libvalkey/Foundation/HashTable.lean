import Mathlib.Data.List.Perm.Basic
import Mathlib.Data.List.Flatten
import Mathlib.Tactic.Common

/-! # Hash tables

A table of chains. An entry is put in front of a chain, a table that is full is replaced by
a larger one, and an iterator goes along one chain after the other. -/

namespace Libvalkey.HashTable

variable {α : Type}

/-- The chains of a table. -/
abbrev Buckets (α : Type) := List (List α)

/-! ## Entries -/

section Insert

variable (place : Nat → α → Nat)

/-- An entry is put in front of the chain at its place. The place depends on the size. -/
def push (buckets : Buckets α) (entry : α) : Buckets α :=
  buckets.modify (place buckets.length entry) (entry :: ·)

/-- The entries are moved to an empty table. -/
def rehash (size : Nat) (buckets : Buckets α) : Buckets α :=
  buckets.flatten.foldl (push place) (List.replicate size [])

/-- An entry of a table that grows when it is full. -/
def insert (grown : Nat → Nat) (buckets : Buckets α) (entry : α) : Buckets α :=
  push place
    (if buckets.flatten.length = buckets.length then rehash place (grown buckets.length) buckets
     else buckets)
    entry

variable {place} {grown : Nat → Nat} {buckets : Buckets α}

@[simp] theorem length_push (buckets : Buckets α) (entry : α) :
    (push place buckets entry).length = buckets.length := by simp [push]

theorem length_foldl_push (entries : List α) (buckets : Buckets α) :
    (entries.foldl (push place) buckets).length = buckets.length := by
  induction entries generalizing buckets with
  | nil => rfl
  | cons entry entries induction => rw [List.foldl_cons, induction, length_push]

theorem flatten_modify_perm {index : Nat} (inside : index < buckets.length) (entry : α) :
    (buckets.modify index (entry :: ·)).flatten.Perm (entry :: buckets.flatten) := by
  induction buckets generalizing index with
  | nil => simp at inside
  | cons chain buckets induction =>
      cases index with
      | zero => simp
      | succ index =>
          rw [List.modify_succ_cons, List.flatten_cons, List.flatten_cons]
          exact ((induction (by simpa using inside)).append_left chain).trans List.perm_middle

/-- There is a place for every entry. -/
def Places (place : Nat → α → Nat) : Prop := ∀ size entry, 0 < size → place size entry < size

variable (places : Places place)

include places

theorem push_perm (positive : 0 < buckets.length) (entry : α) :
    (push place buckets entry).flatten.Perm (entry :: buckets.flatten) :=
  flatten_modify_perm (places _ entry positive) entry

theorem foldl_push_perm (entries : List α) (positive : 0 < buckets.length) :
    (entries.foldl (push place) buckets).flatten.Perm (entries ++ buckets.flatten) := by
  induction entries generalizing buckets with
  | nil => exact .refl _
  | cons entry entries induction =>
      refine (induction (by simpa using positive)).trans ?_
      exact ((push_perm places positive entry).append_left entries).trans List.perm_middle

theorem rehash_perm {size : Nat} (positive : 0 < size) :
    (rehash place size buckets).flatten.Perm buckets.flatten := by
  have moved := foldl_push_perm places buckets.flatten
    (show 0 < (List.replicate size ([] : List α)).length by simpa using positive)
  simpa [rehash] using moved

/-- An entry that is inserted comes to the others. -/
theorem insert_perm (grows : ∀ size, 0 < grown size) (entry : α) :
    (insert place grown buckets entry).flatten.Perm (entry :: buckets.flatten) := by
  unfold insert
  split
  · refine (push_perm places ?_ entry).trans ((rehash_perm places (grows _)).cons entry)
    rw [rehash, length_foldl_push, List.length_replicate]
    exact grows _
  · rename_i room
    refine push_perm places (List.length_pos_of_ne_nil ?_) entry
    rintro rfl
    exact room rfl

end Insert

/-! ## Places of entries -/

section Placed

variable (place : Nat → α → Nat)

/-- Every entry is in the chain at its place. -/
def Placed (buckets : Buckets α) : Prop :=
  ∀ index, ∀ entry ∈ buckets.getD index [], place buckets.length entry = index

variable {place} {buckets : Buckets α}

theorem placed_replicate (size : Nat) : Placed place (List.replicate size ([] : List α)) := by
  intro index entry member
  rw [List.getD_eq_getElem?_getD, List.getElem?_replicate] at member
  split at member <;> simp at member

/-- A chain may lose entries, and may get those that belong there. -/
theorem Placed.modify (placed : Placed place buckets) {index : Nat} {change : List α → List α}
    (kept : ∀ chain, ∀ entry ∈ change chain, entry ∈ chain ∨ place buckets.length entry = index) :
    Placed place (buckets.modify index change) := by
  intro other entry member
  rw [List.length_modify]
  rw [List.getD_eq_getElem?_getD, List.getElem?_modify] at member
  cases known : buckets[other]? with
  | none => simp [known] at member
  | some chain =>
      have inChain (inside : entry ∈ chain) : place buckets.length entry = other :=
        placed other entry (by simpa [List.getD_eq_getElem?_getD, known] using inside)
      by_cases same : index = other
      · subst same
        simp only [known, if_true] at member
        rcases kept chain entry member with inside | there
        · exact inChain inside
        · exact there
      · simp only [known, same, if_false] at member
        exact inChain member

theorem Placed.push (placed : Placed place buckets) (entry : α) :
    Placed place (push place buckets entry) := by
  refine placed.modify fun chain other member => ?_
  rcases List.mem_cons.mp member with new | old
  · exact .inr (by rw [new])
  · exact .inl old

theorem Placed.foldl_push (placed : Placed place buckets) (entries : List α) :
    Placed place (entries.foldl (HashTable.push place) buckets) := by
  induction entries generalizing buckets with
  | nil => exact placed
  | cons entry entries induction => exact induction (placed.push entry)

theorem placed_rehash (size : Nat) (buckets : Buckets α) :
    Placed place (rehash place size buckets) :=
  (placed_replicate size).foldl_push _

theorem mem_flatten_getD {index : Nat} {entry : α} (member : entry ∈ buckets.getD index []) :
    entry ∈ buckets.flatten := by
  rw [List.getD_eq_getElem?_getD] at member
  cases known : buckets[index]? with
  | none => simp [known] at member
  | some chain =>
      rw [known, Option.getD_some] at member
      exact List.mem_flatten_of_mem (List.mem_of_getElem? known) member

/-- The chains before and behind the one at a place. -/
theorem eq_append_getD {index : Nat} (inside : index < buckets.length) :
    buckets = buckets.take index ++ buckets.getD index [] :: buckets.drop (index + 1) := by
  rw [List.getD_eq_getElem?_getD, List.getElem?_eq_getElem inside, Option.getD_some,
    ← List.drop_eq_getElem_cons inside, List.take_append_drop]

theorem modify_eq_append {index : Nat} (inside : index < buckets.length)
    (change : List α → List α) :
    buckets.modify index change =
      buckets.take index ++ change (buckets.getD index []) :: buckets.drop (index + 1) := by
  rw [List.modify_eq_take_cons_drop inside, List.getD_eq_getElem?_getD,
    List.getElem?_eq_getElem inside, Option.getD_some]

/-- What is sought is only in the chain at one place. -/
theorem Placed.only (placed : Placed place buckets) {test : α → Bool} {index : Nat}
    (there : ∀ entry ∈ buckets.flatten, test entry = true → place buckets.length entry = index)
    {other : Nat} (elsewhere : other ≠ index) :
    ∀ entry ∈ buckets.getD other [], test entry = false := by
  intro entry member
  cases found : test entry with
  | false => rfl
  | true =>
      have here := there entry (mem_flatten_getD member) found
      exact absurd ((placed other entry member).symm.trans here) elsewhere

theorem Placed.take_only (placed : Placed place buckets) {test : α → Bool} {index : Nat}
    (there : ∀ entry ∈ buckets.flatten, test entry = true → place buckets.length entry = index) :
    ∀ entry ∈ (buckets.take index).flatten, ¬ test entry = true := by
  intro entry member
  obtain ⟨chain, inside, inChain⟩ := List.mem_flatten.mp member
  obtain ⟨other, less, rfl⟩ := List.mem_take_iff_getElem.mp inside
  have before : other < index := by omega
  rw [placed.only there (Nat.ne_of_lt before) entry]
  · exact Bool.false_ne_true
  · rw [List.getD_eq_getElem?_getD, List.getElem?_eq_getElem (by omega), Option.getD_some]
    exact inChain

theorem Placed.drop_only (placed : Placed place buckets) {test : α → Bool} {index : Nat}
    (there : ∀ entry ∈ buckets.flatten, test entry = true → place buckets.length entry = index) :
    ∀ entry ∈ (buckets.drop (index + 1)).flatten, ¬ test entry = true := by
  intro entry member
  obtain ⟨chain, inside, inChain⟩ := List.mem_flatten.mp member
  obtain ⟨other, less, rfl⟩ := List.mem_drop_iff_getElem.mp inside
  have behind : index + 1 + other ≠ index := by omega
  rw [placed.only there behind entry]
  · exact Bool.false_ne_true
  · rw [List.getD_eq_getElem?_getD, List.getElem?_eq_getElem (by omega), Option.getD_some]
    exact inChain

/-- Looking through one chain finds what looking through all of them does. -/
theorem Placed.find?_flatten (placed : Placed place buckets) {test : α → Bool} {index : Nat}
    (inside : index < buckets.length)
    (there : ∀ entry ∈ buckets.flatten, test entry = true → place buckets.length entry = index) :
    (buckets.getD index []).find? test = buckets.flatten.find? test := by
  have before := List.find?_eq_none.mpr (placed.take_only there)
  have behind := List.find?_eq_none.mpr (placed.drop_only there)
  conv_rhs => rw [eq_append_getD inside]
  rw [List.flatten_append, List.flatten_cons, List.find?_append, List.find?_append, before, behind,
    Option.none_or, Option.or_none]

/-- An entry that is removed from its chain is removed from the table. -/
theorem Placed.eraseP_flatten (placed : Placed place buckets) {test : α → Bool} {index : Nat}
    (inside : index < buckets.length)
    (there : ∀ entry ∈ buckets.flatten, test entry = true → place buckets.length entry = index) :
    (buckets.modify index (List.eraseP test)).flatten = buckets.flatten.eraseP test := by
  rw [modify_eq_append inside]
  conv_rhs => rw [eq_append_getD inside]
  rw [List.flatten_append, List.flatten_cons, List.flatten_append, List.flatten_cons,
    List.eraseP_append_right _ (placed.take_only there)]
  by_cases found : ∃ entry ∈ buckets.getD index [], test entry = true
  · obtain ⟨entry, member, holds⟩ := found
    rw [List.eraseP_append_left holds _ member]
  · have none : ∀ entry ∈ buckets.getD index [], ¬ test entry = true :=
      fun entry member holds => found ⟨entry, member, holds⟩
    rw [List.eraseP_append_right _ none, List.eraseP_of_forall_not none,
      List.eraseP_of_forall_not (placed.drop_only there)]

end Placed

/-! ## Iterators -/

/-- The index of a chain, the entry that was returned last with those behind it, and the
entries to go on with. The index is kept apart from the last entry, which may be removed. -/
structure Iterator (α : Type) where
  index : Int
  entry : List α
  nextEntry : List α
  deriving DecidableEq, Repr

/-- The index is the largest one that there is. -/
inductive IndexFault
  | overflow
  deriving DecidableEq, Repr

namespace Iterator

def init : Iterator α := ⟨-1, [], []⟩

/-- The next entry of a table whose size is taken to be `limit`. The first argument bounds the
rounds of the loop. -/
def nextFrom (max limit : Int) (buckets : Buckets α) :
    Nat → Iterator α → Except IndexFault (Option α × Iterator α)
  | 0, iter => .ok (none, iter)
  | rounds + 1, iter =>
      match iter.entry with
      | [] =>
          if iter.index = max then .error .overflow
          else if limit ≤ iter.index + 1 then .ok (none, { iter with index := iter.index + 1 })
          else
            match buckets.getD (iter.index + 1).toNat [] with
            | [] => nextFrom max limit buckets rounds { iter with index := iter.index + 1 }
            | value :: rest => .ok (some value, ⟨iter.index + 1, value :: rest, rest⟩)
      | _ :: _ =>
          match iter.nextEntry with
          | [] => nextFrom max limit buckets rounds { iter with entry := [] }
          | value :: rest => .ok (some value, ⟨iter.index, value :: rest, rest⟩)

def next (max limit : Int) (buckets : Buckets α) (iter : Iterator α) :
    Except IndexFault (Option α × Iterator α) :=
  nextFrom max limit buckets (buckets.length + 3) iter

/-- The entries of the chains that the iterator goes along. -/
def visible (limit : Int) (buckets : Buckets α) : List α := (buckets.take limit.toNat).flatten

/-- The entries that are still to come. -/
def ahead (limit : Int) (buckets : Buckets α) (iter : Iterator α) : List α :=
  (if iter.entry = [] then [] else iter.nextEntry) ++
    ((buckets.take limit.toNat).drop (iter.index + 1).toNat).flatten

/-- An iterator that has only been moved by `next`. -/
structure Valid (max limit : Int) (iter : Iterator α) : Prop where
  lower : -1 ≤ iter.index
  upper : iter.index ≤ max
  inside : iter.entry ≠ [] → iter.index < limit

variable {max limit : Int} {buckets : Buckets α} {iter : Iterator α}

theorem valid_init (positive : 0 ≤ max) : Valid max limit (init : Iterator α) where
  lower := Int.le_refl _
  upper := by
    dsimp only [init]
    omega
  inside := fun notEmpty => absurd rfl notEmpty

@[simp] theorem ahead_init : ahead limit buckets init = visible limit buckets := by
  simp [ahead, init, visible]

/-- The chain that the iterator enters. -/
theorem drop_take_eq {index : Int} (lower : -1 ≤ index) (sized : limit ≤ buckets.length)
    (more : index + 1 < limit) :
    (buckets.take limit.toNat).drop (index + 1).toNat =
      buckets.getD (index + 1).toNat [] ::
        (buckets.take limit.toNat).drop (index + 1 + 1).toNat := by
  have inside : (index + 1).toNat < (buckets.take limit.toNat).length := by
    rw [List.length_take]
    omega
  have known : (index + 1).toNat < buckets.length := by omega
  have next : (index + 1 + 1).toNat = (index + 1).toNat + 1 := by omega
  rw [next, List.drop_eq_getElem_cons inside, List.getElem_take,
    List.getD_eq_getElem?_getD, List.getElem?_eq_getElem known, Option.getD_some]

/-- The next entry is the first of those that are ahead. -/
theorem nextFrom_eq (valid : iter.Valid max limit) (small : limit ≤ max)
    (sized : limit ≤ buckets.length) (notLast : iter.index ≠ max) {rounds : Nat}
    (enough : (limit - iter.index).toNat + (if iter.entry = [] then 0 else 1) < rounds) :
    ∃ after, nextFrom max limit buckets rounds iter =
        .ok ((iter.ahead limit buckets).head?, after) ∧ after.Valid max limit ∧
      after.ahead limit buckets = (iter.ahead limit buckets).tail := by
  have lower := valid.lower
  have upper := valid.upper
  induction rounds generalizing iter with
  | zero => omega
  | succ rounds induction =>
      obtain ⟨index, entry, nextEntry⟩ := iter
      dsimp only at lower upper notLast enough
      rw [nextFrom]
      cases entry with
      | nil =>
          simp only [notLast, if_false]
          by_cases ended : limit ≤ index + 1
          · have nothing (place : Int) (behind : limit ≤ place) :
                (buckets.take limit.toNat).drop place.toNat = [] :=
              List.drop_of_length_le (by rw [List.length_take]; omega)
            refine ⟨⟨index + 1, [], nextEntry⟩, ?_, ⟨?_, ?_, fun notEmpty => absurd rfl notEmpty⟩,
              ?_⟩
            · simp [ended, ahead, nothing]
            · dsimp only
              omega
            · dsimp only
              omega
            · simp [ahead, nothing _ ended, nothing (index + 1 + 1) (by omega)]
          · have chain := drop_take_eq lower sized (Int.lt_of_not_ge ended)
            rw [if_neg ended]
            cases known : buckets.getD (index + 1).toNat [] with
            | nil =>
                rw [known] at chain
                have moved : Valid max limit (⟨index + 1, [], nextEntry⟩ : Iterator α) :=
                  ⟨by dsimp only; omega, by dsimp only; omega, fun notEmpty => absurd rfl notEmpty⟩
                obtain ⟨after, result, afterValid, rest⟩ := induction moved (by dsimp only; omega)
                  (by simp at enough ⊢; omega) moved.lower moved.upper
                have same : ahead limit buckets ⟨index + 1, [], nextEntry⟩ =
                    ahead limit buckets ⟨index, [], nextEntry⟩ := by simp [ahead, chain]
                rw [same] at result rest
                exact ⟨after, result, afterValid, rest⟩
            | cons value rest =>
                rw [known] at chain
                refine ⟨⟨index + 1, value :: rest, rest⟩, by simp [ahead, chain], ⟨?_, ?_, ?_⟩,
                  by simp [ahead, chain]⟩
                · dsimp only
                  omega
                · dsimp only
                  omega
                · intro _
                  dsimp only
                  omega
      | cons last others =>
          cases nextEntry with
          | nil =>
              have left : Valid max limit (⟨index, [], []⟩ : Iterator α) :=
                ⟨lower, upper, fun notEmpty => absurd rfl notEmpty⟩
              obtain ⟨after, result, afterValid, rest⟩ :=
                induction left notLast (by simp at enough ⊢; omega) lower upper
              exact ⟨after, result, afterValid, rest⟩
          | cons value rest =>
              exact ⟨⟨index, value :: rest, rest⟩, by simp [ahead],
                ⟨lower, upper, fun _ => valid.inside (by simp)⟩, by simp [ahead]⟩

theorem next_eq (valid : iter.Valid max limit) (small : limit ≤ max)
    (sized : limit ≤ buckets.length) (notLast : iter.index ≠ max) :
    ∃ after, next max limit buckets iter = .ok ((iter.ahead limit buckets).head?, after) ∧
      after.Valid max limit ∧ after.ahead limit buckets = (iter.ahead limit buckets).tail := by
  refine nextFrom_eq valid small sized notLast ?_
  have lower := valid.lower
  split <;> omega

/-- At the largest index there is no next one. -/
theorem next_overflows (valid : iter.Valid max limit) (small : limit ≤ max)
    (last : iter.index = max) : next max limit buckets iter = .error .overflow := by
  have empty : iter.entry = [] := by
    by_contra notEmpty
    have inside := valid.inside notEmpty
    omega
  rw [next, nextFrom, empty]
  exact if_pos last

end Iterator

end Libvalkey.HashTable
