import Libvalkey.Containers.Dict
import Libvalkey.Reader.Resume

/-! # The operations of a dictionary

What each operation does to the entries of a dictionary, as a list of them. -/

namespace Libvalkey

open HashTable KeyedMap Checked

variable {Key Val : Type} {type : DictType Key}

theorem dictHashIndex_lt (key : Key) {size : Nat} (positive : 0 < size) :
    dictHashIndex type key (size - 1) < size := by
  have masked : (type.hashFunction key).toNat &&& (size - 1) ≤ size - 1 := Nat.and_le_right
  have cut := Nat.mod_le ((type.hashFunction key).toNat &&& (size - 1)) (2 ^ 32)
  unfold dictHashIndex
  omega

theorem decremented_of_pos {used : Nat} (positive : 0 < used) (small : used < 2 ^ 64) :
    decremented used = used - 1 := by
  unfold decremented
  omega

/-! ## Moving entries -/

/-- The place of an entry in a table of a size. -/
def dictPlace (type : DictType Key) (size : Nat) (he : DictEntry Key Val) : Nat :=
  dictHashIndex type he.key (size - 1)

theorem places_dictPlace : Places (dictPlace type : Nat → DictEntry Key Val → Nat) :=
  fun _ he positive => dictHashIndex_lt he.key positive

theorem dictMoveChain_eq (chain : List (DictEntry Key Val))
    {table : Buckets (DictEntry Key Val)} {used : Nat} (positive : 0 < table.length)
    (enough : chain.length ≤ used) (small : used < 2 ^ 64) :
    dictMoveChain type (table.length - 1) chain (table, used) =
      .ok (chain.foldl (push (dictPlace type)) table, used - chain.length) := by
  induction chain generalizing table used with
  | nil => rfl
  | cons he chain induction =>
      rw [List.length_cons] at enough
      rw [dictMoveChain, if_pos (dictHashIndex_lt he.key positive),
        decremented_of_pos (by omega) small]
      have pushed := @induction (push (dictPlace type) table he) (used - 1) (by simpa using positive)
        (by omega) (by omega)
      rw [length_push] at pushed
      rw [List.foldl_cons, List.length_cons, Nat.add_comm chain.length 1, ← Nat.sub_sub]
      exact pushed

theorem dictMoveChains_eq (chains : Buckets (DictEntry Key Val))
    {table : Buckets (DictEntry Key Val)} {used : Nat} (positive : 0 < table.length)
    (all : used = chains.flatten.length) (small : used < 2 ^ 64) :
    dictMoveChains type (table.length - 1) chains (table, used) =
      .ok (chains.flatten.foldl (push (dictPlace type)) table, 0) := by
  induction chains generalizing table used with
  | nil =>
      subst all
      rfl
  | cons chain chains induction =>
      rw [List.flatten_cons, List.length_append] at all
      rw [dictMoveChains, List.flatten_cons]
      by_cases done : used = 0
      · have first : chain = [] := List.eq_nil_of_length_eq_zero (by omega)
        have others : chains.flatten = [] := List.eq_nil_of_length_eq_zero (by omega)
        rw [if_pos done, first, others, done]
        rfl
      · rw [if_neg done, dictMoveChain_eq chain positive (by omega) small, bind_ok,
          List.foldl_append]
        have moved := @induction (chain.foldl (push (dictPlace type)) table) (used - chain.length)
          (by rwa [length_foldl_push]) (by omega) (by omega)
        rwa [length_foldl_push] at moved

/-! ## Entries -/

namespace Dict

variable {ht : Dict Key Val}

theorem entries_of_size (empty : ht.size = 0) : ht.entries = [] := by
  rw [entries, List.eq_nil_of_length_eq_zero empty]
  rfl

@[simp] theorem key_written (address : Nat) (val : Val) (he : DictEntry Key Val) :
    (written address val he).key = he.key := by
  unfold written
  split <;> rfl

@[simp] theorem address_written (address : Nat) (val : Val) (he : DictEntry Key Val) :
    (written address val he).address = he.address := by
  unfold written
  split <;> rfl

theorem entries_dictSetVal (address : Nat) (val : Val) :
    (ht.dictSetVal address val).entries = ht.entries.map (written address val) := by
  rw [entries, entries, List.map_flatten]
  rfl

end Dict

variable [DecidableEq Key] {ht : Dict Key Val}

/-! ## Well-formed dictionaries -/

/-- Keys are compared by an equivalence that the hash and the copy of a key respect. -/
structure DictType.Lawful (type : DictType Key) : Prop where
  equivalent : Equivalent (dictCompareHashKeys type)
  hashes : ∀ {first second}, dictCompareHashKeys type first second = true →
    type.hashFunction first = type.hashFunction second
  duplicates : ∀ key, dictCompareHashKeys type key (dictSetKey type key) = true

/-- What is kept by every operation. The size is one that an `int` can index. -/
structure Dict.WellFormed (type : DictType Key) (ht : Dict Key Val) : Prop where
  masked : ht.sizemask = ht.size - 1
  sized : ht.size = 0 ∨ ∃ power, 2 ≤ power ∧ power ≤ 31 ∧ ht.size = 2 ^ power
  counted : ht.used = ht.entries.length
  room : ht.used ≤ ht.size
  placed : Placed (dictPlace type) ht.table
  distinct : Distinct (dictCompareHashKeys type) DictEntry.key ht.entries
  addresses : (ht.entries.map DictEntry.address).Nodup

namespace Dict

theorem wellFormed_dictReset : (dictReset : Dict Key Val).WellFormed type where
  masked := rfl
  sized := .inl rfl
  counted := rfl
  room := Nat.le_refl 0
  placed := placed_replicate 0
  distinct := .nil
  addresses := .nil

theorem WellFormed.size_le (wellFormed : ht.WellFormed type) : ht.size ≤ 2 ^ 31 := by
  rcases wellFormed.sized with empty | ⟨power, _, upper, equal⟩
  · omega
  · rw [equal]
    exact Nat.pow_le_pow_right (by decide) upper

/-! ## Expanding -/

theorem WellFormed.dictExpand_eq (wellFormed : ht.WellFormed type) {power : Nat} (lower : 2 ≤ power)
    (upper : power ≤ 31) (fits : ht.used ≤ 2 ^ power) :
    ht.dictExpand type (2 ^ power) true =
      .ok (.ok, ⟨rehash (dictPlace type) (2 ^ power) ht.table, 2 ^ power - 1, ht.used⟩) := by
  have sizes := wellFormed.size_le
  have room := wellFormed.room
  have moved := @dictMoveChains_eq Key Val type ht.table (List.replicate (2 ^ power) []) ht.used
    (by simp) wellFormed.counted (by omega)
  rw [List.length_replicate] at moved
  rw [dictExpand, if_neg (by omega), if_neg (by decide), dictNextPower_pow lower (by omega), moved,
    bind_ok, if_pos rfl]
  rfl

theorem WellFormed.expanded (wellFormed : ht.WellFormed type) (lawful : type.Lawful) {power : Nat}
    (lower : 2 ≤ power) (upper : power ≤ 31) (fits : ht.used ≤ 2 ^ power) :
    WellFormed type ⟨rehash (dictPlace type) (2 ^ power) ht.table, 2 ^ power - 1, ht.used⟩ := by
  have perm := @rehash_perm _ (dictPlace type) ht.table places_dictPlace _ (Nat.two_pow_pos power)
  have length : (rehash (dictPlace type) (2 ^ power) ht.table).length = 2 ^ power := by
    rw [rehash, length_foldl_push, List.length_replicate]
  exact {
    masked := by rw [size, length]
    sized := .inr ⟨power, lower, upper, length⟩
    counted := wellFormed.counted.trans perm.length_eq.symm
    room := by
      rw [size, length]
      exact fits
    placed := placed_rehash _ _
    distinct := wellFormed.distinct.perm lawful.equivalent perm.symm
    addresses := (perm.map DictEntry.address).nodup_iff.mpr wellFormed.addresses }

/-- There is room for another entry, unless there is no memory for a larger table. -/
theorem WellFormed.dictExpandIfNeeded_spec (wellFormed : ht.WellFormed type) (lawful : type.Lawful)
    (few : ht.used < 2 ^ 31) (calloc : Bool) :
    ∃ status after, ht.dictExpandIfNeeded type calloc = .ok (status, after) ∧
      after.WellFormed type ∧ after.entries.Perm ht.entries ∧
      (status = .ok → after.used < after.size) ∧ (status = .err → calloc = false) := by
  have grows (power : Nat) (lower : 2 ≤ power) (upper : power ≤ 31) (fits : ht.used < 2 ^ power)
      (needed : ht.dictExpandIfNeeded type calloc = ht.dictExpand type (2 ^ power) calloc) :
      ∃ status after, ht.dictExpandIfNeeded type calloc = .ok (status, after) ∧
        after.WellFormed type ∧ after.entries.Perm ht.entries ∧
        (status = .ok → after.used < after.size) ∧ (status = .err → calloc = false) := by
    rw [needed]
    cases calloc with
    | false =>
        refine ⟨.err, ht, ?_, wellFormed, .refl _, fun wrong => absurd wrong (by decide), fun _ => rfl⟩
        rw [dictExpand, if_neg (by omega), if_pos rfl]
    | true =>
        refine ⟨.ok, _, wellFormed.dictExpand_eq lower upper (by omega),
          wellFormed.expanded lawful lower upper (by omega),
          rehash_perm places_dictPlace (Nat.two_pow_pos power), fun _ => ?_,
          fun wrong => absurd wrong (by decide)⟩
        rw [size, rehash, length_foldl_push, List.length_replicate]
        exact fits
  have room := wellFormed.room
  rcases wellFormed.sized with empty | ⟨power, lower, upper, equal⟩
  · refine grows 2 (by decide) (by decide) (by omega) ?_
    rw [dictExpandIfNeeded, if_pos empty]
    rfl
  · have positive : ht.size ≠ 0 := by
      rw [equal]
      exact Nat.ne_of_gt (Nat.two_pow_pos power)
    by_cases full : ht.used = ht.size
    · have less : power < 31 := by
        by_contra large
        have most : power = 31 := by omega
        subst most
        omega
      have doubled : ht.size * 2 % 2 ^ 64 = 2 ^ (power + 1) := by
        have := Nat.pow_le_pow_right (show 0 < 2 by decide) less
        rw [equal, ← Nat.pow_succ]
        exact Nat.mod_eq_of_lt (by omega)
      refine grows (power + 1) (by omega) less ?_ ?_
      · rw [full, equal, Nat.pow_succ]
        have := Nat.two_pow_pos power
        omega
      · rw [dictExpandIfNeeded, if_neg positive, if_pos full, doubled]
    · refine ⟨.ok, ht, ?_, wellFormed, .refl _, fun _ => by omega, fun wrong => absurd wrong (by decide)⟩
      rw [dictExpandIfNeeded, if_neg positive, if_neg full]

/-! ## Finding -/

/-- The entry of a key. -/
def lookup (type : DictType Key) (ht : Dict Key Val) (key : Key) : Option (DictEntry Key Val) :=
  KeyedMap.find (dictCompareHashKeys type) DictEntry.key ht.entries key

theorem WellFormed.lookup_perm (wellFormed : ht.WellFormed type) (lawful : type.Lawful)
    {after : Dict Key Val} (perm : after.entries.Perm ht.entries) (key : Key) :
    after.lookup type key = ht.lookup type key :=
  wellFormed.distinct.find_perm lawful.equivalent perm.symm key

/-- The entries of a key are in the slot that the key belongs to. -/
theorem WellFormed.there (wellFormed : ht.WellFormed type) (lawful : type.Lawful) (key : Key) :
    ∀ he ∈ ht.table.flatten, dictCompareHashKeys type key he.key = true →
      dictPlace type ht.table.length he = dictHashIndex type key ht.sizemask := by
  intro he _ alike
  rw [dictPlace, wellFormed.masked, dictHashIndex, dictHashIndex, lawful.hashes alike, size]

theorem WellFormed.hashIndex_lt (wellFormed : ht.WellFormed type) (positive : 0 < ht.size)
    (key : Key) : dictHashIndex type key ht.sizemask < ht.size := by
  rw [wellFormed.masked]
  exact dictHashIndex_lt key positive

theorem WellFormed.slot_eq (wellFormed : ht.WellFormed type) (positive : 0 < ht.size) (key : Key) :
    ht.slot type key = .ok (ht.table.getD (dictHashIndex type key ht.sizemask) []) := by
  rw [slot, if_pos (wellFormed.hashIndex_lt positive key)]

theorem WellFormed.find_slot (wellFormed : ht.WellFormed type) (lawful : type.Lawful)
    (positive : 0 < ht.size) (key : Key) :
    (ht.table.getD (dictHashIndex type key ht.sizemask) []).find?
      (fun he => dictCompareHashKeys type key he.key) = ht.lookup type key :=
  wellFormed.placed.find?_flatten (wellFormed.hashIndex_lt positive key)
    (wellFormed.there lawful key)

theorem WellFormed.dictFind_eq (wellFormed : ht.WellFormed type) (lawful : type.Lawful)
    (key : Key) : ht.dictFind type key = .ok (ht.lookup type key) := by
  unfold dictFind
  by_cases empty : ht.size = 0
  · rw [if_pos empty, lookup, entries_of_size empty]
    rfl
  · rw [if_neg empty, wellFormed.slot_eq (Nat.pos_of_ne_zero empty) key, bind_ok,
      wellFormed.find_slot lawful (Nat.pos_of_ne_zero empty) key]

/-! ## Adding -/

theorem WellFormed.any_slot (wellFormed : ht.WellFormed type) (lawful : type.Lawful)
    (positive : 0 < ht.size) (key : Key) :
    (ht.table.getD (dictHashIndex type key ht.sizemask) []).any
      (fun he => dictCompareHashKeys type key he.key) = (ht.lookup type key).isSome := by
  rw [← wellFormed.find_slot lawful positive key, List.isSome_find?]

/-- The index is that of the slot, unless the key is there or there is no memory. -/
theorem WellFormed.dictKeyIndex_spec (wellFormed : ht.WellFormed type) (lawful : type.Lawful)
    (few : ht.used < 2 ^ 31) (key : Key) (calloc : Bool) :
    ∃ index after, ht.dictKeyIndex type key calloc = .ok (index, after) ∧
      after.WellFormed type ∧ after.entries.Perm ht.entries ∧
      (index = -1 ∧ ((ht.lookup type key).isSome = true ∨ calloc = false) ∨
        index = dictHashIndex type key after.sizemask ∧ ht.lookup type key = none ∧
          after.used < after.size) := by
  obtain ⟨status, after, expanded, afterWellFormed, perm, room, failed⟩ :=
    wellFormed.dictExpandIfNeeded_spec lawful few calloc
  rw [dictKeyIndex, expanded, bind_ok]
  cases status with
  | err => exact ⟨-1, after, rfl, afterWellFormed, perm, .inl ⟨rfl, .inr (failed rfl)⟩⟩
  | ok =>
      have positive : 0 < after.size := Nat.zero_lt_of_lt (room rfl)
      have expands : ¬ DictStatus.ok = .err := by decide
      rw [if_neg expands, afterWellFormed.slot_eq positive key, bind_ok,
        afterWellFormed.any_slot lawful positive key, wellFormed.lookup_perm lawful perm]
      cases found : ht.lookup type key with
      | some he => exact ⟨-1, after, rfl, afterWellFormed, perm, .inl ⟨rfl, .inl rfl⟩⟩
      | none =>
          refine ⟨_, after, rfl, afterWellFormed, perm, .inr ⟨toInt32_of_small ?_, rfl, room rfl⟩⟩
          exact Nat.lt_of_lt_of_le (afterWellFormed.hashIndex_lt positive key)
            afterWellFormed.size_le

/-- An entry for an absent key, at a new address. -/
theorem WellFormed.pushed (wellFormed : ht.WellFormed type) (lawful : type.Lawful) {key : Key}
    (absent : ht.lookup type key = none) (room : ht.used < ht.size) {address : Nat}
    (fresh : address ∉ ht.entries.map DictEntry.address) (val : Val) :
    WellFormed type
        { ht with
          table := ht.table.modify (dictHashIndex type key ht.sizemask)
            (⟨address, dictSetKey type key, val⟩ :: ·)
          used := (ht.used + 1) % 2 ^ 64 } ∧
      (ht.table.modify (dictHashIndex type key ht.sizemask)
        (⟨address, dictSetKey type key, val⟩ :: ·)).flatten.Perm
          (⟨address, dictSetKey type key, val⟩ :: ht.entries) := by
  have positive : 0 < ht.size := Nat.zero_lt_of_lt room
  have there : dictHashIndex type key ht.sizemask =
      dictPlace type ht.table.length ⟨address, dictSetKey type key, val⟩ := by
    rw [dictPlace, wellFormed.masked, dictHashIndex, dictHashIndex, size,
      lawful.hashes (lawful.duplicates key)]
  have perm := @push_perm _ (dictPlace type) ht.table places_dictPlace positive
    (⟨address, dictSetKey type key, val⟩ : DictEntry Key Val)
  rw [push, ← there] at perm
  have small := wellFormed.size_le
  refine ⟨?_, perm⟩
  exact {
    masked := by rw [wellFormed.masked, size, size, List.length_modify]
    sized := by
      rw [size, List.length_modify]
      exact wellFormed.sized
    counted := by
      have counted := wellFormed.counted
      rw [entries, perm.length_eq, List.length_cons, Nat.mod_eq_of_lt (by omega), counted, entries]
    room := by
      rw [size, List.length_modify]
      unfold size at room small
      dsimp only
      omega
    placed := by
      have placed := wellFormed.placed.push ⟨address, dictSetKey type key, val⟩
      rwa [push, ← there] at placed
    distinct := (wellFormed.distinct.cons lawful.equivalent absent (lawful.duplicates key)).perm
      lawful.equivalent perm.symm
    addresses := (perm.map DictEntry.address).nodup_iff.mpr
      (List.nodup_cons.mpr ⟨fresh, wellFormed.addresses⟩) }

/-- An address that no entry has. -/
def Fresh (ht : Dict Key Val) (malloc : Option Nat) : Prop :=
  ∀ address ∈ malloc, address ∉ ht.entries.map DictEntry.address

/-- `dictAdd` fails if the key is there or there is no memory, and else adds an entry. -/
theorem WellFormed.dictAdd_spec (wellFormed : ht.WellFormed type) (lawful : type.Lawful)
    (few : ht.used < 2 ^ 31) (key : Key) (val : Val) (calloc : Bool) {malloc : Option Nat}
    (fresh : ht.Fresh malloc) :
    ∃ status after, ht.dictAdd type key val calloc malloc = .ok (status, after) ∧
      after.WellFormed type ∧
      (status = .err ∧ after.entries.Perm ht.entries ∧
          ((ht.lookup type key).isSome = true ∨ calloc = false ∨ malloc = none) ∨
        status = .ok ∧ ht.lookup type key = none ∧ ∃ address ∈ malloc,
          after.entries.Perm (⟨address, dictSetKey type key, val⟩ :: ht.entries)) := by
  obtain ⟨index, expanded, result, expandedWellFormed, perm, cases⟩ :=
    wellFormed.dictKeyIndex_spec lawful few key calloc
  rw [dictAdd, result, bind_ok]
  dsimp only
  rcases cases with ⟨failed, why⟩ | ⟨found, absent, room⟩
  · rw [if_pos failed]
    exact ⟨.err, expanded, rfl, expandedWellFormed, .inl ⟨rfl, perm, why.imp_right .inl⟩⟩
  · rw [if_neg (by omega)]
    cases malloc with
    | none => exact ⟨.err, expanded, rfl, expandedWellFormed, .inl ⟨rfl, perm, .inr (.inr rfl)⟩⟩
    | some address =>
        have inside := expandedWellFormed.hashIndex_lt (Nat.zero_lt_of_lt room) key
        have unused : address ∉ expanded.entries.map DictEntry.address := fun member =>
          fresh address rfl ((perm.map DictEntry.address).mem_iff.mp member)
        have added := expandedWellFormed.pushed lawful
          ((wellFormed.lookup_perm lawful perm key).trans absent) room unused val
        dsimp only
        rw [if_pos (by omega), found, Int.toNat_natCast]
        exact ⟨.ok, _, rfl, added.1, .inr ⟨rfl, absent, address, rfl, added.2.trans (perm.cons _)⟩⟩

/-! ## Replacing a value -/

theorem WellFormed.dictSetVal (wellFormed : ht.WellFormed type) (address : Nat) (val : Val) :
    (ht.dictSetVal address val).WellFormed type where
  masked := by
    rw [size, Dict.dictSetVal, List.length_map]
    exact wellFormed.masked
  sized := by
    rw [size, Dict.dictSetVal, List.length_map]
    exact wellFormed.sized
  counted := by
    rw [entries_dictSetVal, List.length_map]
    exact wellFormed.counted
  room := by
    rw [size, Dict.dictSetVal, List.length_map]
    exact wellFormed.room
  placed := by
    intro index he member
    rw [Dict.dictSetVal, List.length_map]
    rw [Dict.dictSetVal, List.getD_eq_getElem?_getD, List.getElem?_map] at member
    cases known : ht.table[index]? with
    | none => simp [known] at member
    | some chain =>
        rw [known, Option.map_some, Option.getD_some] at member
        obtain ⟨old, inside, rfl⟩ := List.mem_map.mp member
        have place := wellFormed.placed index old
          (by simpa [List.getD_eq_getElem?_getD, known] using inside)
        rwa [dictPlace, key_written]
  distinct := by
    rw [entries_dictSetVal]
    refine List.pairwise_map.mpr (wellFormed.distinct.imp fun apart => ?_)
    rw [key_written, key_written]
    exact apart
  addresses := by
    rw [entries_dictSetVal, List.map_map]
    exact (List.map_congr_left fun he _ => address_written address val he) ▸ wellFormed.addresses

theorem lookup_dictSetVal (address : Nat) (val : Val) (key : Key) :
    (ht.dictSetVal address val).lookup type key =
      (ht.lookup type key).map (written address val) := by
  rw [lookup, lookup, entries_dictSetVal, KeyedMap.find, KeyedMap.find, List.find?_map]
  congr 2
  funext he
  rw [Function.comp_apply, key_written]

/-! ## Removing -/

theorem WellFormed.removed (wellFormed : ht.WellFormed type) (lawful : type.Lawful) {key : Key}
    {de : DictEntry Key Val} (found : ht.lookup type key = some de) :
    WellFormed type
        { ht with
          table := ht.table.modify (dictHashIndex type key ht.sizemask)
            (List.eraseP fun he => dictCompareHashKeys type key he.key)
          used := decremented ht.used } ∧
      (ht.table.modify (dictHashIndex type key ht.sizemask)
        (List.eraseP fun he => dictCompareHashKeys type key he.key)).flatten =
          KeyedMap.remove (dictCompareHashKeys type) DictEntry.key ht.entries key := by
  have member := mem_of_find found
  have positive : 0 < ht.size := by
    by_contra empty
    rw [entries_of_size (by omega)] at member
    cases member
  have flat := wellFormed.placed.eraseP_flatten (wellFormed.hashIndex_lt positive key)
    (wellFormed.there lawful key)
  have small := wellFormed.size_le
  have room := wellFormed.room
  have counted := wellFormed.counted
  have length : (KeyedMap.remove (dictCompareHashKeys type) DictEntry.key ht.entries key).length =
      ht.entries.length - 1 := List.length_eraseP_of_mem member (alike_of_find found)
  have some : 0 < ht.entries.length := List.length_pos_of_mem member
  refine ⟨?_, flat⟩
  exact {
    masked := by
      rw [size, List.length_modify]
      exact wellFormed.masked
    sized := by
      rw [size, List.length_modify]
      exact wellFormed.sized
    counted := by
      rw [decremented_of_pos (by omega) (by omega), entries, flat]
      exact (congrArg (· - 1) counted).trans length.symm
    room := by
      rw [size, List.length_modify, decremented_of_pos (by omega) (by omega)]
      unfold size at room
      dsimp only
      omega
    placed := wellFormed.placed.modify fun chain he member => .inl (List.mem_of_mem_eraseP member)
    distinct := by
      rw [entries, flat]
      exact wellFormed.distinct.remove key
    addresses := by
      rw [entries, flat]
      exact wellFormed.addresses.sublist (List.eraseP_sublist.map _) }

theorem WellFormed.dictDelete_absent (wellFormed : ht.WellFormed type) (lawful : type.Lawful)
    {key : Key} (absent : ht.lookup type key = none) :
    ht.dictDelete type key = .ok (.err, ht, []) := by
  unfold dictDelete
  by_cases empty : ht.size = 0
  · rw [if_pos empty]
  · rw [if_neg empty, wellFormed.slot_eq (Nat.pos_of_ne_zero empty) key, bind_ok,
      wellFormed.find_slot lawful (Nat.pos_of_ne_zero empty) key, absent]

theorem WellFormed.dictDelete_found (wellFormed : ht.WellFormed type) (lawful : type.Lawful)
    {key : Key} {de : DictEntry Key Val} (found : ht.lookup type key = some de) :
    ∃ after, ht.dictDelete type key =
        .ok (.ok, after, dictFreeEntryKey type de ++ dictFreeEntryVal type de) ∧
      after.WellFormed type ∧
      after.entries =
        KeyedMap.remove (dictCompareHashKeys type) DictEntry.key ht.entries key ∧
      after.table = ht.table.modify (dictHashIndex type key ht.sizemask)
        (List.eraseP fun he => dictCompareHashKeys type key he.key) := by
  have filled : ht.size ≠ 0 := by
    intro empty
    have member := mem_of_find found
    rw [entries_of_size empty] at member
    cases member
  obtain ⟨afterWellFormed, rest⟩ := wellFormed.removed lawful found
  refine ⟨_, ?_, afterWellFormed, rest, rfl⟩
  rw [dictDelete, if_neg filled, wellFormed.slot_eq (Nat.pos_of_ne_zero filled) key, bind_ok,
    wellFormed.find_slot lawful (Nat.pos_of_ne_zero filled) key, found]

end Dict

/-! ## Keys that are strings -/

theorem dictSdsKeyCompare_iff {key1 key2 : SdsKey} :
    dictSdsKeyCompare key1 key2 = true ↔ key1 = key2 := by
  rw [Subtype.ext_iff, dictSdsKeyCompare]
  by_cases same : key1.1 = key2.1
  · simp [same]
  · simp [same]

/-- The dictionaries of this library have lawful keys. -/
theorem lawful_sdsDictType : sdsDictType.Lawful where
  equivalent :=
    { refl := fun _ => dictSdsKeyCompare_iff.mpr rfl
      symm := fun same => dictSdsKeyCompare_iff.mpr (dictSdsKeyCompare_iff.mp same).symm
      trans := fun first second => dictSdsKeyCompare_iff.mpr
        ((dictSdsKeyCompare_iff.mp first).trans (dictSdsKeyCompare_iff.mp second)) }
  hashes := fun same => congrArg dictSdsHash (dictSdsKeyCompare_iff.mp same)
  duplicates := fun _ => dictSdsKeyCompare_iff.mpr rfl

end Libvalkey
