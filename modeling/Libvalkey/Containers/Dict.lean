import Libvalkey.Foundation.Checked
import Libvalkey.Foundation.HashTable
import Libvalkey.Foundation.KeyedMap
import Libvalkey.Reader.Process

/-! # Dictionaries

`dict.c`: a hash table of chains whose size is a power of two. The keys are hashed, compared,
copied and freed by the functions of a `dictType`. -/

namespace Libvalkey

open HashTable KeyedMap Checked

/-- `dictGenHashFunction`. The arithmetic is that of `uint64_t`. -/
def dictGenHashFunction (buf : Bytes) : UInt64 :=
  buf.foldl (fun hash byte => (hash <<< 5) + hash + byte.toUInt64) 5381

/-- The loop of `_dictNextPower`. The first argument bounds its rounds. -/
def dictNextPowerFrom : Nat → Nat → Nat → Nat
  | 0, i, _ => i
  | rounds + 1, i, size => if i ≥ size then i else dictNextPowerFrom rounds (i * 2) size

/-- `_dictNextPower` -/
def dictNextPower (size : Nat) : Nat :=
  if size ≥ 2 ^ 63 - 1 then 2 ^ 63 - 1 else dictNextPowerFrom 64 4 size

theorem dictNextPowerFrom_pos (rounds : Nat) {i : Nat} (positive : 0 < i) (size : Nat) :
    0 < dictNextPowerFrom rounds i size := by
  induction rounds generalizing i with
  | zero => exact positive
  | succ rounds induction =>
      rw [dictNextPowerFrom]
      split
      · exact positive
      · exact induction (by omega)

theorem dictNextPower_pos (size : Nat) : 0 < dictNextPower size := by
  unfold dictNextPower
  split
  · decide
  · exact dictNextPowerFrom_pos 64 (show 0 < 4 by decide) size

theorem dictNextPowerFrom_pow {rounds power more : Nat} (enough : more < rounds) :
    dictNextPowerFrom rounds (2 ^ power) (2 ^ (power + more)) = 2 ^ (power + more) := by
  induction more generalizing rounds power with
  | zero =>
      obtain ⟨rounds, rfl⟩ := Nat.exists_eq_add_of_lt enough
      rw [Nat.zero_add, dictNextPowerFrom, Nat.add_zero, if_pos (Nat.le_refl _)]
  | succ more induction =>
      obtain ⟨rounds, rfl⟩ : ∃ fewer, rounds = fewer + 1 := ⟨rounds - 1, by omega⟩
      have less : ¬ 2 ^ power ≥ 2 ^ (power + (more + 1)) :=
        Nat.not_le.mpr (Nat.pow_lt_pow_right (by decide) (by omega))
      rw [dictNextPowerFrom, if_neg less, ← Nat.pow_succ,
        show power + (more + 1) = power + 1 + more by omega]
      exact induction (by omega)

/-- A power of two is its own next one. -/
theorem dictNextPower_pow {power : Nat} (lower : 2 ≤ power) (upper : power ≤ 62) :
    dictNextPower (2 ^ power) = 2 ^ power := by
  have less : ¬ 2 ^ power ≥ 2 ^ 63 - 1 := by
    have := Nat.pow_le_pow_right (show 0 < 2 by decide) upper
    omega
  obtain ⟨more, rfl⟩ := Nat.exists_eq_add_of_le lower
  rw [dictNextPower, if_neg less]
  exact @dictNextPowerFrom_pow 64 2 more (by omega)

/-! ## The table -/

/-- `dictType`. Whether there is a destructor is what is kept of the two destructors. -/
structure DictType (Key : Type) where
  hashFunction : Key → UInt64
  keyDup : Option (Key → Key)
  keyCompare : Option (Key → Key → Bool)
  keyDestructor : Bool
  valDestructor : Bool

/-- `dictEntry`, with the address that it was allocated at. The entries behind it are those
that come after it in its chain. -/
structure DictEntry (Key Val : Type) where
  address : Nat
  key : Key
  val : Val
  deriving DecidableEq, Repr

/-- `dict`. The table is a block of `size` chains. -/
structure Dict (Key Val : Type) where
  table : Buckets (DictEntry Key Val)
  sizemask : Nat
  used : Nat
  deriving DecidableEq, Repr

inductive DictStatus
  | ok
  | err
  deriving DecidableEq, Repr

/-- Undefined behaviour, or an assertion that fails: a place that is outside the table, an
entry that has been freed, an index that does not fit an `int`, entries that were not moved. -/
inductive DictFault
  | outside
  | freed
  | overflow
  | assertion
  deriving DecidableEq, Repr

/-- A call of a destructor. -/
inductive Destroyed (Key Val : Type)
  | key (key : Key)
  | val (val : Val)
  deriving DecidableEq, Repr

variable {Key Val : Type} [DecidableEq Key] (type : DictType Key)

/-- `dictCompareHashKeys`. Without a function the pointers are compared. -/
def dictCompareHashKeys (key1 key2 : Key) : Bool :=
  match type.keyCompare with
  | some keyCompare => keyCompare key1 key2
  | none => decide (key1 = key2)

/-- `dictHashKey(ht, key) & ht->sizemask`, as an `unsigned int`. -/
def dictHashIndex (key : Key) (sizemask : Nat) : Nat :=
  ((type.hashFunction key).toNat &&& sizemask) % 2 ^ 32

/-- The key that `dictSetKey` stores. -/
def dictSetKey (key : Key) : Key :=
  match type.keyDup with
  | some keyDup => keyDup key
  | none => key

/-- `dictFreeEntryKey` -/
def dictFreeEntryKey (entry : DictEntry Key Val) : List (Destroyed Key Val) :=
  if type.keyDestructor then [.key entry.key] else []

/-- `dictFreeEntryVal` -/
def dictFreeEntryVal (entry : DictEntry Key Val) : List (Destroyed Key Val) :=
  if type.valDestructor then [.val entry.val] else []

/-- `ht->used--`, as an `unsigned long`. -/
def decremented (used : Nat) : Nat := (used + (2 ^ 64 - 1)) % 2 ^ 64

/-- The entries of a slot are moved by `dictExpand`. -/
def dictMoveChain (sizemask : Nat) : List (DictEntry Key Val) →
    Buckets (DictEntry Key Val) × Nat → Except DictFault (Buckets (DictEntry Key Val) × Nat)
  | [], moved => .ok moved
  | he :: chain, moved =>
      if dictHashIndex type he.key sizemask < moved.1.length then
        dictMoveChain sizemask chain
          (moved.1.modify (dictHashIndex type he.key sizemask) (he :: ·), decremented moved.2)
      else .error .outside

/-- The slots that `dictExpand` goes along while there are entries left. -/
def dictMoveChains (sizemask : Nat) : Buckets (DictEntry Key Val) →
    Buckets (DictEntry Key Val) × Nat → Except DictFault (Buckets (DictEntry Key Val) × Nat)
  | [], moved => .ok moved
  | chain :: chains, moved =>
      if moved.2 = 0 then .ok moved
      else dictMoveChain type sizemask chain moved >>= dictMoveChains sizemask chains

namespace Dict

/-- `_dictReset` -/
def dictReset : Dict Key Val := ⟨[], 0, 0⟩

/-- `dictCreate`, with whether `vk_malloc` returns a block. -/
def dictCreate (malloc : Bool) : Option (Dict Key Val) := if malloc then some dictReset else none

variable (ht : Dict Key Val)

/-- `ht->size` -/
def size : Nat := ht.table.length

/-- The entries, slot by slot. -/
def entries : List (DictEntry Key Val) := ht.table.flatten

/-- `dictExpand`, with whether `vk_calloc` returns a block. -/
def dictExpand (size : Nat) (calloc : Bool) : Except DictFault (DictStatus × Dict Key Val) :=
  if ht.used > size then .ok (.err, ht)
  else if calloc = false then .ok (.err, ht)
  else do
    let moved ← dictMoveChains type (dictNextPower size - 1) ht.table
      (List.replicate (dictNextPower size) [], ht.used)
    if moved.2 = 0 then .ok (.ok, ⟨moved.1, dictNextPower size - 1, ht.used⟩)
    else .error .assertion

/-- `_dictExpandIfNeeded` -/
def dictExpandIfNeeded (calloc : Bool) : Except DictFault (DictStatus × Dict Key Val) :=
  if ht.size = 0 then ht.dictExpand type 4 calloc
  else if ht.used = ht.size then ht.dictExpand type (ht.size * 2 % 2 ^ 64) calloc
  else .ok (.ok, ht)

/-- The slot that a key belongs to. -/
def slot (key : Key) : Except DictFault (List (DictEntry Key Val)) :=
  if dictHashIndex type key ht.sizemask < ht.size then
    .ok (ht.table.getD (dictHashIndex type key ht.sizemask) [])
  else .error .outside

/-- `_dictKeyIndex`. The index is returned as an `int`. -/
def dictKeyIndex (key : Key) (calloc : Bool) : Except DictFault (Int × Dict Key Val) := do
  let expanded ← ht.dictExpandIfNeeded type calloc
  if expanded.1 = .err then .ok (-1, expanded.2)
  else
    let chain ← expanded.2.slot type key
    if chain.any (fun he => dictCompareHashKeys type key he.key) then .ok (-1, expanded.2)
    else .ok (toInt32 (dictHashIndex type key expanded.2.sizemask), expanded.2)

/-- `dictAdd`, with the address that `vk_malloc` returns for the entry. -/
def dictAdd (key : Key) (val : Val) (calloc : Bool) (malloc : Option Nat) :
    Except DictFault (DictStatus × Dict Key Val) := do
  let placed ← ht.dictKeyIndex type key calloc
  if placed.1 = -1 then .ok (.err, placed.2)
  else
    match malloc with
    | none => .ok (.err, placed.2)
    | some address =>
        if 0 ≤ placed.1 ∧ placed.1 < placed.2.size then
          .ok (.ok, { placed.2 with
            table := placed.2.table.modify placed.1.toNat
              (⟨address, dictSetKey type key, val⟩ :: ·)
            used := (placed.2.used + 1) % 2 ^ 64 })
        else .error .outside

/-- `dictFind` -/
def dictFind (key : Key) : Except DictFault (Option (DictEntry Key Val)) :=
  if ht.size = 0 then .ok none
  else do
    let chain ← ht.slot type key
    .ok (chain.find? fun he => dictCompareHashKeys type key he.key)

/-- An entry after a write to the entry at an address. -/
def written (address : Nat) (val : Val) (he : DictEntry Key Val) : DictEntry Key Val :=
  if he.address = address then { he with val } else he

/-- `dictSetVal` writes to the entry at an address. -/
def dictSetVal (address : Nat) (val : Val) : Dict Key Val :=
  { ht with table := ht.table.map (List.map (written address val)) }

/-- `dictReplace`, with the destructors that it calls. -/
def dictReplace (key : Key) (val : Val) (calloc : Bool) (malloc : Option Nat) :
    Except DictFault (Nat × Dict Key Val × List (Destroyed Key Val)) := do
  let added ← ht.dictAdd type key val calloc malloc
  if added.1 = .ok then .ok (1, added.2, [])
  else
    let entry ← added.2.dictFind type key
    match entry with
    | none => .ok (0, added.2, [])
    | some entry =>
        .ok (0, added.2.dictSetVal entry.address val, dictFreeEntryVal type entry)

/-- `dictDelete`, with the destructors that it calls. -/
def dictDelete (key : Key) :
    Except DictFault (DictStatus × Dict Key Val × List (Destroyed Key Val)) :=
  if ht.size = 0 then .ok (.err, ht, [])
  else do
    let chain ← ht.slot type key
    match chain.find? fun he => dictCompareHashKeys type key he.key with
    | none => .ok (.err, ht, [])
    | some de =>
        .ok (.ok, { ht with
          table := ht.table.modify (dictHashIndex type key ht.sizemask)
            (List.eraseP fun he => dictCompareHashKeys type key he.key)
          used := decremented ht.used }, dictFreeEntryKey type de ++ dictFreeEntryVal type de)

/-- The slots that `_dictClear` goes along while there are entries left. -/
def dictClearChains : Buckets (DictEntry Key Val) → Nat → List (Destroyed Key Val)
  | [], _ => []
  | chain :: chains, used =>
      if used = 0 then []
      else
        chain.flatMap (fun he => dictFreeEntryKey type he ++ dictFreeEntryVal type he) ++
          dictClearChains chains (chain.foldl (fun used _ => decremented used) used)

/-- `dictRelease`, by the destructors that it calls. -/
def dictRelease : List (Destroyed Key Val) := dictClearChains type ht.table ht.used

end Dict

/-! ## Keys that are strings -/

/-- A key that is an sds. The functions on keys take its length as an `int`. -/
abbrev SdsKey := { key : Bytes // key.length < 2 ^ 31 }

/-- `dictSdsHash`, and `callbackHash` -/
def dictSdsHash (key : SdsKey) : UInt64 := dictGenHashFunction key.1

/-- `dictSdsKeyCompare`, and `callbackKeyCompare` -/
def dictSdsKeyCompare (key1 key2 : SdsKey) : Bool :=
  if key1.1.length ≠ key2.1.length then false else key1.1 == key2.1

/-- A `dictType` for keys that are strings. -/
def sdsDictType : DictType SdsKey where
  hashFunction := dictSdsHash
  keyDup := none
  keyCompare := some dictSdsKeyCompare
  keyDestructor := true
  valDestructor := true

/-- The nodes of a cluster client. -/
def clusterNodesDictType : DictType SdsKey := sdsDictType

/-- The primaries of the replicas in a reply to `CLUSTER NODES`. -/
def clusterNodeListDictType : DictType SdsKey := sdsDictType

/-- The subscriptions of an asynchronous context. -/
def callbackDict : DictType SdsKey := sdsDictType

end Libvalkey
