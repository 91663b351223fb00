import Libvalkey.Containers.DictOperations
import Libvalkey.Foundation.Runs
import Mathlib.Data.List.Nodup

/-! # Runs of a dictionary

A dictionary is a map from keys to values along every sequence of calls, and what was stored in
it is destroyed once. Any allocation can fail. -/

namespace Libvalkey

open HashTable KeyedMap Checked Runs

variable {Key Val : Type}

/-! ## Calls -/

/-- A call, with what `vk_calloc` and `vk_malloc` return if they are called. -/
inductive DictCall (Key Val : Type)
  | add (key : Key) (val : Val) (calloc : Bool) (malloc : Option Nat)
  | replace (key : Key) (val : Val) (calloc : Bool) (malloc : Option Nat)
  | delete (key : Key)
  | find (key : Key)
  deriving DecidableEq, Repr

/-- The address that `vk_malloc` returns. -/
def DictCall.malloc : DictCall Key Val → Option Nat
  | .add _ _ _ malloc => malloc
  | .replace _ _ _ malloc => malloc
  | .delete _ => none
  | .find _ => none

inductive DictReply (Val : Type)
  | status (status : DictStatus)
  | replaced (added : Nat)
  | found (val : Option Val)
  deriving DecidableEq, Repr

/-- A dictionary, with the calls so far and the destructors that they called. -/
structure DictState (Key Val : Type) where
  ht : Dict Key Val
  calls : List (DictCall Key Val × DictReply Val)
  destroyed : List (Destroyed Key Val)
  deriving DecidableEq, Repr

namespace DictState

def created : DictState Key Val := ⟨.dictReset, [], []⟩

/-- The state after a call. -/
def answered (state : DictState Key Val) (call : DictCall Key Val) (ht : Dict Key Val)
    (reply : DictReply Val) (destroyed : List (Destroyed Key Val)) : DictState Key Val :=
  ⟨ht, state.calls ++ [(call, reply)], state.destroyed ++ destroyed⟩

variable [DecidableEq Key]

/-- A call of one of the functions. -/
def step (type : DictType Key) (state : DictState Key Val) (call : DictCall Key Val) :
    Except DictFault (DictState Key Val) :=
  match call with
  | .add key val calloc malloc => do
      let result ← state.ht.dictAdd type key val calloc malloc
      .ok (state.answered call result.2 (.status result.1) [])
  | .replace key val calloc malloc => do
      let result ← state.ht.dictReplace type key val calloc malloc
      .ok (state.answered call result.2.1 (.replaced result.1) result.2.2)
  | .delete key => do
      let result ← state.ht.dictDelete type key
      .ok (state.answered call result.2.1 (.status result.1) result.2.2)
  | .find key => do
      let result ← state.ht.dictFind type key
      .ok (state.answered call state.ht (.found (result.map DictEntry.val)) [])

end DictState

/-! ## What is destroyed -/

namespace Dict

variable {type : DictType Key} {ht after : Dict Key Val}

/-- What the destructors are called for if the dictionary is released. -/
def contents (type : DictType Key) (ht : Dict Key Val) : List (Destroyed Key Val) :=
  ht.entries.flatMap fun he => dictFreeEntryKey type he ++ dictFreeEntryVal type he

theorem contents_perm (perm : after.entries.Perm ht.entries) :
    (after.contents type).Perm (ht.contents type) := perm.flatMap_right _

theorem contents_added {he : DictEntry Key Val} (perm : after.entries.Perm (he :: ht.entries)) :
    (after.contents type).Perm
      (dictFreeEntryKey type he ++ dictFreeEntryVal type he ++ ht.contents type) :=
  perm.flatMap_right _

theorem foldl_decremented (chain : List (DictEntry Key Val)) {used : Nat}
    (enough : chain.length ≤ used) (small : used < 2 ^ 64) :
    chain.foldl (fun used _ => decremented used) used = used - chain.length := by
  induction chain generalizing used with
  | nil => rfl
  | cons he chain induction =>
      rw [List.length_cons] at enough ⊢
      rw [List.foldl_cons, decremented_of_pos (by omega) small, induction (by omega) (by omega)]
      omega

theorem dictClearChains_eq (chains : Buckets (DictEntry Key Val)) {used : Nat}
    (all : used = chains.flatten.length) (small : used < 2 ^ 64) :
    dictClearChains type chains used =
      chains.flatten.flatMap fun he => dictFreeEntryKey type he ++ dictFreeEntryVal type he := by
  induction chains generalizing used with
  | nil => rfl
  | cons chain chains induction =>
      rw [List.flatten_cons, List.length_append] at all
      rw [dictClearChains, List.flatten_cons, List.flatMap_append]
      by_cases done : used = 0
      · have first : chain = [] := List.eq_nil_of_length_eq_zero (by omega)
        have others : chains.flatten = [] := List.eq_nil_of_length_eq_zero (by omega)
        rw [if_pos done, first, others]
        rfl
      · rw [if_neg done, foldl_decremented chain (by omega) small, induction (by omega) (by omega)]

theorem map_written_of_notMem {entries : List (DictEntry Key Val)} {address : Nat}
    (absent : address ∉ entries.map DictEntry.address) (val : Val) :
    entries.map (written address val) = entries := by
  have unchanged : entries.map (written address val) = entries.map id := by
    refine List.map_congr_left fun he member => ?_
    rw [written, if_neg, id_eq]
    rintro rfl
    exact absent (List.mem_map_of_mem member)
  rw [unchanged, List.map_id]

end Dict

/-! ## Maps -/

variable [DecidableEq Key]

/-- The replies that a map can give to a call, with the map afterwards and what is stored in it.
A call that needs memory can fail without any. -/
inductive MapAnswers (type : DictType Key) : (Key → Option Val) →
    DictCall Key Val × DictReply Val → (Key → Option Val) → List (Destroyed Key Val) → Prop
  | added {map key val calloc malloc} (absent : map key = none) :
      MapAnswers type map (.add key val calloc malloc, .status .ok)
        (put (dictCompareHashKeys type) map key val) [.key (dictSetKey type key), .val val]
  | notAdded {map key val calloc malloc}
      (why : (map key).isSome = true ∨ calloc = false ∨ malloc = none) :
      MapAnswers type map (.add key val calloc malloc, .status .err) map []
  | inserted {map key val calloc malloc} (absent : map key = none) :
      MapAnswers type map (.replace key val calloc malloc, .replaced 1)
        (put (dictCompareHashKeys type) map key val) [.key (dictSetKey type key), .val val]
  | updated {map key val calloc malloc} (present : (map key).isSome = true) :
      MapAnswers type map (.replace key val calloc malloc, .replaced 0)
        (put (dictCompareHashKeys type) map key val) [.val val]
  | notInserted {map key val calloc malloc} (absent : map key = none)
      (why : calloc = false ∨ malloc = none) :
      MapAnswers type map (.replace key val calloc malloc, .replaced 0) map []
  | deleted {map key} (present : (map key).isSome = true) :
      MapAnswers type map (.delete key, .status .ok) (erase (dictCompareHashKeys type) map key) []
  | notDeleted {map key} (absent : map key = none) :
      MapAnswers type map (.delete key, .status .err) map []
  | found {map key} : MapAnswers type map (.find key, .found (map key)) map []

/-- The replies to some calls are those of a map that was empty at first. -/
inductive MapRun (type : DictType Key) : List (DictCall Key Val × DictReply Val) →
    (Key → Option Val) → List (Destroyed Key Val) → Prop
  | empty : MapRun type [] (fun _ => none) []
  | call {calls map stored call next more} (earlier : MapRun type calls map stored)
      (answers : MapAnswers type map call next more) :
      MapRun type (calls ++ [call]) next (stored ++ more)

namespace Dict

variable {type : DictType Key} {ht after : Dict Key Val}

/-- The map that a dictionary stands for. -/
def meaning (type : DictType Key) (ht : Dict Key Val) (key : Key) : Option Val :=
  (ht.lookup type key).map DictEntry.val

@[simp] theorem meaning_eq_none {key : Key} :
    ht.meaning type key = none ↔ ht.lookup type key = none := by
  simp [meaning]

@[simp] theorem isSome_meaning (key : Key) :
    (ht.meaning type key).isSome = (ht.lookup type key).isSome := by
  simp [meaning]

theorem WellFormed.meaning_perm (wellFormed : ht.WellFormed type) (lawful : type.Lawful)
    (perm : after.entries.Perm ht.entries) : after.meaning type = ht.meaning type := by
  funext key
  rw [meaning, meaning, wellFormed.lookup_perm lawful perm]

theorem WellFormed.meaning_added (wellFormed : ht.WellFormed type) (lawful : type.Lawful)
    {key : Key} (absent : ht.lookup type key = none) {address : Nat} {val : Val}
    (perm : after.entries.Perm (⟨address, dictSetKey type key, val⟩ :: ht.entries)) :
    after.meaning type = put (dictCompareHashKeys type) (ht.meaning type) key val := by
  have distinct : Distinct (dictCompareHashKeys type) DictEntry.key
      (⟨address, dictSetKey type key, val⟩ :: ht.entries) :=
    wellFormed.distinct.cons lawful.equivalent absent (lawful.duplicates key)
  funext other
  have alike : dictCompareHashKeys type other (dictSetKey type key) =
      dictCompareHashKeys type other key := by
    rw [lawful.equivalent.comm, lawful.equivalent.comm other]
    exact (lawful.equivalent.congr (lawful.duplicates key) other).symm
  rw [meaning, lookup, distinct.find_perm lawful.equivalent perm.symm, KeyedMap.find,
    List.find?_cons, alike, put]
  cases dictCompareHashKeys type other key with
  | true => rfl
  | false => rfl

/-- A write to the entry of a key changes the value of this key only. -/
theorem WellFormed.meaning_written (wellFormed : ht.WellFormed type) (lawful : type.Lawful)
    {key : Key} {he : DictEntry Key Val} (found : ht.lookup type key = some he) (val : Val) :
    (ht.dictSetVal he.address val).meaning type =
      put (dictCompareHashKeys type) (ht.meaning type) key val := by
  funext other
  rw [meaning, lookup_dictSetVal, put, meaning, Option.map_map]
  by_cases alike : dictCompareHashKeys type other key = true
  · have same : ht.lookup type other = some he :=
      wellFormed.distinct.find_of_mem lawful.equivalent (mem_of_find found)
        (lawful.equivalent.trans alike (alike_of_find found))
    rw [if_pos alike, same, Option.map_some, Function.comp_apply, written, if_pos rfl]
  · rw [if_neg alike]
    cases known : ht.lookup type other with
    | none => rfl
    | some another =>
        rw [Option.map_some, Option.map_some, Function.comp_apply, written, if_neg]
        intro shared
        have same : another = he := List.inj_on_of_nodup_map wellFormed.addresses
          (mem_of_find known) (mem_of_find found) shared
        subst same
        exact alike (lawful.equivalent.trans (alike_of_find known)
          (lawful.equivalent.symm (alike_of_find found)))

theorem WellFormed.meaning_removed (wellFormed : ht.WellFormed type) (lawful : type.Lawful)
    {key : Key}
    (rest : after.entries = KeyedMap.remove (dictCompareHashKeys type) DictEntry.key ht.entries key) :
    after.meaning type = erase (dictCompareHashKeys type) (ht.meaning type) key := by
  funext other
  rw [meaning, lookup, rest, wellFormed.distinct.find_remove lawful.equivalent, erase, meaning]
  split
  · rfl
  · rfl

/-- The value that was written is there in place of the one before. -/
theorem WellFormed.contents_written (wellFormed : ht.WellFormed type)
    (destroys : type.valDestructor = true) {he : DictEntry Key Val} (member : he ∈ ht.entries)
    (val : Val) :
    (dictFreeEntryVal type he ++ (ht.dictSetVal he.address val).contents type).Perm
      (ht.contents type ++ [.val val]) := by
  have addresses := wellFormed.addresses
  rw [contents, contents, entries_dictSetVal]
  obtain ⟨before, behind, split⟩ := List.append_of_mem member
  rw [split] at addresses ⊢
  rw [List.map_append, List.map_cons, List.nodup_append] at addresses
  obtain ⟨_, others, apart⟩ := addresses
  have first := map_written_of_notMem (fun inside => apart _ inside _ List.mem_cons_self rfl) val
  have last := map_written_of_notMem (List.nodup_cons.mp others).1 val
  rw [List.map_append, List.map_cons, first, last, written, if_pos rfl]
  simp only [List.flatMap_append, List.flatMap_cons, dictFreeEntryVal, destroys, if_true,
    dictFreeEntryKey]
  classical
  rw [List.perm_iff_count]
  intro what
  simp only [List.count_append, List.count_cons, List.count_nil]
  omega

theorem WellFormed.dictRelease_eq (wellFormed : ht.WellFormed type) :
    ht.dictRelease type = ht.contents type := by
  have room := wellFormed.room
  have sizes := wellFormed.size_le
  exact dictClearChains_eq ht.table wellFormed.counted (by omega)

end Dict

/-! ## One call -/

namespace DictState

variable {type : DictType Key} {state next : DictState Key Val} {call : DictCall Key Val}

/-- A call keeps a dictionary well formed and is answered as by a map. What it stores and what
was there is there afterwards, or has been destroyed. -/
structure Advances (type : DictType Key) (state : DictState Key Val) (call : DictCall Key Val)
    (next : DictState Key Val) (reply : DictReply Val) (stored : List (Destroyed Key Val)) :
    Prop where
  taken : state.step type call = .ok next
  calls : next.calls = state.calls ++ [(call, reply)]
  answers : MapAnswers type (state.ht.meaning type) (call, reply) (next.ht.meaning type) stored
  wellFormed : next.ht.WellFormed type
  used : next.ht.used ≤ state.ht.used + 1
  owned : type.keyDestructor = true → type.valDestructor = true →
    (next.destroyed ++ next.ht.contents type).Perm
      (state.destroyed ++ state.ht.contents type ++ stored)

variable (wellFormed : state.ht.WellFormed type) (lawful : type.Lawful)

include wellFormed lawful

omit lawful in
theorem used_of_perm {ht : Dict Key Val} (htWellFormed : ht.WellFormed type)
    (perm : ht.entries.Perm state.ht.entries) : ht.used = state.ht.used := by
  rw [htWellFormed.counted, wellFormed.counted, perm.length_eq]

/-- A call after which the entries are the same. -/
theorem advances_same {ht : Dict Key Val} (htWellFormed : ht.WellFormed type)
    (perm : ht.entries.Perm state.ht.entries) (reply : DictReply Val)
    (taken : state.step type call = .ok (state.answered call ht reply []))
    (answers : MapAnswers type (state.ht.meaning type) (call, reply) (state.ht.meaning type) []) :
    Advances type state call (state.answered call ht reply []) reply [] where
  taken := taken
  calls := rfl
  answers := by
    rw [answered, wellFormed.meaning_perm lawful perm]
    exact answers
  wellFormed := htWellFormed
  used := by
    rw [answered, used_of_perm wellFormed htWellFormed perm]
    exact Nat.le_succ _
  owned := fun _ _ => by
    rw [answered, List.append_nil, List.append_nil]
    exact (Dict.contents_perm perm).append_left _

/-- A call that adds an entry. -/
theorem advances_added {ht : Dict Key Val} (htWellFormed : ht.WellFormed type) {key : Key}
    {val : Val} (absent : state.ht.lookup type key = none) {address : Nat}
    (perm : ht.entries.Perm (⟨address, dictSetKey type key, val⟩ :: state.ht.entries))
    (reply : DictReply Val)
    (taken : state.step type call = .ok (state.answered call ht reply []))
    (answers : MapAnswers type (state.ht.meaning type) (call, reply)
      (put (dictCompareHashKeys type) (state.ht.meaning type) key val)
      [.key (dictSetKey type key), .val val]) :
    Advances type state call (state.answered call ht reply []) reply
      [.key (dictSetKey type key), .val val] where
  taken := taken
  calls := rfl
  answers := by
    rw [answered, wellFormed.meaning_added lawful absent perm]
    exact answers
  wellFormed := htWellFormed
  used := by
    rw [answered, htWellFormed.counted, wellFormed.counted, perm.length_eq]
    exact Nat.le_refl _
  owned := fun keys vals => by
    have added := @Dict.contents_added _ _ type _ _ _ perm
    rw [dictFreeEntryKey, dictFreeEntryVal, keys, vals] at added
    rw [answered, List.append_nil, List.append_assoc]
    exact (added.trans List.perm_append_comm).append_left _

theorem advances_add (few : state.ht.used < 2 ^ 31) (key : Key) (val : Val) (calloc : Bool)
    {malloc : Option Nat} (fresh : state.ht.Fresh malloc) :
    ∃ next reply stored,
      Advances type state (.add key val calloc malloc) next reply stored := by
  obtain ⟨status, ht, result, htWellFormed, cases⟩ :=
    wellFormed.dictAdd_spec lawful few key val calloc fresh
  have taken : state.step type (.add key val calloc malloc) =
      .ok (state.answered (.add key val calloc malloc) ht (.status status) []) := by
    rw [step, result]
    rfl
  rcases cases with ⟨rfl, perm, why⟩ | ⟨rfl, absent, address, _, perm⟩
  · refine ⟨_, _, _, advances_same wellFormed lawful htWellFormed perm _ taken (.notAdded ?_)⟩
    rwa [Dict.isSome_meaning]
  · exact ⟨_, _, _, advances_added wellFormed lawful htWellFormed absent perm _ taken
      (.added (Dict.meaning_eq_none.mpr absent))⟩

theorem advances_replace (few : state.ht.used < 2 ^ 31) (key : Key) (val : Val) (calloc : Bool)
    {malloc : Option Nat} (fresh : state.ht.Fresh malloc) :
    ∃ next reply stored,
      Advances type state (.replace key val calloc malloc) next reply stored := by
  obtain ⟨status, ht, result, htWellFormed, cases⟩ :=
    wellFormed.dictAdd_spec lawful few key val calloc fresh
  rcases cases with ⟨rfl, perm, why⟩ | ⟨rfl, absent, address, _, perm⟩
  · have same := wellFormed.lookup_perm lawful perm key
    have failed : ¬ DictStatus.err = .ok := by decide
    cases found : state.ht.lookup type key with
    | none =>
        rw [found] at same why
        refine ⟨_, _, _, advances_same wellFormed lawful htWellFormed perm (.replaced 0) ?_
          (.notInserted (Dict.meaning_eq_none.mpr found) (why.resolve_left Bool.false_ne_true))⟩
        rw [step, Dict.dictReplace, result, bind_ok, if_neg failed,
          htWellFormed.dictFind_eq lawful, same]
        rfl
    | some he =>
        rw [found] at same
        have member : he ∈ ht.entries := mem_of_find same
        have written := htWellFormed.dictSetVal he.address val
        refine ⟨state.answered (.replace key val calloc malloc) (ht.dictSetVal he.address val)
          (.replaced 0) (dictFreeEntryVal type he), .replaced 0, [.val val], ?_⟩
        exact {
          taken := by
            rw [step, Dict.dictReplace, result, bind_ok, if_neg failed,
              htWellFormed.dictFind_eq lawful, same]
            rfl
          calls := rfl
          answers := by
            rw [answered, htWellFormed.meaning_written lawful same,
              wellFormed.meaning_perm lawful perm]
            exact .updated (by rw [Dict.isSome_meaning, found]; rfl)
          wellFormed := written
          used := by
            have counted := used_of_perm wellFormed htWellFormed perm
            exact Nat.le_succ_of_le (Nat.le_of_eq counted)
          owned := fun _ vals => by
            have there := htWellFormed.contents_written vals member val
            rw [answered, List.append_assoc, List.append_assoc]
            exact (there.trans ((Dict.contents_perm perm).append_right _)).append_left _ }
  · refine ⟨_, _, _, advances_added wellFormed lawful htWellFormed absent perm
      (.replaced 1) ?_ (.inserted (Dict.meaning_eq_none.mpr absent))⟩
    rw [step, Dict.dictReplace, result]
    rfl

theorem advances_delete (key : Key) :
    ∃ next reply stored, Advances type state (.delete key) next reply stored := by
  cases found : state.ht.lookup type key with
  | none =>
      refine ⟨_, _, _, advances_same wellFormed lawful wellFormed (.refl _)
        (.status .err) ?_ (.notDeleted (Dict.meaning_eq_none.mpr found))⟩
      rw [step, wellFormed.dictDelete_absent lawful found]
      rfl
  | some de =>
      obtain ⟨ht, result, htWellFormed, rest, _⟩ := wellFormed.dictDelete_found lawful found
      have perm := perm_remove found
      rw [← rest] at perm
      refine ⟨state.answered (.delete key) ht (.status .ok)
        (dictFreeEntryKey type de ++ dictFreeEntryVal type de), .status .ok, [], ?_⟩
      exact {
        taken := by
          rw [step, result]
          rfl
        calls := rfl
        answers := by
          rw [answered, wellFormed.meaning_removed lawful rest]
          exact .deleted (by rw [Dict.isSome_meaning, found]; rfl)
        wellFormed := htWellFormed
        used := by
          have counted := perm.length_eq
          rw [List.length_cons] at counted
          rw [answered, htWellFormed.counted, wellFormed.counted, counted]
          omega
        owned := fun _ _ => by
          have there := @Dict.contents_added _ _ type _ _ _ perm
          rw [answered, List.append_nil, List.append_assoc]
          exact there.symm.append_left _ }

theorem advances_find (key : Key) :
    ∃ next reply stored, Advances type state (.find key) next reply stored := by
  refine ⟨_, _, _, advances_same wellFormed lawful wellFormed (.refl _) _ ?_ .found⟩
  rw [step, wellFormed.dictFind_eq lawful]
  rfl

theorem exists_advances (few : state.ht.used < 2 ^ 31) (call : DictCall Key Val)
    (fresh : state.ht.Fresh call.malloc) :
    ∃ next reply stored, Advances type state call next reply stored := by
  cases call with
  | add key val calloc malloc => exact advances_add wellFormed lawful few key val calloc fresh
  | replace key val calloc malloc =>
      exact advances_replace wellFormed lawful few key val calloc fresh
  | delete key => exact advances_delete wellFormed lawful key
  | find key => exact advances_find wellFormed lawful key

omit wellFormed lawful

/-! ## All calls -/

/-- What holds after some calls. -/
structure Follows (type : DictType Key) (state : DictState Key Val)
    (stored : List (Destroyed Key Val)) : Prop where
  wellFormed : state.ht.WellFormed type
  answers : MapRun type state.calls (state.ht.meaning type) stored
  owned : type.keyDestructor = true → type.valDestructor = true →
    (state.destroyed ++ state.ht.contents type).Perm stored

theorem follows_created : Follows type (created : DictState Key Val) [] where
  wellFormed := Dict.wellFormed_dictReset
  answers := .empty
  owned := fun _ _ => .nil

theorem Follows.advances {stored more : List (Destroyed Key Val)} {reply : DictReply Val}
    (follows : Follows type state stored) (advances : Advances type state call next reply more) :
    Follows type next (stored ++ more) where
  wellFormed := advances.wellFormed
  answers := by
    rw [advances.calls]
    exact .call follows.answers advances.answers
  owned := fun keys vals =>
    (advances.owned keys vals).trans ((follows.owned keys vals).append_right more)

/-- An allocator returns addresses that are not in use. -/
def Allocates (state : DictState Key Val) (call : DictCall Key Val) : Prop :=
  state.ht.Fresh call.malloc

instance (state : DictState Key Val) (call : DictCall Key Val) :
    Decidable (state.Allocates call) :=
  inferInstanceAs (Decidable (∀ address ∈ call.malloc, _))

theorem Follows.run (lawful : type.Lawful) {stored : List (Destroyed Key Val)}
    {calls : List (DictCall Key Val)} (follows : Follows type state stored)
    (few : state.ht.used + calls.length ≤ 2 ^ 31)
    (allocates : Always (step type) Allocates state calls) :
    ∃ final stored, run (step type) state calls = .ok final ∧ Follows type final stored ∧
      final.calls.map Prod.fst = state.calls.map Prod.fst ++ calls := by
  induction calls generalizing state stored with
  | nil => exact ⟨state, stored, rfl, follows, (List.append_nil _).symm⟩
  | cons call calls induction =>
      rw [List.length_cons] at few
      obtain ⟨now, later⟩ := allocates
      obtain ⟨next, reply, more, advanced⟩ :=
        exists_advances follows.wellFormed lawful (by omega) call now
      have used := advanced.used
      obtain ⟨final, all, reached, finalFollows, made⟩ :=
        induction (follows.advances advanced) (by omega) (later next advanced.taken)
      refine ⟨final, all, ?_, finalFollows, ?_⟩
      · rw [Runs.run, advanced.taken]
        exact reached
      · rw [made, advanced.calls]
        simp

/-- Along every sequence of calls, with any failures of the allocators, a dictionary answers as a
map does, and it counts its entries. No place outside the table is used. -/
theorem dict_is_map (lawful : type.Lawful) {calls : List (DictCall Key Val)}
    (few : calls.length ≤ 2 ^ 31) (allocates : Always (step type) Allocates created calls) :
    ∃ final stored, run (step type) created calls = .ok final ∧
      final.calls.map Prod.fst = calls ∧
      MapRun type final.calls (final.ht.meaning type) stored ∧
      final.ht.used = final.ht.entries.length ∧
      Distinct (dictCompareHashKeys type) DictEntry.key final.ht.entries := by
  obtain ⟨final, stored, reached, follows, made⟩ :=
    follows_created.run lawful (by simpa [created, Dict.dictReset] using few) allocates
  exact ⟨final, stored, reached, made, follows.answers, follows.wellFormed.counted,
    follows.wellFormed.distinct⟩

/-- Every key and every value that was stored is destroyed once, before the dictionary is released
or when it is. -/
theorem stored_destroyed_once (lawful : type.Lawful) (keys : type.keyDestructor = true)
    (vals : type.valDestructor = true) {calls : List (DictCall Key Val)}
    (few : calls.length ≤ 2 ^ 31) (allocates : Always (step type) Allocates created calls) :
    ∃ final stored, run (step type) created calls = .ok final ∧
      MapRun type final.calls (final.ht.meaning type) stored ∧
      (final.destroyed ++ final.ht.dictRelease type).Perm stored := by
  obtain ⟨final, stored, reached, follows, made⟩ :=
    follows_created.run lawful (by simpa [created, Dict.dictReset] using few) allocates
  refine ⟨final, stored, reached, follows.answers, ?_⟩
  rw [follows.wellFormed.dictRelease_eq]
  exact follows.owned keys vals

end DictState

/-! ## The dictionaries of the library -/

theorem length_singleton_lt (byte : UInt8) : [byte].length < 2 ^ 31 := by
  rw [List.length_singleton]
  decide

/-- A key of one letter. -/
def letterKey (byte : UInt8) : SdsKey := ⟨[byte], length_singleton_lt byte⟩

/-- Five entries make the table grow, one of them is replaced and one deleted, and one call has no
memory. -/
def letterCalls : List (DictCall SdsKey Nat) :=
  [.add (letterKey 97) 1 true (some 0), .add (letterKey 98) 2 true (some 1),
    .add (letterKey 99) 3 true none, .add (letterKey 100) 4 true (some 2),
    .add (letterKey 101) 5 true (some 3), .add (letterKey 102) 6 true (some 4),
    .replace (letterKey 98) 7 true none, .delete (letterKey 97), .find (letterKey 98),
    .find (letterKey 97)]

theorem nodesDict_is_map : ∃ final stored,
    run (DictState.step clusterNodesDictType) .created letterCalls = .ok final ∧
      final.calls.map Prod.fst = letterCalls ∧
      MapRun clusterNodesDictType final.calls (final.ht.meaning clusterNodesDictType) stored ∧
      final.ht.used = final.ht.entries.length ∧
      Distinct (dictCompareHashKeys clusterNodesDictType) DictEntry.key final.ht.entries :=
  DictState.dict_is_map lawful_sdsDictType (by decide) (by decide +kernel)

theorem callbacks_destroyed_once : ∃ final stored,
    run (DictState.step callbackDict) .created letterCalls = .ok final ∧
      MapRun callbackDict final.calls (final.ht.meaning callbackDict) stored ∧
      (final.destroyed ++ final.ht.dictRelease callbackDict).Perm stored :=
  DictState.stored_destroyed_once lawful_sdsDictType rfl rfl (by decide) (by decide +kernel)

end Libvalkey
