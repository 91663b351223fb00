import Mathlib.Data.List.Perm.Basic
import Mathlib.Data.List.Pairwise
import Mathlib.Tactic.Common

/-! # Maps whose keys are compared by an equivalence

Two keys can stand for the same one. A list of entries is looked through for a key, and a map
gives the value of each key. -/

namespace Libvalkey.KeyedMap

variable {Key Value Entry : Type}

/-! ## Maps -/

section Maps

variable (same : Key → Key → Bool)

/-- The map with another value at a key. -/
def put (map : Key → Option Value) (key : Key) (value : Value) : Key → Option Value :=
  fun other => if same other key then some value else map other

/-- The map without a key. -/
def erase (map : Key → Option Value) (key : Key) : Key → Option Value :=
  fun other => if same other key then none else map other

end Maps

/-! ## Lists of entries -/

variable (same : Key → Key → Bool) (keyOf : Entry → Key)

/-- The first entry of a key. -/
def find (entries : List Entry) (key : Key) : Option Entry :=
  entries.find? fun entry => same key (keyOf entry)

/-- The entries without the first one of a key. -/
def remove (entries : List Entry) (key : Key) : List Entry :=
  entries.eraseP fun entry => same key (keyOf entry)

/-- No two entries have the same key. -/
def Distinct (entries : List Entry) : Prop :=
  entries.Pairwise fun first second => same (keyOf first) (keyOf second) = false

variable {same keyOf} {entries others : List Entry} {key : Key}

theorem find_eq_none : find same keyOf entries key = none ↔
    ∀ entry ∈ entries, same key (keyOf entry) = false := by
  simp [find]

theorem mem_of_find {entry : Entry} (found : find same keyOf entries key = some entry) :
    entry ∈ entries := List.mem_of_find?_eq_some found

theorem alike_of_find {entry : Entry} (found : find same keyOf entries key = some entry) :
    same key (keyOf entry) = true :=
  List.find?_some (p := fun entry => same key (keyOf entry)) found

/-- The entry that is removed is the one that is found. -/
theorem perm_remove {entry : Entry} (found : find same keyOf entries key = some entry) :
    entries.Perm (entry :: remove same keyOf entries key) := by
  obtain ⟨alike, before, behind, rfl, others⟩ := List.find?_eq_some_iff_append.mp found
  have first : ∀ other ∈ before, ¬ same key (keyOf other) = true := fun other member => by
    simpa using others other member
  rw [remove, List.eraseP_append_right _ first,
    List.eraseP_cons_of_pos (p := fun other => same key (keyOf other)) alike]
  exact List.perm_middle

/-- Keys are the same as themselves, and the relation has no direction and no gaps. -/
structure Equivalent (same : Key → Key → Bool) : Prop where
  refl : ∀ key, same key key = true
  symm : ∀ {first second}, same first second = true → same second first = true
  trans : ∀ {first second third}, same first second = true → same second third = true →
    same first third = true

section Equivalent

variable (equivalent : Equivalent same)

include equivalent

theorem Equivalent.comm (first second : Key) : same first second = same second first := by
  rw [Bool.eq_iff_iff]
  exact ⟨equivalent.symm, equivalent.symm⟩

theorem Equivalent.congr {first second : Key} (alike : same first second = true) (third : Key) :
    same first third = same second third := by
  rw [Bool.eq_iff_iff]
  exact ⟨equivalent.trans (equivalent.symm alike), equivalent.trans alike⟩

theorem Distinct.perm (distinct : Distinct same keyOf entries) (perm : entries.Perm others) :
    Distinct same keyOf others := by
  refine perm.pairwise distinct fun {first second} apart => ?_
  rw [equivalent.comm, apart]

/-- An entry of a key is the one that is found. -/
theorem Distinct.find_of_mem (distinct : Distinct same keyOf entries) {entry : Entry}
    (member : entry ∈ entries) (alike : same key (keyOf entry) = true) :
    find same keyOf entries key = some entry := by
  induction entries with
  | nil => cases member
  | cons first rest induction =>
      obtain ⟨apart, distinct⟩ := List.pairwise_cons.mp distinct
      rw [find, List.find?_cons]
      rcases List.mem_cons.mp member with first | later
      · subst first
        rw [alike]
      · have other : same key (keyOf first) = false := by
          rw [equivalent.congr alike, equivalent.comm]
          exact apart entry later
        rw [other]
        exact induction distinct later

/-- The order of the entries makes no difference. -/
theorem Distinct.find_perm (distinct : Distinct same keyOf entries) (perm : entries.Perm others)
    (key : Key) : find same keyOf others key = find same keyOf entries key := by
  cases found : find same keyOf entries key with
  | none =>
      rw [find_eq_none] at found ⊢
      exact fun entry member => found entry (perm.mem_iff.mpr member)
  | some entry =>
      refine (distinct.perm equivalent perm).find_of_mem equivalent ?_ (alike_of_find found)
      exact perm.mem_iff.mp (mem_of_find found)

theorem Distinct.cons (distinct : Distinct same keyOf entries) {entry : Entry}
    (absent : find same keyOf entries key = none) (alike : same key (keyOf entry) = true) :
    Distinct same keyOf (entry :: entries) := by
  refine List.pairwise_cons.mpr ⟨fun other member => ?_, distinct⟩
  rw [← equivalent.congr alike]
  exact find_eq_none.mp absent other member

omit equivalent in
theorem Distinct.remove (distinct : Distinct same keyOf entries) (key : Key) :
    Distinct same keyOf (remove same keyOf entries key) :=
  distinct.sublist List.eraseP_sublist

/-- The entry that is removed by its own key. -/
theorem Distinct.remove_middle {before behind : List Entry} {entry : Entry}
    (distinct : Distinct same keyOf (before ++ entry :: behind)) :
    KeyedMap.remove same keyOf (before ++ entry :: behind) (keyOf entry) = before ++ behind := by
  obtain ⟨_, _, apart⟩ := List.pairwise_append.mp distinct
  have first : ∀ other ∈ before, ¬ same (keyOf entry) (keyOf other) = true := fun other member => by
    rw [equivalent.comm, apart other member entry List.mem_cons_self]
    exact Bool.false_ne_true
  rw [KeyedMap.remove, List.eraseP_append_right _ first,
    List.eraseP_cons_of_pos (p := fun other => same (keyOf entry) (keyOf other))
      (equivalent.refl _)]

/-- Without the entry of a key, nothing is found for it. -/
theorem Distinct.find_remove (distinct : Distinct same keyOf entries) (key other : Key) :
    find same keyOf (KeyedMap.remove same keyOf entries key) other =
      if same other key then none else find same keyOf entries other := by
  induction entries with
  | nil => simp [KeyedMap.remove, find]
  | cons entry rest induction =>
      obtain ⟨apart, distinct⟩ := List.pairwise_cons.mp distinct
      rw [KeyedMap.remove, List.eraseP_cons]
      cases found : same key (keyOf entry) with
      | true =>
          rw [cond_true]
          cases alike : same other key with
          | true =>
              rw [if_pos rfl, find_eq_none]
              intro later member
              rw [equivalent.congr (equivalent.trans alike found)]
              exact apart later member
          | false =>
              rw [if_neg Bool.false_ne_true, find, find, List.find?_cons]
              have different : same other (keyOf entry) = false := by
                rw [equivalent.comm, ← equivalent.congr found, equivalent.comm]
                exact alike
              rw [different]
      | false =>
          rw [cond_false, find, List.find?_cons]
          have behind := induction distinct
          rw [KeyedMap.remove, find] at behind
          cases alike : same other key with
          | true =>
              have different : same other (keyOf entry) = false := by
                rw [equivalent.congr alike]
                exact found
              rw [different, behind, alike]
              rfl
          | false =>
              rw [behind, alike, if_neg Bool.false_ne_true, if_neg Bool.false_ne_true, find, find,
                List.find?_cons]

end Equivalent

end Libvalkey.KeyedMap
