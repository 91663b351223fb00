import Mathlib.Data.List.AList

/-! # Dictionaries

Association lists whose values are changed in place. -/

namespace Libvalkey.Dictionary

variable {Key Value : Type} [DecidableEq Key]

/-- Every value is changed, and the keys stay as they are. -/
def mapValues (change : Value → Value) (dict : AList fun _ : Key => Value) :
    AList fun _ : Key => Value where
  entries := dict.entries.map fun entry => ⟨entry.1, change entry.2⟩
  nodupKeys := by
    have nodup := dict.nodupKeys
    rw [List.NodupKeys, List.keys] at nodup ⊢
    rwa [List.map_map]

@[simp] theorem lookup_mapValues (change : Value → Value) (dict : AList fun _ : Key => Value)
    (key : Key) : (mapValues change dict).lookup key = (dict.lookup key).map change := by
  unfold AList.lookup mapValues
  dsimp only
  induction dict.entries with
  | nil => rfl
  | cons entry rest induction =>
      obtain ⟨other, value⟩ := entry
      by_cases same : key = other
      · subst same
        simp
      · rw [List.map_cons, List.dlookup_cons_ne _ _ same, List.dlookup_cons_ne _ _ same, induction]

/-- The values, in the order of the entries. -/
def values (dict : AList fun _ : Key => Value) : List Value := dict.entries.map (·.2)

end Libvalkey.Dictionary
