import Mathlib.Algebra.GroupWithZero.Nat
import Mathlib.Algebra.Order.BigOperators.Group.List
import Mathlib.Algebra.Order.Group.Nat
import Mathlib.Data.List.Perm.Basic

/-! # Weights of lists with keys

The sum of the weights of a list whose members have different keys, and what becomes of it
when the members change. -/

namespace Libvalkey.Weights

variable {α κ : Type} {key : α → κ} {weight bound : α → Nat} {after before : List α}

/-- Whatever weighs something has a predecessor with its key and a bound that is no less. -/
def Dominated (key : α → κ) (weight bound : α → Nat) (after before : List α) : Prop :=
  ∀ value ∈ after, weight value = 0 ∨
    ∃ old ∈ before, key old = key value ∧ weight value ≤ bound old

namespace Dominated

/-- What is not from before weighs nothing. -/
theorem of_light_or_mem (old : ∀ value ∈ after, weight value = 0 ∨ value ∈ before) :
    Dominated key weight weight after before :=
  fun value member => (old value member).imp_right fun inBefore => ⟨value, inBefore, rfl, le_rfl⟩

theorem of_map {change : α → α}
    (small : ∀ value ∈ before, key (change value) = key value ∧
      weight (change value) ≤ bound value) :
    Dominated key weight bound (before.map change) before := by
  intro value member
  obtain ⟨old, inBefore, rfl⟩ := List.mem_map.mp member
  exact .inr ⟨old, inBefore, (small old inBefore).1.symm, (small old inBefore).2⟩

theorem mono {larger : α → Nat} (dominated : Dominated key weight bound after before)
    (le : ∀ value, bound value ≤ larger value) : Dominated key weight larger after before := by
  intro value member
  rcases dominated value member with none | ⟨old, oldMember, same, small⟩
  · exact .inl none
  · exact .inr ⟨old, oldMember, same, small.trans (le old)⟩

/-- The bounds of two changes, one after the other. -/
theorem trans {between : List α} {later total : α → Nat}
    (first : Dominated key weight bound between before)
    (second : Dominated key weight later after between)
    (le : ∀ old middle, key old = key middle → weight middle ≤ bound old →
      later middle ≤ total old) (none : ∀ middle, weight middle = 0 → later middle = 0) :
    Dominated key weight total after before := by
  intro value member
  rcases second value member with none | ⟨middle, middleMember, same, small⟩
  · exact .inl none
  rcases first middle middleMember with empty | ⟨old, oldMember, oldSame, oldSmall⟩
  · exact .inl (Nat.eq_zero_of_le_zero (none middle empty ▸ small))
  · exact .inr ⟨old, oldMember, oldSame.trans same, small.trans (le old middle oldSame oldSmall)⟩

theorem sum_le (dominated : Dominated key weight bound after before)
    (keys : (after.map key).Nodup) : (after.map weight).sum ≤ (before.map bound).sum := by
  induction after generalizing before with
  | nil => exact Nat.zero_le _
  | cons value rest induction =>
      obtain ⟨new, keys⟩ := List.nodup_cons.mp keys
      have later := List.forall_mem_cons.mp dominated
      rw [List.map_cons, List.sum_cons]
      rcases later.1 with none | ⟨old, oldMember, same, small⟩
      · rw [none, Nat.zero_add]
        exact induction later.2 keys
      · obtain ⟨front, back, rfl⟩ := List.append_of_mem oldMember
        have others : Dominated key weight bound rest (front ++ back) := by
          intro other member
          rcases later.2 other member with none | ⟨match_, matchMember, matchSame, matchSmall⟩
          · exact .inl none
          refine .inr ⟨match_, ?_, matchSame, matchSmall⟩
          rcases List.mem_append.mp matchMember with inFront | inBack
          · exact List.mem_append_left _ inFront
          rcases List.mem_cons.mp inBack with rfl | inBack
          · exact absurd (List.mem_map_of_mem member) (matchSame ▸ same.symm ▸ new)
          · exact List.mem_append_right _ inBack
        have sums := induction others keys
        simp only [List.map_append, List.map_cons, List.sum_append, List.sum_cons] at sums ⊢
        omega

end Dominated

/-- One more at a key. -/
theorem sum_raised [DecidableEq κ] (keys : (before.map key).Nodup) (name : κ) :
    (before.map fun value => if key value = name then weight value + 1 else weight value).sum ≤
      (before.map weight).sum + 1 := by
  induction before with
  | nil => exact Nat.zero_le _
  | cons value rest induction =>
      obtain ⟨new, keys⟩ := List.nodup_cons.mp keys
      simp only [List.map_cons, List.sum_cons]
      split
      · rename_i here
        have others : (rest.map fun value =>
            if key value = name then weight value + 1 else weight value) = rest.map weight := by
          apply List.map_congr_left
          intro other member
          apply if_neg
          intro same
          exact new (here.trans same.symm ▸ List.mem_map_of_mem member)
        rw [others]
        omega
      · have sums := induction keys
        omega

/-- One less at the key of a member that weighs something. -/
theorem sum_lowered [DecidableEq κ] {value : α} (member : value ∈ before)
    (positive : 0 < weight value) :
    (before.map fun other => if key other = key value then weight other - 1 else weight other).sum <
      (before.map weight).sum := by
  apply List.sum_lt_sum
  · intro other _
    split
    · exact Nat.sub_le _ _
    · exact le_rfl
  · refine ⟨value, member, ?_⟩
    rw [if_pos rfl]
    exact Nat.sub_lt positive Nat.one_pos

end Libvalkey.Weights
