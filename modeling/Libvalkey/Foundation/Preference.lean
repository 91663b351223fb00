import Mathlib.Data.List.Basic
import Mathlib.Tactic.Common

/-! # Preference

The candidates of a search are graded, and one of the highest grade is to be chosen. A
candidate of grade zero is never chosen. -/

namespace Libvalkey.Preference

variable {α : Type} (grade : α → Nat)

/-- One of the best candidates that have been seen, if any of them can be chosen. -/
def Best (seen : List α) : Option α → Prop
  | none => ∀ candidate ∈ seen, grade candidate = 0
  | some chosen =>
      chosen ∈ seen ∧ 0 < grade chosen ∧ ∀ candidate ∈ seen, grade candidate ≤ grade chosen

variable {grade} {seen : List α} {chosen : Option α} {candidate : α}

theorem best_nil : Best grade [] none := fun _ member => nomatch member

/-- A candidate that is as good as the chosen one takes its place. -/
theorem Best.replace (best : Best grade seen chosen) (wanted : 0 < grade candidate)
    (better : chosen.elim 0 grade ≤ grade candidate) :
    Best grade (seen ++ [candidate]) (some candidate) := by
  refine ⟨by simp, wanted, fun other member => ?_⟩
  rcases List.mem_append.mp member with before | last
  · cases chosen with
    | none =>
        rw [best other before]
        exact Nat.zero_le _
    | some known => exact Nat.le_trans (best.2.2 other before) better
  · exact Nat.le_of_eq (congrArg grade (List.mem_singleton.mp last))

/-- A candidate that is no better leaves the chosen one in its place. -/
theorem Best.keep (best : Best grade seen chosen) (worse : grade candidate ≤ chosen.elim 0 grade) :
    Best grade (seen ++ [candidate]) chosen := by
  cases chosen with
  | none =>
      intro other member
      rcases List.mem_append.mp member with before | last
      · exact best other before
      · rw [List.mem_singleton.mp last]
        exact Nat.le_zero.mp worse
  | some known =>
      refine ⟨List.mem_append_left _ best.1, best.2.1, fun other member => ?_⟩
      rcases List.mem_append.mp member with before | last
      · exact best.2.2 other before
      · rw [List.mem_singleton.mp last]
        exact worse

/-- A candidate of the highest grade is the best one before the others have been seen. -/
theorem Best.stop {known : α} (best : Best grade seen (some known))
    (highest : ∀ other, grade other ≤ grade known) (rest : List α) :
    Best grade (seen ++ rest) (some known) :=
  ⟨List.mem_append_left _ best.1, best.2.1, fun other _ => highest other⟩

theorem Best.perm (best : Best grade seen chosen) {others : List α} (same : seen.Perm others) :
    Best grade others chosen := by
  cases chosen with
  | none => exact fun other member => best other (same.mem_iff.mpr member)
  | some known =>
      exact ⟨same.mem_iff.mp best.1, best.2.1, fun other member =>
        best.2.2 other (same.mem_iff.mpr member)⟩

end Libvalkey.Preference
