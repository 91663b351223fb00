import Mathlib.Data.List.Basic

/-! # Binary search

The search of a list by a probe, which tells on which side of an entry the wanted
one is, or that the search is to be given up. -/

namespace Libvalkey.BinarySearch

variable {α : Type} (entries : List α) (probe : α → Option Ordering)

/-- The search between two positions, `right` being the one after the last. A round
makes the interval smaller, so that its length is enough of a bound. -/
def searchBetween : Nat → Nat → Nat → Option α
  | 0, _, _ => none
  | bound + 1, left, right =>
      if left < right then
        let middle := (left + (right - 1)) / 2
        match entries[middle]? with
        | none => none
        | some entry =>
            match probe entry with
            | none => none
            | some .eq => some entry
            | some .lt => searchBetween bound (middle + 1) right
            | some .gt => searchBetween bound left middle
      else none

def search : Option α := searchBetween entries probe entries.length 0 entries.length

variable {entries probe}

/-- Whatever the order of the entries, an entry that is found is one of them, and the
probe points to it. -/
theorem searchBetween_sound {bound left right : Nat} {entry : α}
    (found : searchBetween entries probe bound left right = some entry) :
    entry ∈ entries ∧ probe entry = some .eq := by
  induction bound generalizing left right with
  | zero => simp [searchBetween] at found
  | succ bound induction =>
      rw [searchBetween] at found
      split at found
      · dsimp only at found
        cases known : entries[(left + (right - 1)) / 2]? with
        | none => simp [known] at found
        | some middle =>
            have member := List.mem_of_getElem? known
            simp only [known] at found
            cases pointed : probe middle with
            | none => simp [pointed] at found
            | some order =>
                cases order with
                | lt => exact induction (by simpa [pointed] using found)
                | gt => exact induction (by simpa [pointed] using found)
                | eq =>
                    have same : middle = entry := by simpa [pointed] using found
                    exact same ▸ ⟨member, pointed⟩
      · simp at found

theorem search_sound {entry : α} (found : search entries probe = some entry) :
    entry ∈ entries ∧ probe entry = some .eq :=
  searchBetween_sound found

/-- Two probes that agree on the entries make the same search. -/
theorem searchBetween_congr {other : α → Option Ordering}
    (agree : ∀ entry ∈ entries, probe entry = other entry) (bound left right : Nat) :
    searchBetween entries probe bound left right = searchBetween entries other bound
      left right := by
  induction bound generalizing left right with
  | zero => rfl
  | succ bound induction =>
      rw [searchBetween, searchBetween]
      split
      · dsimp only
        cases known : entries[(left + (right - 1)) / 2]? with
        | none => rfl
        | some middle =>
            have member := List.mem_of_getElem? known
            simp only [agree middle member, induction]
      · rfl

theorem search_congr {other : α → Option Ordering}
    (agree : ∀ entry ∈ entries, probe entry = other entry) :
    search entries probe = search entries other :=
  searchBetween_congr agree _ _ _

/-- A search that passes by the entries to which its probe points does so with every
probe that agrees with it elsewhere. -/
theorem searchBetween_missed {other : α → Option Ordering}
    (definite : ∀ entry, probe entry ≠ none)
    (agree : ∀ entry ∈ entries, probe entry ≠ some .eq → other entry = probe entry)
    {bound left right : Nat} (missed : searchBetween entries probe bound left right = none) :
    searchBetween entries other bound left right = none := by
  induction bound generalizing left right with
  | zero => rfl
  | succ bound induction =>
      rw [searchBetween] at missed ⊢
      split at missed
      · rename_i inside
        rw [if_pos inside]
        dsimp only at missed ⊢
        cases known : entries[(left + (right - 1)) / 2]? with
        | none => rfl
        | some middle =>
            have member := List.mem_of_getElem? known
            simp only [known] at missed ⊢
            cases pointed : probe middle with
            | none => exact absurd pointed (definite middle)
            | some order =>
                cases order with
                | eq => simp [pointed] at missed
                | lt =>
                    rw [agree middle member (by simp [pointed]), pointed]
                    exact induction (by simpa [pointed] using missed)
                | gt =>
                    rw [agree middle member (by simp [pointed]), pointed]
                    exact induction (by simpa [pointed] using missed)
      · rename_i outside
        rw [if_neg outside]

theorem search_missed {other : α → Option Ordering} (definite : ∀ entry, probe entry ≠ none)
    (agree : ∀ entry ∈ entries, probe entry ≠ some .eq → other entry = probe entry)
    (missed : search entries probe = none) : search entries other = none :=
  searchBetween_missed definite agree missed

/-- The probe points to a position from everywhere else. -/
structure PointsTo (entries : List α) (probe : α → Option Ordering) (position : Nat) (wanted : α) :
    Prop where
  here : entries[position]? = some wanted
  found : probe wanted = some .eq
  before : ∀ other < position, ∀ entry, entries[other]? = some entry → probe entry = some .lt
  after : ∀ other > position, ∀ entry, entries[other]? = some entry → probe entry = some .gt

theorem searchBetween_eq {position : Nat} {wanted : α}
    (points : PointsTo entries probe position wanted) {bound left right : Nat}
    (enough : right - left ≤ bound) (lower : left ≤ position) (upper : position < right)
    (inside : right ≤ entries.length) :
    searchBetween entries probe bound left right = some wanted := by
  induction bound generalizing left right with
  | zero => omega
  | succ bound induction =>
      rw [searchBetween, if_pos (Nat.lt_of_le_of_lt lower upper)]
      have middleBounds : left ≤ (left + (right - 1)) / 2 ∧ (left + (right - 1)) / 2 < right := by
        omega
      dsimp only
      generalize (left + (right - 1)) / 2 = middle at middleBounds ⊢
      have known := List.getElem?_eq_getElem (Nat.lt_of_lt_of_le middleBounds.2 inside)
      rw [known]
      rcases Nat.lt_trichotomy middle position with low | same | high
      · simp only [points.before middle low _ known]
        exact induction (by omega) low upper inside
      · subst same
        obtain rfl := Option.some.inj (known.symm.trans points.here)
        simp only [points.found]
      · simp only [points.after middle high _ known]
        exact induction (by omega) lower high (by omega)

/-- In a list whose order agrees with the probe the wanted entry is found. -/
theorem search_eq {before : α → α → Bool} {wanted : α} (member : wanted ∈ entries)
    (sorted : entries.Pairwise fun left right =>
      (right = wanted → before left wanted = true) ∧ (left = wanted → before wanted right = true))
    (found : probe wanted = some .eq)
    (low : ∀ entry, before entry wanted = true → probe entry = some .lt)
    (high : ∀ entry, before wanted entry = true → probe entry = some .gt) :
    search entries probe = some wanted := by
  obtain ⟨position, inside, here⟩ := List.getElem_of_mem member
  rw [List.pairwise_iff_getElem] at sorted
  have points : PointsTo entries probe position wanted := by
    refine ⟨List.getElem?_eq_some_iff.mpr ⟨inside, here⟩, found, ?_, ?_⟩
    · intro other smaller entry known
      obtain ⟨otherInside, rfl⟩ := List.getElem?_eq_some_iff.mp known
      exact low _ ((sorted other position otherInside inside smaller).1 here)
    · intro other larger entry known
      obtain ⟨otherInside, rfl⟩ := List.getElem?_eq_some_iff.mp known
      exact high _ ((sorted position other inside otherInside larger).2 here)
  exact searchBetween_eq points (Nat.le_refl _) (Nat.zero_le _) inside (Nat.le_refl _)

end Libvalkey.BinarySearch
