import Mathlib.Data.List.Pairwise

/-! # Tilings

Claims cover sets of positions. A map from positions to owners represents the
claims that do not overlap. -/

namespace Libvalkey.Tiling

variable {Claim Owner : Type} (owner : Claim → Owner) (covers : Claim → Nat → Prop)

/-- Two claims cover no common position. -/
def Apart (left right : Claim) : Prop := ∀ position, covers left position → ¬covers right position

/-- The map gives every covered position to an owner of a claim that covers it. -/
def Represents (claims : List Claim) (map : Nat → Option Owner) : Prop :=
  ∀ position value, map position = some value ↔
    ∃ claim ∈ claims, owner claim = value ∧ covers claim position

variable {owner covers} {claims more : List Claim} {claim : Claim} {map next : Nat → Option Owner}

theorem Apart.symm {left right : Claim} (apart : Apart covers left right) :
    Apart covers right left := fun position inRight inLeft => apart position inLeft inRight

theorem represents_nil : Represents owner covers [] fun _ => none := by
  intro position value
  simp

/-- A position is free if no claim covers it. -/
theorem Represents.free (represents : Represents owner covers claims map) (position : Nat) :
    map position = none ↔ ∀ claim ∈ claims, ¬covers claim position := by
  constructor
  · intro free claim member covered
    have taken := (represents position (owner claim)).mpr ⟨claim, member, rfl, covered⟩
    simp [free] at taken
  · intro uncovered
    cases found : map position with
    | none => rfl
    | some value =>
        obtain ⟨claim, member, _, covered⟩ := (represents position value).mp found
        exact absurd covered (uncovered claim member)

/-- One more claim on free positions. -/
theorem Represents.add (represents : Represents owner covers claims map)
    (apart : ∀ other ∈ claims, Apart covers other claim)
    (inside : ∀ position, covers claim position → next position = some (owner claim))
    (outside : ∀ position, ¬covers claim position → next position = map position) :
    Represents owner covers (claims ++ [claim]) next := by
  intro position value
  simp only [List.mem_append, List.mem_singleton]
  by_cases covered : covers claim position
  · rw [inside position covered]
    constructor
    · intro same
      exact ⟨claim, Or.inr rfl, Option.some.inj same, covered⟩
    · rintro ⟨other, member | rfl, rfl, otherCovered⟩
      · exact absurd covered (apart other member position otherCovered)
      · rfl
  · rw [outside position covered, represents position value]
    constructor
    · rintro ⟨other, member, same, otherCovered⟩
      exact ⟨other, Or.inl member, same, otherCovered⟩
    · rintro ⟨other, member | rfl, same, otherCovered⟩
      · exact ⟨other, member, same, otherCovered⟩
      · exact absurd otherCovered covered

/-- The order of the claims makes no difference. -/
theorem Represents.perm (represents : Represents owner covers claims map)
    (perm : claims.Perm more) : Represents owner covers more map := by
  intro position value
  rw [represents position value]
  simp only [perm.mem_iff]

theorem apart_perm (perm : claims.Perm more) :
    claims.Pairwise (Apart covers) ↔ more.Pairwise (Apart covers) :=
  perm.pairwise_iff Apart.symm

theorem pairwise_concat :
    (claims ++ [claim]).Pairwise (Apart covers) ↔
      claims.Pairwise (Apart covers) ∧ ∀ other ∈ claims, Apart covers other claim := by
  simp [List.pairwise_append]

end Libvalkey.Tiling
