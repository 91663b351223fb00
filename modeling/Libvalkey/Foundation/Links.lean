import Mathlib.Data.List.Nodup

/-! # Links that are held on both sides

Two lists of parties, each of which may hold the name of one on the other side. A link is
held by both of its parties, and by no others. -/

namespace Libvalkey.Links

variable {A B : Type}

/-- The parties on the two sides have different names and agree on their links. -/
structure Linked (left : List (A × Option B)) (right : List (B × Option A)) : Prop where
  leftNames : (left.map Prod.fst).Nodup
  rightNames : (right.map Prod.fst).Nodup
  agree : ∀ a b, (a, some b) ∈ left ↔ (b, some a) ∈ right

/-- A party holds another name from now on. -/
def assign [DecidableEq A] (name : A) (other : Option B) (side : List (A × Option B)) :
    List (A × Option B) :=
  side.map fun party => (party.1, if party.1 = name then other else party.2)

section Assign

variable [DecidableEq A] {name : A} {other : Option B} {side : List (A × Option B)}

@[simp] theorem names_assign (name : A) (other : Option B) (side : List (A × Option B)) :
    (assign name other side).map Prod.fst = side.map Prod.fst := by
  simp [assign]

theorem mem_assign {a : A} {b : Option B} :
    (a, b) ∈ assign name other side ↔
      (a = name ∧ b = other ∧ a ∈ side.map Prod.fst) ∨ (a ≠ name ∧ (a, b) ∈ side) := by
  simp only [assign, List.mem_map, Prod.mk.injEq, Prod.exists, exists_and_right, exists_eq_right]
  constructor
  · rintro ⟨a', b', member, rfl, rfl⟩
    split
    · rename_i same
      exact .inl ⟨same, rfl, b', member⟩
    · rename_i different
      exact .inr ⟨different, member⟩
  · rintro (⟨rfl, rfl, b', member⟩ | ⟨different, member⟩)
    · exact ⟨a, b', member, rfl, if_pos rfl⟩
    · exact ⟨a, b, member, rfl, if_neg different⟩

end Assign

/-- A member of a list comes first, and the others after it. -/
theorem perm_others {α κ : Type} [DecidableEq κ] (key : α → κ) {list : List α} {value : α}
    (keys : (list.map key).Nodup) (member : value ∈ list) :
    list.Perm (value :: list.filter fun other => key other != key value) := by
  induction list with
  | nil => cases member
  | cons head rest induction =>
      obtain ⟨new, keys⟩ := List.nodup_cons.mp keys
      rcases List.mem_cons.mp member with rfl | later
      · have kept : (value :: rest).filter (fun other => key other != key value) = rest := by
          rw [List.filter_cons_of_neg (by simp), List.filter_eq_self]
          intro other inside
          have different : key other ≠ key value := fun same =>
            new (same ▸ List.mem_map_of_mem (f := key) inside)
          simpa using different
        rw [kept]
      · have different : key head ≠ key value := fun same =>
          new (same ▸ List.mem_map_of_mem (f := key) later)
        rw [List.filter_cons_of_pos (by simpa using different)]
        exact ((induction keys later).cons head).trans (List.Perm.swap value head _)

/-- A name stands for one party. -/
theorem other_unique {side : List (A × Option B)} (names : (side.map Prod.fst).Nodup) {a : A}
    {b b' : Option B} (first : (a, b) ∈ side) (second : (a, b') ∈ side) : b = b' := by
  have same := List.inj_on_of_nodup_map names first second rfl
  exact (Prod.mk.inj same).2

namespace Linked

variable {left : List (A × Option B)} {right : List (B × Option A)} {a : A} {b : B}

theorem symm (linked : Linked left right) : Linked right left :=
  ⟨linked.rightNames, linked.leftNames, fun b a => (linked.agree a b).symm⟩

/-- The parties in another order. -/
theorem perm {other : List (A × Option B)} (linked : Linked left right)
    (same : other.Perm left) : Linked other right where
  leftNames := (same.map Prod.fst).nodup_iff.mpr linked.leftNames
  rightNames := linked.rightNames
  agree a b := same.mem_iff.trans (linked.agree a b)

/-- What a party holds is the name of a party. -/
theorem known (linked : Linked left right) (holds : (a, some b) ∈ left) :
    b ∈ right.map Prod.fst :=
  List.mem_map_of_mem ((linked.agree a b).mp holds)

/-- Two parties do not hold the same name. -/
theorem holder_unique {a' : A} (linked : Linked left right) (first : (a, some b) ∈ left)
    (second : (a', some b) ∈ left) : a = a' := by
  have same := other_unique linked.rightNames ((linked.agree a b).mp first)
    ((linked.agree a' b).mp second)
  exact Option.some.inj same

/-- A party without a link is added. -/
theorem add (linked : Linked left right) (new : a ∉ left.map Prod.fst) :
    Linked ((a, none) :: left) right where
  leftNames := List.nodup_cons.mpr ⟨new, linked.leftNames⟩
  rightNames := linked.rightNames
  agree a' b := by
    rw [← linked.agree a' b]
    simp

/-- A party without a link is removed. -/
theorem drop (linked : Linked ((a, none) :: left) right) : Linked left right where
  leftNames := (List.nodup_cons.mp linked.leftNames).2
  rightNames := linked.rightNames
  agree a' b := by
    rw [← linked.agree a' b]
    simp

/-- A party with a link is removed, and the other one is told. -/
theorem detach [DecidableEq B] (linked : Linked ((a, some b) :: left) right) :
    Linked left (assign b none right) where
  leftNames := (List.nodup_cons.mp linked.leftNames).2
  rightNames := by
    rw [names_assign]
    exact linked.rightNames
  agree a' b' := by
    have new := (List.nodup_cons.mp linked.leftNames).1
    rw [mem_assign, ← linked.agree a' b']
    constructor
    · intro holds
      have inside := List.mem_cons_of_mem (a, some b) holds
      have different : b' ≠ b := by
        rintro rfl
        obtain rfl := linked.holder_unique List.mem_cons_self inside
        exact new (List.mem_map_of_mem (f := Prod.fst) holds)
      exact .inr ⟨different, inside⟩
    · rintro (⟨_, impossible, _⟩ | ⟨different, holds⟩)
      · cases impossible
      rcases List.mem_cons.mp holds with same | inside
      · exact absurd (Option.some.inj (Prod.mk.inj same).2) different
      · exact inside

/-- A party on the right goes, and the one on the left is told. -/
theorem remove [DecidableEq A] {rest : List (B × Option A)} (linked : Linked left right)
    (first : right.Perm ((b, some a) :: rest)) : Linked (assign a none left) rest :=
  (linked.symm.perm first.symm).detach.symm

theorem remove_single {rest : List (B × Option A)} (linked : Linked left right)
    (first : right.Perm ((b, none) :: rest)) : Linked left rest :=
  (linked.symm.perm first.symm).drop.symm

/-- Two parties without a link get one. -/
theorem connect [DecidableEq A] (linked : Linked left ((b, none) :: right))
    (single : (a, none) ∈ left) : Linked (assign a (some b) left) ((b, some a) :: right) where
  leftNames := by
    rw [names_assign]
    exact linked.leftNames
  rightNames := linked.rightNames
  agree a' b' := by
    have known := List.mem_map_of_mem (f := Prod.fst) single
    have new := (List.nodup_cons.mp linked.rightNames).1
    have agree := linked.agree a' b'
    rw [mem_assign]
    constructor
    · rintro (⟨rfl, same, _⟩ | ⟨different, holds⟩)
      · obtain rfl := Option.some.inj same
        exact List.mem_cons_self
      · rcases List.mem_cons.mp (agree.mp holds) with same | inside
        · cases (Prod.mk.inj same).2
        · exact List.mem_cons_of_mem _ inside
    · intro holds
      rcases List.mem_cons.mp holds with same | inside
      · obtain ⟨rfl, held⟩ := Prod.mk.inj same
        obtain rfl := Option.some.inj held
        exact .inl ⟨rfl, rfl, known⟩
      · refine .inr ⟨?_, agree.mpr (List.mem_cons_of_mem _ inside)⟩
        rintro rfl
        cases other_unique linked.leftNames single (agree.mpr (List.mem_cons_of_mem _ inside))

/-- The parties on the right that `mover` names are taken over by new parties. -/
theorem move {next : List (A × Option B)} {mover : B → Option A} (linked : Linked left right)
    (names : (next.map Prod.fst).Nodup)
    (moved : ∀ b a, mover b = some a → b ∈ right.map Prod.fst)
    (holders : ∀ a b, (a, some b) ∈ next ↔
      mover b = some a ∨ (mover b = none ∧ (a, some b) ∈ left)) :
    Linked next (right.map fun party => (party.1, (mover party.1).or party.2)) where
  leftNames := names
  rightNames := by
    rw [List.map_map]
    exact linked.rightNames
  agree a b := by
    rw [holders, linked.agree]
    simp only [List.mem_map, Prod.mk.injEq, Prod.exists]
    constructor
    · rintro (taken | ⟨stays, holds⟩)
      · obtain ⟨⟨b', a'⟩, member, rfl⟩ := List.mem_map.mp (moved b a taken)
        exact ⟨b', a', member, rfl, by rw [taken, Option.some_or]⟩
      · exact ⟨b, some a, holds, rfl, by rw [stays, Option.none_or]⟩
    · rintro ⟨b', a', member, rfl, result⟩
      cases taken : mover b' with
      | some other =>
          rw [taken, Option.some_or] at result
          exact .inl result
      | none =>
          rw [taken, Option.none_or] at result
          exact .inr ⟨rfl, result ▸ member⟩

end Linked

end Libvalkey.Links
