import Mathlib.Logic.Relation

/-! # Computations that can go wrong

What holds of a computation that either gives a value or stops at a fault, and
what holds along the runs of such a computation. -/

namespace Libvalkey.Checked

variable {ε α β : Type}

/-- The value satisfies `post`, or the fault is one of those allowed. -/
def Ensures (computation : Except ε α) (allowed : ε → Prop) (post : α → Prop) : Prop :=
  match computation with
  | .ok value => post value
  | .error fault => allowed fault

variable {computation : Except ε α} {allowed : ε → Prop} {post : α → Prop}

@[simp] theorem ensures_ok (value : α) : Ensures (.ok value) allowed post ↔ post value := Iff.rfl

@[simp] theorem ensures_pure (value : α) :
    Ensures (pure value) allowed post ↔ post value := Iff.rfl

@[simp] theorem ensures_error (fault : ε) :
    Ensures (.error fault) allowed post ↔ allowed fault := Iff.rfl

theorem bind_ok (value : α) (next : α → Except ε β) : (Except.ok value >>= next) = next value := rfl

theorem bind_eq_ok {next : α → Except ε β} {value : β}
    (result : (computation >>= next) = .ok value) :
    ∃ middle, computation = .ok middle ∧ next middle = .ok value := by
  cases computation with
  | ok middle => exact ⟨middle, rfl, result⟩
  | error fault => cases result

theorem Ensures.bind {next : α → Except ε β} {final : β → Prop}
    (first : Ensures computation allowed post)
    (second : ∀ value, post value → Ensures (next value) allowed final) :
    Ensures (computation >>= next) allowed final := by
  cases computation with
  | ok value => exact second value first
  | error fault => exact first

theorem Ensures.mono {weaker : α → Prop} (holds : Ensures computation allowed post)
    (implies : ∀ value, post value → weaker value) : Ensures computation allowed weaker := by
  cases computation with
  | ok value => exact implies value holds
  | error fault => exact holds

theorem Ensures.allow {more : ε → Prop} (holds : Ensures computation allowed post)
    (implies : ∀ fault, allowed fault → more fault) : Ensures computation more post := by
  cases computation with
  | ok value => exact holds
  | error fault => exact implies fault holds

theorem Ensures.and {other : α → Prop} (left : Ensures computation allowed post)
    (right : Ensures computation allowed other) :
    Ensures computation allowed fun value => post value ∧ other value := by
  cases computation with
  | ok value => exact ⟨left, right⟩
  | error fault => exact left

/-- The value is the one that was computed. -/
theorem Ensures.computed (holds : Ensures computation allowed post) :
    Ensures computation allowed fun value => computation = .ok value ∧ post value := by
  cases computation with
  | ok value => exact ⟨rfl, holds⟩
  | error fault => exact holds

theorem Ensures.of_ok {value : α} (holds : Ensures computation allowed post)
    (result : computation = .ok value) : post value := by
  subst result
  exact holds

theorem Ensures.of_error {fault : ε} (holds : Ensures computation allowed post)
    (result : computation = .error fault) : allowed fault := by
  subst result
  exact holds

/-- The value passes a test. -/
def passes (computation : Except ε α) (test : α → Bool) : Bool :=
  match computation with
  | .ok value => test value
  | .error _ => false

theorem exists_of_passes {test : α → Bool} (passed : passes computation test = true) :
    ∃ value, computation = .ok value ∧ test value = true := by
  cases computation with
  | ok value => exact ⟨value, rfl, passed⟩
  | error fault => cases passed

/-- The fault, if there is one. -/
def faultOf : Except ε α → Option ε
  | .ok _ => none
  | .error fault => some fault

theorem error_of_faultOf {fault : ε} (failed : faultOf computation = some fault) :
    computation = .error fault := by
  cases computation with
  | ok value => cases failed
  | error other => rw [Option.some.inj failed]

end Libvalkey.Checked
