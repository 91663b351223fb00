import Mathlib.Logic.Relation

/-! # Loops that end

The body of a loop gives the result or the next state. A function with a bound on the turns
follows the loop as far as the bound lets it. -/

namespace Libvalkey.Loops

variable {State Result : Type} (body : State → Result ⊕ State)

/-- The loop meets a state. -/
abbrev Meets : State → State → Prop :=
  Relation.ReflTransGen fun state next => body state = .inr next

/-- The loop ends with a result. -/
inductive Ends : State → Result → Prop
  | stops {state : State} {result : Result} (last : body state = .inl result) : Ends state result
  | continues {state next : State} {result : Result} (turn : body state = .inr next)
      (later : Ends next result) : Ends state result

/-- `loop` follows the body for as many turns as it is given. -/
structure Unrolls (loop : Nat → State → Result) : Prop where
  stops : ∀ count {state result}, body state = .inl result → loop (count + 1) state = result
  continues : ∀ count {state next}, body state = .inr next →
    loop (count + 1) state = loop count next

variable {body} {state : State} {result : Result}

/-- What every turn keeps, and what the last one makes of it. -/
theorem Ends.shows {invariant : State → Prop} {goal : Result → Prop}
    (keeps : ∀ state next, invariant state → body state = .inr next → invariant next)
    (last : ∀ state result, invariant state → body state = .inl result → goal result)
    (ends : Ends body state result) (holds : invariant state) : goal result := by
  induction ends with
  | stops stopped => exact last _ _ holds stopped
  | continues turn later induction => exact induction (keeps _ _ holds turn)

/-- What the first state has and every turn keeps. -/
theorem Meets.keeps (property : State → Prop) {start met : State} (first : property start)
    (keeps : ∀ met next, Meets body start met → property met → body met = .inr next →
      property next)
    (meets : Meets body start met) : property met := by
  induction meets with
  | refl => exact first
  | tail earlier turn induction => exact keeps _ _ earlier induction turn

/-- A loop whose turns decrease a measure ends, within as many turns. -/
theorem Unrolls.ends {loop : Nat → State → Result} (unrolls : Unrolls body loop)
    {invariant : State → Prop} (measure : State → Nat)
    (keeps : ∀ state next, invariant state → body state = .inr next →
      invariant next ∧ measure next < measure state)
    (count : Nat) (holds : invariant state) (enough : measure state < count) :
    Ends body state (loop count state) := by
  induction count generalizing state with
  | zero => exact absurd enough (Nat.not_lt_zero _)
  | succ count induction =>
      cases turn : body state with
      | inl result =>
          rw [unrolls.stops count turn]
          exact .stops turn
      | inr next =>
          obtain ⟨kept, less⟩ := keeps state next holds turn
          rw [unrolls.continues count turn]
          exact .continues turn (induction kept (by omega))

end Libvalkey.Loops
