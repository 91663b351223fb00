/-! # Runs of a machine that can stop at a fault

A machine is a function from a state and an event to the next state or a fault. -/

namespace Libvalkey.Runs

variable {State Event Fault : Type} (step : State → Event → Except Fault State)

/-- Event by event, from a state. -/
def run : State → List Event → Except Fault State
  | state, [] => .ok state
  | state, event :: events => do
      let next ← step state event
      run next events

/-- Something holds of every event of a run and of the state that it meets. -/
def Always (holds : State → Event → Prop) : State → List Event → Prop
  | _, [] => True
  | state, event :: events =>
      holds state event ∧ ∀ next, step state event = .ok next → Always holds next events

instance decidableAlways {holds : State → Event → Prop}
    [∀ state event, Decidable (holds state event)] :
    ∀ start events, Decidable (Always step holds start events)
  | _, [] => .isTrue trivial
  | start, event :: events =>
      match taken : step start event with
      | .error fault =>
          decidable_of_iff (holds start event) <| by
            simp [Always, taken]
      | .ok next =>
          have : Decidable (Always step holds next events) := decidableAlways next events
          decidable_of_iff (holds start event ∧ Always step holds next events) <| by
            simp [Always, taken]

/-- What every step preserves under a condition, and what it shows, holds along a run. -/
theorem Always.invariant {invariant : State → Prop} {condition goal : State → Event → Prop}
    (shows : ∀ state event, invariant state → condition state event → goal state event)
    (preserves : ∀ state event next, invariant state → condition state event →
      step state event = .ok next → invariant next)
    {start : State} (events : List Event) (initial : invariant start)
    (holds : Always step condition start events) :
    Always step goal start events ∧
      ∀ final, run step start events = .ok final → invariant final := by
  induction events generalizing start with
  | nil =>
      refine ⟨trivial, fun final reached => ?_⟩
      cases reached
      exact initial
  | cons event events induction =>
      obtain ⟨now, later⟩ := holds
      have continues (next : State) (taken : step start event = .ok next) :=
        induction (preserves start event next initial now taken) (later next taken)
      refine ⟨⟨shows start event initial now, fun next taken => (continues next taken).1⟩,
        fun final reached => ?_⟩
      unfold run at reached
      cases taken : step start event with
      | error fault =>
          rw [taken] at reached
          cases reached
      | ok next =>
          rw [taken] at reached
          exact (continues next taken).2 final reached

/-- Conditions that are the same under an invariant are so along a run, where the first of them
keeps the invariant. -/
theorem always_iff {invariant : State → Prop} {condition goal : State → Event → Prop}
    (same : ∀ state event, invariant state → (goal state event ↔ condition state event))
    (preserves : ∀ state event next, invariant state → condition state event →
      step state event = .ok next → invariant next)
    {start : State} (events : List Event) (initial : invariant start) :
    Always step goal start events ↔ Always step condition start events := by
  induction events generalizing start with
  | nil => exact Iff.rfl
  | cons event events induction =>
      rw [Always, Always, same start event initial]
      refine and_congr_right fun now => forall_congr' fun next => imp_congr_right fun taken => ?_
      exact induction (preserves start event next initial now taken)

theorem Always.and {holds other : State → Event → Prop} {start : State} {events : List Event}
    (always : Always step holds start events) (alwaysOther : Always step other start events) :
    Always step (fun state event => holds state event ∧ other state event) start events := by
  induction events generalizing start with
  | nil => trivial
  | cons event events induction =>
      exact ⟨⟨always.1, alwaysOther.1⟩, fun next taken =>
        induction (always.2 next taken) (alwaysOther.2 next taken)⟩

theorem always_trivial (start : State) (events : List Event) :
    Always step (fun _ _ => True) start events := by
  induction events generalizing start with
  | nil => trivial
  | cons event events induction => exact ⟨trivial, fun next _ => induction next⟩

/-- What holds of all events does so along a run. -/
theorem always_of_forall {holds : Event → Prop} (start : State) {events : List Event}
    (all : ∀ event ∈ events, holds event) :
    Always step (fun _ event => holds event) start events := by
  induction events generalizing start with
  | nil => trivial
  | cons event events induction =>
      obtain ⟨now, later⟩ := List.forall_mem_cons.mp all
      exact ⟨now, fun next _ => induction next later⟩

/-- What every step preserves holds of every state that is reached. -/
theorem run_invariant {invariant : State → Prop}
    (preserves : ∀ state event next, invariant state → step state event = .ok next → invariant next)
    {start final : State} {events : List Event} (initial : invariant start)
    (reached : run step start events = .ok final) : invariant final := by
  have kept (state : State) (event : Event) (next : State) (holds : invariant state) (_ : True)
      (taken : step state event = .ok next) : invariant next :=
        preserves state event next holds taken
  have shows (state : State) (event : Event) (_ : invariant state) (_ : True) : True := trivial
  exact (Always.invariant step shows kept events initial (always_trivial step start events)).2 final
    reached

/-- What holds of every event holds of the one after some events. -/
theorem Always.at {holds : State → Event → Prop} {start middle : State} {before after : List Event}
    {event : Event} (always : Always step holds start (before ++ event :: after))
    (reached : run step start before = .ok middle) : holds middle event := by
  induction before generalizing start with
  | nil =>
      cases reached
      exact always.1
  | cons first before induction =>
      rw [run] at reached
      cases taken : step start first with
      | error fault =>
          rw [taken] at reached
          cases reached
      | ok next =>
          rw [taken] at reached
          exact induction (always.2 next taken) reached

/-- What holds of every event holds of the one that a run stops at. -/
theorem Always.stopped {holds : State → Event → Prop} {start : State} {events : List Event}
    {fault : Fault} (always : Always step holds start events)
    (stopped : run step start events = .error fault) :
    ∃ state event, holds state event ∧ step state event = .error fault := by
  induction events generalizing start with
  | nil => cases stopped
  | cons event events induction =>
      rw [run] at stopped
      cases taken : step start event with
      | error other =>
          rw [taken] at stopped
          cases stopped
          exact ⟨start, event, always.1, taken⟩
      | ok next =>
          rw [taken] at stopped
          exact induction (always.2 next taken) stopped

end Libvalkey.Runs
