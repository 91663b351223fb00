import Mathlib.Data.List.Basic

/-! # Incremental consumers

A consumer reads a stream that arrives in chunks. It keeps the tokens it could
not use yet and goes on with them when more arrive. The laws below say that a
step decides nothing on tokens that are still missing; they make the outputs
independent of the way the stream was cut into chunks. -/

namespace Libvalkey.Incremental

/-- What a consumer does with the tokens it has. -/
inductive Verdict (State Token Output Failure : Type)
  | starved (next : State) (rest : List Token)
  | progress (outputs : List Output) (next : State) (rest : List Token)
  | failed (failure : Failure)

structure Consumer (State Token Output Failure : Type) where
  step : State → List Token → Verdict State Token Output Failure
  progress_shorter : ∀ {state input outputs next rest},
    step state input = .progress outputs next rest → rest.length < input.length
  progress_append : ∀ {state input outputs next rest} (more : List Token),
    step state input = .progress outputs next rest →
      step state (input ++ more) = .progress outputs next (rest ++ more)
  failed_append : ∀ {state input failure} (more : List Token),
    step state input = .failed failure → step state (input ++ more) = .failed failure
  starved_append : ∀ {state input next rest} (more : List Token),
    step state input = .starved next rest →
      step state (input ++ more) = step next (rest ++ more)

/-- Where a run stops: it waits for tokens, or it has failed. -/
inductive Outcome (State Token Failure : Type)
  | waiting (next : State) (rest : List Token)
  | failed (failure : Failure)

namespace Outcome

variable {State Token Failure : Type}

def failure? : Outcome State Token Failure → Option Failure
  | .waiting _ _ => none
  | .failed failure => some failure

end Outcome

namespace Consumer

variable {State Token Output Failure : Type} (consumer : Consumer State Token Output Failure)

/-- At most `fuel` steps. -/
def runFuel : Nat → State → List Token → List Output × Outcome State Token Failure
  | 0, state, input => ([], .waiting state input)
  | fuel + 1, state, input =>
      match consumer.step state input with
      | .starved next rest => ([], .waiting next rest)
      | .failed failure => ([], .failed failure)
      | .progress outputs next rest =>
          let later := runFuel fuel next rest
          (outputs ++ later.1, later.2)

/-- All the steps that can be made with the tokens of `input`. Each of them uses
a token, except perhaps the last. -/
def run (state : State) (input : List Token) : List Output × Outcome State Token Failure :=
  consumer.runFuel (input.length + 1) state input

theorem runFuel_eq_run {fuel : Nat} {input : List Token} (enough : input.length < fuel)
    (state : State) : consumer.runFuel fuel state input = consumer.run state input := by
  suffices same : ∀ (left right : Nat) (state : State) (input : List Token),
      input.length < left → input.length < right →
        consumer.runFuel left state input = consumer.runFuel right state input from
    same fuel _ state input enough (Nat.lt_succ_self _)
  intro left
  induction left with
  | zero =>
      intro right state input impossible
      exact absurd impossible (Nat.not_lt_zero _)
  | succ left induction =>
      intro right state input leftEnough rightEnough
      cases right with
      | zero => exact absurd rightEnough (Nat.not_lt_zero _)
      | succ right =>
          rw [runFuel, runFuel]
          cases decided : consumer.step state input with
          | starved next rest => rfl
          | failed failure => rfl
          | progress outputs next rest =>
              have shorter := consumer.progress_shorter decided
              simp only [induction right next rest (by omega) (by omega)]

theorem run_of_starved {state : State} {input : List Token} {next : State} {rest : List Token}
    (decided : consumer.step state input = .starved next rest) :
    consumer.run state input = ([], .waiting next rest) := by
  simp only [run, runFuel, decided]

theorem run_of_failed {state : State} {input : List Token} {failure : Failure}
    (decided : consumer.step state input = .failed failure) :
    consumer.run state input = ([], .failed failure) := by
  simp only [run, runFuel, decided]

theorem run_of_progress {state : State} {input : List Token} {outputs : List Output}
    {next : State} {rest : List Token}
    (decided : consumer.step state input = .progress outputs next rest) :
    consumer.run state input =
      (outputs ++ (consumer.run next rest).1, (consumer.run next rest).2) := by
  have shorter := consumer.progress_shorter decided
  rw [run, runFuel, decided]
  simp only [consumer.runFuel_eq_run shorter]

/-- States that make the same first step have the same run. -/
theorem run_eq_of_step_eq {state other : State} {input : List Token}
    (same : consumer.step state input = consumer.step other input) :
    consumer.run state input = consumer.run other input := by
  simp only [run, runFuel, same]

/-- Go on with more tokens after `done`. -/
def feed (done : List Output × Outcome State Token Failure) (more : List Token) :
    List Output × Outcome State Token Failure :=
  match done.2 with
  | .failed failure => (done.1, .failed failure)
  | .waiting next rest =>
      let later := consumer.run next (rest ++ more)
      (done.1 ++ later.1, later.2)

theorem feed_prepend (outputs : List Output) (done : List Output × Outcome State Token Failure)
    (more : List Token) :
    consumer.feed (outputs ++ done.1, done.2) more =
      (outputs ++ (consumer.feed done more).1, (consumer.feed done more).2) := by
  obtain ⟨earlier, outcome⟩ := done
  cases outcome <;> simp [feed]

theorem foldl_feed_prepend (outputs : List Output)
    (done : List Output × Outcome State Token Failure) (chunks : List (List Token)) :
    chunks.foldl consumer.feed (outputs ++ done.1, done.2) =
      (outputs ++ (chunks.foldl consumer.feed done).1, (chunks.foldl consumer.feed done).2) := by
  induction chunks generalizing done with
  | nil => rfl
  | cons chunk rest induction =>
      rw [List.foldl_cons, List.foldl_cons, feed_prepend, induction]

/-- A failure is final. -/
theorem foldl_feed_of_failed (outputs : List Output) (failure : Failure)
    (chunks : List (List Token)) :
    chunks.foldl consumer.feed (outputs, .failed failure) = (outputs, .failed failure) := by
  induction chunks with
  | nil => rfl
  | cons chunk rest induction => exact induction

/-- Stopping after a part of the input and going on with the rest is one run. -/
theorem feed_run (state : State) (input more : List Token) :
    consumer.feed (consumer.run state input) more = consumer.run state (input ++ more) := by
  induction len : input.length using Nat.strongRecOn generalizing state input with
  | ind size induction =>
      cases decided : consumer.step state input with
      | starved next rest =>
          rw [consumer.run_of_starved decided]
          have appended := consumer.starved_append more decided
          cases resumed : consumer.step next (rest ++ more) with
          | starved next' rest' =>
              rw [resumed] at appended
              simp [feed, consumer.run_of_starved resumed, consumer.run_of_starved appended]
          | failed failure =>
              rw [resumed] at appended
              simp [feed, consumer.run_of_failed resumed, consumer.run_of_failed appended]
          | progress outputs next' rest' =>
              rw [resumed] at appended
              simp [feed, consumer.run_of_progress resumed, consumer.run_of_progress appended]
      | failed failure =>
          have appended := consumer.failed_append more decided
          rw [consumer.run_of_failed decided, consumer.run_of_failed appended]
          rfl
      | progress outputs next rest =>
          have shorter := consumer.progress_shorter decided
          have appended := consumer.progress_append more decided
          rw [consumer.run_of_progress decided, consumer.run_of_progress appended,
            feed_prepend, induction rest.length (by omega) next rest rfl]

/-- The outputs and the outcome depend on the stream only, not on its chunks. -/
theorem foldl_feed_run (state : State) (input : List Token) (chunks : List (List Token)) :
    chunks.foldl consumer.feed (consumer.run state input) =
      consumer.run state (input ++ chunks.flatten) := by
  induction chunks generalizing input with
  | nil => simp
  | cons chunk rest induction =>
      rw [List.foldl_cons, feed_run, induction, List.append_assoc, List.flatten_cons]

/-- A run that has not failed had not failed on any earlier part of the stream. -/
theorem run_prefix_not_failed {state : State} {input : List Token} (more : List Token)
    (alive : (consumer.run state (input ++ more)).2.failure? = none) :
    (consumer.run state input).2.failure? = none := by
  rw [← feed_run] at alive
  cases stopped : (consumer.run state input).2 with
  | waiting next rest => rfl
  | failed failure => simp [feed, stopped, Outcome.failure?] at alive

end Consumer

end Libvalkey.Incremental
