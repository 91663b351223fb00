import Libvalkey.Foundation.Checked

/-! # Programs with a state

A program changes a state and gives a value, or it stops. What it ensures is put together from what
its parts ensure. -/

namespace Libvalkey.Programs

open Checked

/-- A program over a state. -/
abbrev Program (State Stop : Type) := StateT State (Except Stop)

variable {State Stop α β : Type} {allowed : Stop → Prop} {state : State}

/-- What a program does from a state: it stops as is allowed, or its value and its last state
satisfy `post`. -/
structure Does (allowed : Stop → Prop) (program : Program State Stop α) (state : State)
    (post : α → State → Prop) : Prop where
  ok : ∀ value last, program state = .ok (value, last) → post value last
  stops : ∀ stop, program state = .error stop → allowed stop

variable {program : Program State Stop α} {post : α → State → Prop}

theorem does_iff :
    Does allowed program state post ↔
      Ensures (program state) allowed fun result => post result.1 result.2 := by
  constructor
  · intro does
    cases result : program state with
    | ok result => exact does.ok _ _ result
    | error stop => exact does.stops _ result
  · intro ensures
    exact ⟨fun _ _ result => ensures.of_ok result, fun _ result => ensures.of_error result⟩

theorem does_of_ok {value : α} {last : State} (result : program state = .ok (value, last))
    (holds : post value last) : Does allowed program state post := by
  rw [does_iff, result]
  exact holds

theorem Does.mono {weaker : α → State → Prop} (does : Does allowed program state post)
    (implies : ∀ value last, post value last → weaker value last) :
    Does allowed program state weaker :=
  ⟨fun _ _ result => implies _ _ (does.ok _ _ result), does.stops⟩

theorem Does.bind {next : α → Program State Stop β} {final : β → State → Prop}
    (first : Does allowed program state post)
    (second : ∀ value last, post value last → Does allowed (next value) last final) :
    Does allowed (program >>= next) state final :=
  does_iff.mpr (Ensures.bind (does_iff.mp first)
    fun result holds => does_iff.mp (second result.1 result.2 holds))

theorem does_pure {value : α} (holds : post value state) :
    Does allowed (pure value) state post := does_of_ok rfl holds

theorem does_throw {stop : Stop} (may : allowed stop) :
    Does allowed (throw stop : Program State Stop α) state post :=
  does_iff.mpr may

/-- A step that always gives a value and a state. -/
theorem does_step {next : α → Program State Stop β} {final : β → State → Prop}
    {value : α} {last : State} (step : program state = .ok (value, last))
    (does : Does allowed (next value) last final) :
    Does allowed (program >>= next) state final := by
  have stepped : Does allowed program state fun other otherLast =>
      other = value ∧ otherLast = last := does_of_ok step ⟨rfl, rfl⟩
  refine stepped.bind ?_
  rintro _ _ ⟨rfl, rfl⟩
  exact does

theorem does_ite {condition : Prop} [Decidable condition] {other : Program State Stop α}
    (yes : condition → Does allowed program state post)
    (no : ¬condition → Does allowed other state post) :
    Does allowed (if condition then program else other) state post := by
  split
  · exact yes ‹_›
  · exact no ‹_›

end Libvalkey.Programs
