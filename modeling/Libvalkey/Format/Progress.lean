import Libvalkey.Format.Building

/-! # What stops a run

A run on variadic arguments that match the format is stopped by refused memory alone. -/

namespace Libvalkey.Format

open Checked

/-! ## Memory -/

theorem sdsMakeRoomFor_ample {memory : Memory} (ample : memory.Ample) (s : Sds) (addlen : Nat) :
    (sdsMakeRoomFor memory s addlen).2.Ample ∧
      (s.contents.length + addlen < 2 ^ 63 → (sdsMakeRoomFor memory s addlen).1 ≠ none) := by
  constructor
  · simp only [sdsMakeRoomFor]
    split_ifs
    · exact ample
    · exact ample
    · exact ample
    · exact ample.rest
    · exact ample.rest
  · intro small
    by_cases enough : s.room ≥ addlen
    · simp [sdsMakeRoomFor, enough]
    · obtain ⟨room, _, result⟩ := sdsMakeRoomFor_small (by omega) small memory
      simp [result, ample 0]

theorem sdscatlen_ample {memory : Memory} (ample : memory.Ample) (s : Sds) (text : Bytes) :
    (sdscatlen memory s text).2.Ample ∧
      (s.contents.length + text.length < 2 ^ 63 → (sdscatlen memory s text).1 ≠ none) := by
  obtain ⟨later, granted⟩ := sdsMakeRoomFor_ample ample s text.length
  exact ⟨later, fun small => by simpa [sdscatlen] using granted small⟩

theorem growBuffer_ample {memory : Memory} (ample : memory.Ample) (length fuel buflen : Nat) :
    ∃ later, growBuffer length fuel buflen memory = some later ∧ later.Ample := by
  induction fuel generalizing memory buflen with
  | zero => exact ⟨memory, rfl, ample⟩
  | succ fuel induction =>
      rw [growBuffer]
      split_ifs with fits granted
      · exact ⟨memory, rfl, ample⟩
      · exact induction ample.rest _
      · exact absurd (ample 0) granted

theorem sdscatvprintf_ample {memory : Memory} (ample : memory.Ample) (s : Sds) (text : Bytes) :
    (sdscatvprintf memory s text).2.Ample ∧
      (s.contents.length + text.length < 2 ^ 63 → (sdscatvprintf memory s text).1 ≠ none) := by
  obtain ⟨later, grown, ampleLater⟩ := growBuffer_ample ample text.length (text.length + 1) 1024
  obtain ⟨last, granted⟩ := sdscatlen_ample ampleLater s (cString text)
  have cut : (cString text).length ≤ text.length := (List.takeWhile_prefix _).length_le
  rw [sdscatvprintf, grown]
  exact ⟨last, fun small => granted (by omega)⟩

/-! ## One round -/

/-- A result that only refused memory stands in the way of, unless sizes are too large. -/
abbrev Proceeds (memory : Memory) (small : Prop) (result : Except Stop ScanState) : Prop :=
  Ensures result (fun stop => stop = .memory_err ∧ (small → ¬memory.Ample))
    (fun next => memory.Ample → next.memory.Ample)

section Step

variable {printf : Printf} {state : ScanState} {memory : Memory} {small : Prop}

theorem proceeds_withArg {newarg : Option Sds × Memory}
    (granted : memory.Ample → newarg.2.Ample ∧ (small → newarg.1 ≠ none)) (event : Event) :
    Proceeds memory small (do return (← state.withArg newarg).logged event) := by
  obtain ⟨newarg, later⟩ := newarg
  cases newarg with
  | none => exact ⟨rfl, fun holds ample => (granted ample).2 holds rfl⟩
  | some curarg => exact fun ample => (granted ample).1

theorem proceeds_append {text : Bytes}
    (fits : small → state.curarg.contents.length + text.length < 2 ^ 63)
    (same : memory.Ample → state.memory.Ample) (event : Event) :
    Proceeds memory small (do return (← state.append text).logged event) := by
  refine proceeds_withArg (fun ample => ?_) event
  split
  · exact ⟨same ample, fun _ => by simp⟩
  · have granted := sdscatlen_ample (same ample) state.curarg text
    exact ⟨granted.1, fun holds => granted.2 (fits holds)⟩

theorem consume_eq {arg : VaArg} {args : List VaArg} (known : state.args = arg :: args) :
    state.consume = .ok
      (arg, { state with args := args, log := state.log ++ [.consumed arg] }) := by
  rw [ScanState.consume, known]
  rfl

theorem proceeds_step {directive : Directive} {own : List Event} {left : List VaArg}
    (ran : directive.events printf state.args = some (own, left)) :
    Proceeds state.memory (state.curarg.contents.length + eventsSize own < 2 ^ 63)
      (step printf state directive) := by
  cases directive with
  | invalid => cases ran
  | literal byte =>
      obtain ⟨rfl, _⟩ := Prod.mk.inj (Option.some.inj ran)
      refine proceeds_withArg (fun ample => ?_) _
      simpa [Event.size] using sdscatlen_ample ample state.curarg [byte]
  | percent =>
      obtain ⟨rfl, _⟩ := Prod.mk.inj (Option.some.inj ran)
      refine proceeds_withArg (fun ample => ?_) _
      simpa [Event.size] using sdscatlen_ample ample state.curarg (ascii "%")
  | space =>
      rw [step]
      split
      · rw [ScanState.pushArgument]
        split
        · rw [bind_ok]
          dsimp only [sdsempty]
          split
          · rename_i granted
            split at granted
            · cases granted
            · rename_i refused
              exact ⟨rfl, fun _ ample => refused (ample.rest 0)⟩
          · rename_i granted
            intro ample
            obtain rfl := (Prod.mk.inj granted).2
            exact ample.rest.rest
        · rename_i refused
          exact ⟨rfl, fun _ ample => refused (ample 0)⟩
      · exact id
  | string =>
      obtain ⟨text, known, rfl⟩ := events_string ran
      rw [step, consume_eq known, bind_ok]
      exact proceeds_append (by simp [Event.size]) id _
  | binary =>
      obtain ⟨text, size, known, inside, rfl⟩ := events_binary ran
      rw [step, consume_eq known, bind_ok]
      dsimp only
      rw [consume_eq rfl, bind_ok]
      dsimp only
      rw [if_pos inside]
      exact proceeds_append (by simp [Event.size]) id _
  | printf type spec =>
      obtain ⟨bits, known, rfl⟩ := events_printf ran
      rw [step, consume_eq known, bind_ok]
      dsimp only
      rw [if_neg (not_not.mpr rfl)]
      split
      · refine proceeds_withArg (fun ample => ?_) _
        have granted := sdscatvprintf_ample ample state.curarg
          (printf.text spec (.number type bits))
        exact ⟨granted.1, fun fits => granted.2 (by simpa [Event.size] using fits)⟩
      · exact id

/-! ## The run -/

theorem proceeds_foldlM {list : List Directive} {log : List Event} {left : List VaArg}
    (ran : eventsOf printf list state.args = some (log, left)) :
    Proceeds state.memory (state.curarg.contents.length + eventsSize log < 2 ^ 63)
      (list.foldlM (step printf) state) := by
  induction list generalizing state log with
  | nil => exact id
  | cons directive list induction =>
      obtain ⟨own, middle, more, first, others, rfl⟩ := eventsOf_cons ran
      have once := proceeds_step first
      rw [List.foldlM_cons, eventsSize_append]
      cases result : step printf state directive with
      | error stop =>
          rw [result] at once
          exact ⟨once.1, fun fits => once.2 (by omega)⟩
      | ok next =>
          rw [result] at once
          obtain ⟨events, known, advances⟩ := step_events result
          obtain ⟨rfl, rfl⟩ := Prod.mk.inj (Option.some.inj (first.symm.trans known))
          have size := advances.size
          have later := induction others
          rw [bind_ok]
          exact (later.allow fun stop refused =>
            ⟨refused.1, fun fits ample => refused.2 (by omega) (once ample)⟩).mono
              fun last kept ample => kept (once ample)

theorem proceeds_scan {format : Bytes} {args left : List VaArg} {log : List Event}
    (ran : eventsOf printf (directives (cString format)) args = some (log, left)) :
    Proceeds memory (eventsSize log < 2 ^ 63) (scan printf memory format args) := by
  cases granted : memory 0 with
  | false =>
      have stopped : scan printf memory format args = .error .memory_err := by
        simp [scan, sdsempty, granted]
      rw [stopped]
      exact ⟨rfl, fun _ ample => by simp [ample 0] at granted⟩
  | true =>
      have started : scan printf memory format args = do
          let state ← (directives (cString format)).foldlM (step printf)
            ⟨⟨[], 0⟩, false, [], 0, args, memory.rest, []⟩
          if state.touched then state.pushArgument else return state := by
        simp [scan, sdsempty, granted]
      have whole : Proceeds memory.rest (([] : Bytes).length + eventsSize log < 2 ^ 63)
          ((directives (cString format)).foldlM (step printf)
            ⟨⟨[], 0⟩, false, [], 0, args, memory.rest, []⟩) := proceeds_foldlM ran
      rw [List.length_nil, Nat.zero_add] at whole
      rw [started]
      refine (whole.allow fun stop refused =>
        ⟨refused.1, fun fits ample => refused.2 fits ample.rest⟩).bind fun last kept => ?_
      split
      · rw [ScanState.pushArgument]
        split
        · exact fun ample => (kept ample.rest).rest
        · rename_i refused
          exact ⟨rfl, fun _ ample => refused (kept ample.rest 0)⟩
      · exact fun ample => kept ample.rest

end Step

end Libvalkey.Format
