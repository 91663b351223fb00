import Libvalkey.Foundation.Checked
import Mathlib.Data.List.Basic

/-! # Reads from a buffer

A buffer is read at positions. A read outside of it is a fault. -/

namespace Libvalkey.Buffer

open Checked

variable {α : Type}

/-- A read at a position that does not belong to the buffer. -/
structure OutOfBounds where
  position : Nat
  deriving DecidableEq, Repr

def read (buf : List α) (position : Nat) : Except OutOfBounds α :=
  match buf[position]? with
  | some value => .ok value
  | none => .error ⟨position⟩

/-- A part of a buffer that is handed on by its start and its length, whether or not
it lies in the buffer. -/
structure Slice where
  start : Nat
  len : Nat
  deriving DecidableEq, Repr

namespace Slice

def Inside (slice : Slice) (buf : List α) : Prop := slice.start + slice.len ≤ buf.length

instance (slice : Slice) (buf : List α) : Decidable (slice.Inside buf) :=
  inferInstanceAs (Decidable (_ ≤ _))

/-- What of the slice is in the buffer. -/
def contents (slice : Slice) (buf : List α) : List α := (buf.drop slice.start).take slice.len

end Slice

/-- A read of all of a slice. -/
def readSlice (buf : List α) (slice : Slice) : Except OutOfBounds (List α) :=
  if slice.Inside buf then .ok (slice.contents buf) else .error ⟨buf.length⟩

/-- The first of `count` positions whose value passes a test. -/
def find (buf : List α) (test : α → Bool) (position : Nat) :
    Nat → Except OutOfBounds (Option Nat)
  | 0 => return none
  | count + 1 => do
      if test (← read buf position) then return some position
      find buf test (position + 1) count

@[simp] theorem ok_bind {β γ : Type} (value : β) (next : β → Except OutOfBounds γ) :
    (Except.ok value >>= next) = next value := rfl

@[simp] theorem pure_eq_ok {β : Type} (value : β) :
    (pure value : Except OutOfBounds β) = .ok value := rfl

variable {buf : List α} {position : Nat}

theorem read_of_lt (inside : position < buf.length) : read buf position = .ok buf[position] := by
  simp [read, inside]

theorem read_head {byte : α} {rest : List α} (here : buf.drop position = byte :: rest) :
    read buf position = .ok byte := by
  have known : buf[position]? = some byte := by
    rw [← List.head?_drop, here, List.head?_cons]
  simp [read, known]

theorem readSlice_of_inside {slice : Slice} (inside : slice.Inside buf) :
    readSlice buf slice = .ok (slice.contents buf) := by
  simp [readSlice, inside]

theorem Slice.length_contents {slice : Slice} (inside : slice.Inside buf) :
    (slice.contents buf).length = slice.len := by
  unfold Slice.Inside at inside
  rw [Slice.contents, List.length_take, List.length_drop]
  omega

/-- A search up to the end of the buffer stays inside of it. -/
theorem find_eq (test : α → Bool) (inside : position ≤ buf.length) :
    ∃ found, find buf test position (buf.length - position) = .ok found ∧
      match found with
      | none => (buf.drop position).dropWhile (fun value => !test value) = []
      | some first => position ≤ first ∧ first < buf.length ∧
          (buf.drop position).dropWhile (fun value => !test value) = buf.drop first := by
  generalize rounds : buf.length - position = count
  induction count generalizing position with
  | zero =>
      refine ⟨none, rfl, ?_⟩
      rw [List.drop_of_length_le (by omega)]
      rfl
  | succ count induction =>
      have more : position < buf.length := by omega
      have next : buf.drop position = buf[position] :: buf.drop (position + 1) :=
        (List.getElem_cons_drop more).symm
      rw [find, read_of_lt more, ok_bind, next, List.dropWhile_cons]
      by_cases here : test buf[position]
      · refine ⟨some position, by simp [here], Nat.le_refl _, more, ?_⟩
        rw [if_neg (by simp [here]), next]
      · obtain ⟨found, result, bounds⟩ := induction more (by omega)
        refine ⟨found, by simp [here, result], ?_⟩
        cases found with
        | none => simpa [here] using bounds
        | some first =>
            obtain ⟨lower, upper, rest⟩ := bounds
            exact ⟨by omega, upper, by simpa [here] using rest⟩

end Libvalkey.Buffer
