import Libvalkey.Format.Events
import Libvalkey.Reader.ChildIndex

/-! # The encoding in an `int`

`valkeyvFormatCommand` counts in `int`. It writes a command that is shorter than `2 ^ 31 - 1`
bytes as it is measured, and no other one. -/

namespace Libvalkey.Format

open Checked

variable {block next : Block} {pos totlen : Int} {argv : List Bytes}

theorem store_eq_ok {text : Bytes} (result : block.store pos text = .ok next) :
    0 ≤ pos ∧ pos + text.length ≤ block.size ∧ next.size = block.size := by
  unfold Block.store at result
  split at result
  · rename_i inside
    obtain rfl := Except.ok.inj result
    exact ⟨inside.1, inside.2, rfl⟩
  · cases result

theorem toInt32_of_between {value : Int} (lower : 0 ≤ value) (upper : value < 2 ^ 31) :
    toInt32 value = value := by
  obtain ⟨n, rfl⟩ := Int.eq_ofNat_of_zero_le lower
  exact toInt32_of_small (by omega)

/-- In a block of less than `2 ^ 31` bytes no position wraps around. -/
theorem writeArguments_eq_ok {last : Int} (small : block.size < 2 ^ 31)
    (result : writeArguments toInt32 block pos argv = .ok (next, last)) :
    next.size = block.size ∧ last = pos + (argv.flatMap formatBulk).length := by
  induction argv generalizing block pos with
  | nil =>
      obtain ⟨rfl, rfl⟩ := Prod.mk.inj (Except.ok.inj result)
      simp
  | cons arg argv induction =>
      rw [writeArguments] at result
      obtain ⟨first, stored, result⟩ := bind_eq_ok result
      obtain ⟨lower, upper, firstSize⟩ := store_eq_ok stored
      rw [List.length_append, List.length_singleton] at upper
      rw [toInt32_of_between (by omega) (by omega)] at result
      obtain ⟨second, stored, result⟩ := bind_eq_ok result
      obtain ⟨_, upper, secondSize⟩ := store_eq_ok stored
      rw [toInt32_of_between (by omega) (by omega)] at result
      obtain ⟨third, stored, result⟩ := bind_eq_ok result
      obtain ⟨_, upper, thirdSize⟩ := store_eq_ok stored
      rw [List.length_singleton] at upper
      rw [toInt32_of_between (by omega) (by omega)] at result
      obtain ⟨fourth, stored, result⟩ := bind_eq_ok result
      obtain ⟨_, upper, fourthSize⟩ := store_eq_ok stored
      rw [List.length_singleton] at upper
      rw [toInt32_of_between (by omega) (by omega)] at result
      obtain ⟨size, position⟩ := induction (by omega) result
      have bulk := length_bulkHeader arg
      refine ⟨by omega, ?_⟩
      rw [position, List.flatMap_cons, List.length_append]
      omega

/-- What is written is as long as it has been measured. -/
theorem writeCommand_eq_ok (small : totlen < 2 ^ 31 - 1)
    (result : writeCommand toInt32 ⟨toSize (totlen + 1), []⟩ totlen argv = .ok next) :
    (encoding argv).length = totlen := by
  rw [writeCommand] at result
  obtain ⟨first, stored, result⟩ := bind_eq_ok result
  obtain ⟨_, _, firstSize⟩ := store_eq_ok stored
  obtain ⟨⟨second, pos⟩, written, result⟩ := bind_eq_ok result
  dsimp only at result
  split at result
  · cases result
  · rename_i measured
    rw [not_not] at measured
    obtain ⟨lower, _, _⟩ := store_eq_ok result
    have size : first.size = (totlen + 1).toNat := by
      rw [firstSize, toSize]
      dsimp only
      omega
    obtain ⟨_, position⟩ := writeArguments_eq_ok (by omega) written
    rw [encoding_eq, List.length_append]
    omega

variable {state : ScanState}

/-- `totlen` before the memory is asked for. -/
theorem totlen_eq (counted : state.Counted) :
    toInt32 (state.totlen + (1 + countDigits state.curargv.length + 2 : Nat)) =
      toInt32 (encoding state.curargv).length := by
  have header : (countHeader state.curargv.length).length =
      1 + countDigits state.curargv.length + 2 := by
    rw [countDigits_eq]
    simp only [countHeader, List.length_append, List.length_cons, List.length_nil]
    omega
  have low := toInt32_emod (state.curargv.flatMap formatBulk).length
  refine toInt32_congr ?_
  rw [encoding_eq, List.length_append, header, counted]
  generalize toInt32 (state.curargv.flatMap formatBulk).length = cut at low ⊢
  omega

theorem buildCommand_small (counted : state.Counted)
    (small : (encoding state.curargv).length + 1 < 2 ^ 31) :
    ∃ outcome, buildCommand state = .ok outcome ∧
      if state.memory 0 then outcome.Holds (encoding state.curargv)
      else outcome = .failed (-1) := by
  rw [buildCommand, totlen_eq counted, toInt32_of_small (by omega), if_neg (by omega)]
  cases state.memory 0 with
  | false => exact ⟨.failed (-1), rfl, by simp⟩
  | true =>
      have size : toSize (((encoding state.curargv).length : Int) + 1) =
          (encoding state.curargv).length + 1 := by
        rw [toSize]
        omega
      have exact_ (n : Nat) (inside : n ≤ (encoding state.curargv).length + 1) : toInt32 n = n :=
        toInt32_of_small (by omega)
      obtain ⟨block, result, blockSize, holds⟩ := writeCommand_eq toInt32 exact_ (Nat.le_refl _)
      refine ⟨.done block (encoding state.curargv).length, ?_, ?_⟩
      · simp only [if_true, size, result, bind_ok]
        rfl
      · simpa [Outcome.Holds, blockSize] using holds

theorem buildCommand_done {len : Int} (counted : state.Counted)
    (result : buildCommand state = .ok (.done block len)) :
    (encoding state.curargv).length + 1 < 2 ^ 31 := by
  have upper := toInt32_lt (encoding state.curargv).length
  rw [buildCommand, totlen_eq counted] at result
  split at result
  · cases result
  · rename_i notMax
    split at result
    · obtain ⟨next, written, result⟩ := bind_eq_ok result
      have measured := writeCommand_eq_ok (by omega) written
      omega
    · cases result

end Libvalkey.Format
