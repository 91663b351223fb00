import Mathlib.Data.List.Basic
import Mathlib.Tactic.Common

/-! # Cyclic redundancy checks

A check with the highest bit first. It is defined over the bits of a message, and computed
from a table with an entry for every chunk of a size. -/

namespace Libvalkey.Crc

variable {width : Nat} (poly : BitVec width)

/-- What is added to the register for the bit that leaves it. -/
def feedback (bit : Bool) : BitVec width := if bit then poly else 0

/-- One bit of the message. -/
def step (crc : BitVec width) (bit : Bool) : BitVec width :=
  crc <<< 1 ^^^ feedback poly (crc.msb ^^ bit)

/-- The bits of a message. -/
def run (crc : BitVec width) (bits : List Bool) : BitVec width := bits.foldl (step poly) crc

/-- The highest bits, the first one first. -/
def topBits : Nat → BitVec width → List Bool
  | 0, _ => []
  | count + 1, value => value.msb :: topBits count (value <<< 1)

/-- The entry of a chunk in the table. -/
def entry {size : Nat} (chunk : BitVec size) : BitVec width :=
  run poly (BitVec.ofNat width 0) (topBits size chunk)

/-- The chunk that is as long as `size` and leaves the register next. -/
def outgoing (size : Nat) (crc : BitVec width) : BitVec size :=
  (crc >>> (width - size)).setWidth size

@[simp] theorem run_nil (crc : BitVec width) : run poly crc [] = crc := rfl

@[simp] theorem run_cons (crc : BitVec width) (bit : Bool) (bits : List Bool) :
    run poly crc (bit :: bits) = run poly (step poly crc bit) bits := rfl

theorem run_append (crc : BitVec width) (left right : List Bool) :
    run poly crc (left ++ right) = run poly (run poly crc left) right := List.foldl_append

/-! ## Bits -/

@[simp] theorem length_topBits (count : Nat) (value : BitVec width) :
    (topBits count value).length = count := by
  induction count generalizing value with
  | zero => rfl
  | succ count induction => rw [topBits, List.length_cons, induction]

theorem topBits_eq (count : Nat) (value : BitVec width) :
    topBits count value = (List.range count).map value.getMsbD := by
  induction count generalizing value with
  | zero => rfl
  | succ count induction =>
      rw [topBits, induction, List.range_succ_eq_map, List.map_cons, List.map_map,
        BitVec.msb_eq_getMsbD_zero]
      congr 2
      funext index
      simp [BitVec.getMsbD_shiftLeft]

theorem topBits_xor (count : Nat) (left right : BitVec width) :
    topBits count (left ^^^ right) = List.zipWith xor (topBits count left)
      (topBits count right) := by
  induction count generalizing left right with
  | zero => rfl
  | succ count induction =>
      rw [topBits, topBits, topBits, List.zipWith_cons_cons, ← induction, BitVec.msb_xor,
        BitVec.shiftLeft_xor_distrib]

theorem topBits_outgoing {size : Nat} (fits : size ≤ width) (crc : BitVec width) :
    topBits size (outgoing size crc) = topBits size crc := by
  rw [topBits_eq, topBits_eq]
  apply List.map_congr_left
  intro index member
  have inside := List.mem_range.mp member
  have position : index + width - size - (width - size) = index := by omega
  have long : size ≤ index + width := by omega
  have before : index + width - size < width := by omega
  have after : ¬index + width - size < width - size := by omega
  simp [outgoing, BitVec.getMsbD_setWidth, BitVec.getMsbD_ushiftRight, position, long,
    before, after]

/-! ## Linearity -/

theorem feedback_xor (one other : Bool) :
    feedback poly (one ^^ other) = feedback poly one ^^^ feedback poly other := by
  cases one <;> cases other <;> simp [feedback]

theorem step_xor (left right : BitVec width) (one other : Bool) :
    step poly (left ^^^ right) (one ^^ other) = step poly left one ^^^ step poly right other := by
  have bits : ((left ^^^ right).msb ^^ (one ^^ other)) =
      ((left.msb ^^ one) ^^ (right.msb ^^ other)) := by
    rw [BitVec.msb_xor, Bool.xor_assoc, Bool.xor_assoc, Bool.xor_left_comm right.msb]
  rw [step, bits, feedback_xor, BitVec.shiftLeft_xor_distrib, step, step]
  ac_rfl

theorem run_xor (left right : BitVec width) {ones others : List Bool}
    (same : ones.length = others.length) :
    run poly (left ^^^ right) (List.zipWith xor ones others) =
      run poly left ones ^^^ run poly right others := by
  induction ones generalizing left right others with
  | nil =>
      rw [List.length_nil] at same
      rw [List.length_eq_zero_iff.mp same.symm]
      rfl
  | cons one ones induction =>
      cases others with
      | nil => exact absurd same (by simp)
      | cons other others =>
          rw [List.zipWith_cons_cons, run_cons, step_xor]
          exact induction _ _ (Nat.succ.inj same)

/-- Against its own highest bits the register is only moved. -/
theorem run_topBits (count : Nat) (crc : BitVec width) :
    run poly crc (topBits count crc) = crc <<< count := by
  induction count generalizing crc with
  | zero => simp [topBits]
  | succ count induction =>
      have moved : step poly crc crc.msb = crc <<< 1 := by simp [step, feedback]
      rw [topBits, run_cons, moved, induction, ← BitVec.shiftLeft_add, Nat.add_comm]

/-- A chunk is taken in by one look into the table. -/
theorem run_chunk {size : Nat} (fits : size ≤ width) (crc : BitVec width) (chunk : BitVec size) :
    run poly crc (topBits size chunk) = crc <<< size ^^^ entry poly
      (outgoing size crc ^^^ chunk) := by
  have split : topBits size chunk =
      List.zipWith xor (topBits size crc) (topBits size (outgoing size crc ^^^ chunk)) := by
    rw [← topBits_outgoing fits crc, ← topBits_xor, ← BitVec.xor_assoc, BitVec.xor_self,
      BitVec.zero_xor]
  calc run poly crc (topBits size chunk)
      = run poly (crc ^^^ (BitVec.ofNat width 0))
          (List.zipWith xor (topBits size crc) (topBits size (outgoing size crc ^^^ chunk))) := by
        rw [BitVec.xor_zero, split]
    _ = crc <<< size ^^^ entry poly (outgoing size crc ^^^ chunk) := by
        rw [run_xor poly crc (BitVec.ofNat width 0) (by simp), run_topBits, entry]

end Libvalkey.Crc
