import Libvalkey.Cluster.Types
import Mathlib.Data.List.TakeWhile

/-! # Texts with separators

What the functions that split a text find in a text that was joined, and the number
that `vk_atoi` reads from decimal digits. -/

namespace Libvalkey

variable {separator : UInt8}

/-- The parts of a text, with a separator between them. -/
def joinFields (separator : UInt8) : List Bytes → Bytes
  | [] => []
  | [part] => part
  | part :: next :: rest => part ++ separator :: joinFields separator (next :: rest)

theorem joinFields_cons (part : Bytes) {rest : List Bytes} (more : rest ≠ []) :
    joinFields separator (part :: rest) = part ++ separator :: joinFields separator rest := by
  cases rest with
  | nil => exact absurd rfl more
  | cons next rest => rfl

theorem mem_joinFields {byte : UInt8} {parts : List Bytes}
    (member : byte ∈ joinFields separator parts) :
    byte = separator ∨ ∃ part ∈ parts, byte ∈ part := by
  induction parts with
  | nil => exact absurd member List.not_mem_nil
  | cons part rest induction =>
      cases rest with
      | nil => exact .inr ⟨part, List.mem_cons_self, member⟩
      | cons next rest =>
          rcases List.mem_append.mp member with inPart | later
          · exact .inr ⟨part, List.mem_cons_self, inPart⟩
          · rcases List.mem_cons.mp later with same | inRest
            · exact .inl same
            · refine (induction inRest).imp id ?_
              rintro ⟨other, inRest, inOther⟩
              exact ⟨other, List.mem_cons_of_mem _ inRest, inOther⟩

theorem splitAll_part {part : Bytes} (clean : separator ∉ part) :
    splitAll separator part = ([], part) := by
  induction part with
  | nil => rfl
  | cons byte rest induction =>
      have different : byte ≠ separator := fun same => clean (same ▸ List.mem_cons_self)
      rw [splitAll, induction fun member => clean (List.mem_cons_of_mem _ member)]
      dsimp only
      rw [if_neg different]

/-- A part that is ended by a separator. -/
theorem splitAll_append {part : Bytes} (clean : separator ∉ part) (rest : Bytes) :
    splitAll separator (part ++ separator :: rest) =
      (part :: (splitAll separator rest).1, (splitAll separator rest).2) := by
  induction part with
  | nil =>
      rw [List.nil_append, splitAll]
      exact if_pos rfl
  | cons byte part induction =>
      have different : byte ≠ separator := fun same => clean (same ▸ List.mem_cons_self)
      rw [List.cons_append, splitAll, induction fun member => clean (List.mem_cons_of_mem _ member)]
      dsimp only
      rw [if_neg different]

theorem splitAll_joinFields (parts : List Bytes) {last : Bytes}
    (clean : ∀ part ∈ parts, separator ∉ part) (lastClean : separator ∉ last) :
    splitAll separator (joinFields separator (parts ++ [last])) = (parts, last) := by
  induction parts with
  | nil => exact splitAll_part lastClean
  | cons part rest induction =>
      rw [List.cons_append, joinFields_cons part (by simp),
        splitAll_append (clean part List.mem_cons_self),
        induction fun other member => clean other (List.mem_cons_of_mem _ member)]

/-- Every line is ended by a separator. -/
theorem splitAll_lines (lines : List Bytes) (clean : ∀ line ∈ lines, separator ∉ line) :
    splitAll separator (lines.flatMap (· ++ [separator])) = (lines, []) := by
  induction lines with
  | nil => rfl
  | cons line rest induction =>
      rw [List.flatMap_cons, List.append_assoc, List.singleton_append,
        splitAll_append (clean line List.mem_cons_self),
        induction fun other member => clean other (List.mem_cons_of_mem _ member)]

theorem fields_joinFields (parts : List Bytes) {last : Bytes}
    (clean : ∀ part ∈ parts, separator ∉ part) (lastClean : separator ∉ last) (more : last ≠ []) :
    fields separator (joinFields separator (parts ++ [last])) = parts ++ [last] := by
  rw [fields, splitAll_joinFields parts clean lastClean]
  exact if_neg more

theorem splitFirst_none {text : Bytes} (clean : separator ∉ text) :
    splitFirst separator text = (text, none) := by
  induction text with
  | nil => rfl
  | cons byte rest induction =>
      have different : byte ≠ separator := fun same => clean (same ▸ List.mem_cons_self)
      rw [splitFirst, if_neg different, induction fun member =>
        clean (List.mem_cons_of_mem _ member)]

theorem splitFirst_append {before : Bytes} (clean : separator ∉ before) (after : Bytes) :
    splitFirst separator (before ++ separator :: after) = (before, some after) := by
  induction before with
  | nil => exact if_pos rfl
  | cons byte rest induction =>
      have different : byte ≠ separator := fun same => clean (same ▸ List.mem_cons_self)
      rw [List.cons_append, splitFirst, if_neg different,
        induction fun member => clean (List.mem_cons_of_mem _ member)]

theorem splitLast_none {text : Bytes} (clean : separator ∉ text) :
    splitLast separator text = none := by
  induction text with
  | nil => rfl
  | cons byte rest induction =>
      have different : byte ≠ separator := fun same => clean (same ▸ List.mem_cons_self)
      rw [splitLast, induction fun member => clean (List.mem_cons_of_mem _ member)]
      exact if_neg different

theorem splitLast_append (before : Bytes) {after : Bytes} (clean : separator ∉ after) :
    splitLast separator (before ++ separator :: after) = some (before, after) := by
  induction before with
  | nil =>
      rw [List.nil_append, splitLast, splitLast_none clean]
      exact if_pos rfl
  | cons byte rest induction => rw [List.cons_append, splitLast, induction]

theorem cString_of_clean {text : Bytes} (clean : 0 ∉ text) : cString text = text := by
  rw [cString, List.takeWhile_eq_self_iff]
  intro byte member
  simpa using fun zero : byte = 0 => clean (zero ▸ member)

/-! ## Numbers -/

theorem vkAtoiFrom_digits {value : Nat} {digits : Bytes}
    (allDigits : ∀ byte ∈ digits, Decimal.isDigit byte = true)
    (small : Decimal.accumulate value digits < 2 ^ 31) :
    vkAtoiFrom value digits = some (Decimal.accumulate value digits : Nat) := by
  induction digits generalizing value with
  | nil => rfl
  | cons byte rest induction =>
      have digit := allDigits byte List.mem_cons_self
      obtain ⟨low, high⟩ := (Decimal.isDigit_iff byte).mp digit
      rw [Decimal.accumulate_cons] at small ⊢
      have fits : value * 10 + Decimal.digitValue byte < 2 ^ 31 :=
        Nat.lt_of_le_of_lt (Decimal.le_accumulate _ rest) small
      have inRange : ¬(byte < '0'.toUInt8 ∨ byte > '9'.toUInt8) := by
        rw [not_or, UInt8.not_lt, UInt8.not_lt, UInt8.le_iff_toNat_le, UInt8.le_iff_toNat_le]
        exact ⟨low, high⟩
      have next : toInt32 ((value : Int) * 10 + (byte.toNat - 48 : Nat)) =
          (value * 10 + Decimal.digitValue byte : Nat) := by
        rw [Decimal.digitValue_of_isDigit digit] at fits ⊢
        rw [toInt32, Int.bmod_eq_of_le (by omega) (by omega)]
        push_cast
        rfl
      rw [vkAtoiFrom, if_neg inRange, next]
      exact induction (fun other member => allDigits other (List.mem_cons_of_mem _ member)) small

theorem vkAtoi_ofNat {value : Nat} (small : value < 2 ^ 31) :
    vkAtoi (Decimal.ofNat value) = value := by
  have read := vkAtoiFrom_digits (Decimal.isDigit_of_mem_ofNat value)
    ((Decimal.accumulate_ofNat value).symm ▸ small)
  rw [Decimal.accumulate_ofNat] at read
  rw [vkAtoi, if_neg (Decimal.ofNat_ne_nil value), show (0 : Int) = ((0 : Nat) : Int) from rfl,
    read]
  exact if_neg (by omega)

/-- A byte that is no digit does not occur in a number. -/
theorem not_mem_ofNat {byte : UInt8} (other : Decimal.isDigit byte = false) (value : Nat) :
    byte ∉ Decimal.ofNat value := by
  intro member
  exact absurd ((Decimal.isDigit_of_mem_ofNat value byte member).symm.trans other) (by decide)

end Libvalkey
