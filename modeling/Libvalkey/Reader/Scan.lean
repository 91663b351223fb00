import Libvalkey.Foundation.Decimal
import Mathlib.Tactic.Linarith

/-! # Scanning lines and integers

`seekNewline` and `string2ll` of `read.c`, with what each of them accepts. -/

namespace Libvalkey

def CR : UInt8 := 13

def LF : UInt8 := 10

/-- `LLONG_MAX`, `ULLONG_MAX`, `SIZE_MAX` and `SSIZE_MAX` of a 64-bit target. -/
def llongMax : Nat := 2 ^ 63 - 1

def ullongMax : Nat := 2 ^ 64 - 1

def ssizeMax : Nat := 2 ^ 63 - 1

/-! ## Newlines -/

/-- The offset of the first `\r\n`. A `\r` that is followed by another byte is
skipped, and the last byte alone is never a match. -/
def seekNewline : Bytes → Option Nat
  | first :: second :: rest =>
      if first = CR ∧ second = LF then some 0
      else (seekNewline (second :: rest)).map (· + 1)
  | _ => none

/-- The first `\r\n` after `text` is the one that ends it. -/
def EndsAtFirstNewline (text : Bytes) : Prop :=
  seekNewline (text ++ [CR, LF]) = some text.length

@[simp] theorem seekNewline_nil : seekNewline [] = none := rfl

@[simp] theorem seekNewline_singleton (byte : UInt8) : seekNewline [byte] = none := rfl

theorem seekNewline_append {bytes : Bytes} {len : Nat} (more : Bytes)
    (found : seekNewline bytes = some len) : seekNewline (bytes ++ more) = some len := by
  induction bytes generalizing len with
  | nil => simp at found
  | cons first rest induction =>
      cases rest with
      | nil => simp at found
      | cons second rest =>
          simp only [List.cons_append, seekNewline] at found ⊢
          split
          · rename_i here
            simpa [here] using found
          · rename_i elsewhere
            rw [if_neg elsewhere] at found
            obtain ⟨later, foundLater, shifted⟩ := Option.map_eq_some_iff.mp found
            have appended := induction foundLater
            rw [List.cons_append] at appended
            rw [appended, ← shifted]
            rfl

theorem eq_take_newline_drop {bytes : Bytes} {len : Nat}
    (found : seekNewline bytes = some len) :
    bytes = bytes.take len ++ CR :: LF :: bytes.drop (len + 2) := by
  induction bytes generalizing len with
  | nil => simp at found
  | cons first rest induction =>
      cases rest with
      | nil => simp at found
      | cons second rest =>
          rw [seekNewline] at found
          split at found
          · rename_i here
            obtain ⟨rfl, rfl⟩ := here
            cases found
            simp
          · obtain ⟨later, foundLater, shifted⟩ := Option.map_eq_some_iff.mp found
            subst shifted
            have split := induction foundLater
            simpa using split

theorem seekNewline_bound {bytes : Bytes} {len : Nat}
    (found : seekNewline bytes = some len) : len + 2 ≤ bytes.length := by
  have split := congrArg List.length (eq_take_newline_drop found)
  simp only [List.length_append, List.length_take, List.length_cons, List.length_drop] at split
  omega

theorem endsAtFirstNewline_take {bytes : Bytes} {len : Nat}
    (found : seekNewline bytes = some len) : EndsAtFirstNewline (bytes.take len) := by
  have bound := seekNewline_bound found
  unfold EndsAtFirstNewline
  rw [List.length_take, Nat.min_eq_left (by omega)]
  induction bytes generalizing len with
  | nil => simp at found
  | cons first rest induction =>
      cases rest with
      | nil => simp at found
      | cons second rest =>
          rw [seekNewline] at found
          split at found
          · cases found
            rfl
          · rename_i elsewhere
            obtain ⟨later, foundLater, shifted⟩ := Option.map_eq_some_iff.mp found
            subst shifted
            have induct := induction foundLater (seekNewline_bound foundLater)
            cases later with
            | zero =>
                have secondCR : second = CR := by
                  have split := eq_take_newline_drop foundLater
                  simpa using congrArg List.head? split
                subst secondCR
                have notHere : ¬(first = CR ∧ CR = LF) := by simp [CR, LF]
                simp [seekNewline, notHere]
            | succ later =>
                simp only [List.take_succ_cons, List.cons_append] at induct ⊢
                rw [seekNewline, if_neg elsewhere, induct]
                rfl

theorem EndsAtFirstNewline.seek {text : Bytes} (ends : EndsAtFirstNewline text) (rest : Bytes) :
    seekNewline (text ++ CR :: LF :: rest) = some text.length := by
  have appended := seekNewline_append rest ends
  simpa using appended

theorem endsAtFirstNewline_of_not_mem {text : Bytes} (noCR : CR ∉ text) :
    EndsAtFirstNewline text := by
  unfold EndsAtFirstNewline
  induction text with
  | nil => rfl
  | cons first rest induction =>
      have firstNotCR : first ≠ CR := fun equal => noCR (by simp [equal])
      have tail := induction fun member => noCR (List.mem_cons_of_mem _ member)
      cases rest with
      | nil =>
          simp [seekNewline, firstNotCR]
      | cons second rest =>
          simp only [List.cons_append] at tail ⊢
          rw [seekNewline, if_neg (fun here => firstNotCR here.1), tail]
          rfl

theorem not_mem_of_all_digits {digits : Bytes}
    (allDigits : ∀ byte ∈ digits, Decimal.isDigit byte = true) : CR ∉ digits := by
  intro member
  have digit := allDigits CR member
  simp [Decimal.isDigit, CR] at digit

/-! ## Integers -/

/-- The `while` loop of `string2ll`: `none` on overflow, otherwise the value and
the bytes that were not used. -/
def string2llDigits : Bytes → Nat → Option (Nat × Bytes)
  | [], value => some (value, [])
  | byte :: rest, value =>
      if Decimal.isDigit byte then
        if value > ullongMax / 10 then none
        else if value * 10 > ullongMax - Decimal.digitValue byte then none
        else string2llDigits rest (value * 10 + Decimal.digitValue byte)
      else some (value, byte :: rest)

/-- Only a canonical decimal of a signed 64-bit value is accepted. -/
def string2ll (text : Bytes) : Option Int :=
  match text with
  | [] => none
  | first :: rest =>
      if text = [48] then some 0
      else
        let negative : Bool := first == 45
        match (if negative then rest else text) with
        | [] => none
        | lead :: digits =>
            if 49 ≤ lead ∧ lead ≤ 57 then
              match string2llDigits digits (Decimal.digitValue lead) with
              | none => none
              | some (value, unused) =>
                  if unused ≠ [] then none
                  else if negative then
                    if value > 2 ^ 63 then none else some (-(value : Int))
                  else if value > llongMax then none
                  else some (value : Int)
            else none

/-- The signed 64-bit range. -/
def InLongLong (value : Int) : Prop := -2 ^ 63 ≤ value ∧ value < 2 ^ 63

instance (value : Int) : Decidable (InLongLong value) := by
  unfold InLongLong
  infer_instance

theorem string2llDigits_eq_some_iff (digits : Bytes) (start value : Nat) :
    string2llDigits digits start = some (value, []) ↔
      (∀ byte ∈ digits, Decimal.isDigit byte = true) ∧
        value = Decimal.accumulate start digits ∧
        (digits ≠ [] → value ≤ ullongMax) := by
  induction digits generalizing start with
  | nil =>
      simp only [string2llDigits, Option.some.injEq, Prod.mk.injEq, and_true]
      constructor
      · rintro rfl
        simp
      · rintro ⟨_, valueEq, _⟩
        exact valueEq.symm
  | cons byte rest induction =>
      by_cases digit : Decimal.isDigit byte = true
      · have small := Decimal.digitValue_lt_ten digit
        have grows := Decimal.le_accumulate (start * 10 + Decimal.digitValue byte) rest
        rw [string2llDigits, if_pos digit]
        by_cases fits : start * 10 + Decimal.digitValue byte ≤ ullongMax
        · have quotient : ¬start > ullongMax / 10 := by omega
          have room : ¬start * 10 > ullongMax - Decimal.digitValue byte := by omega
          rw [if_neg quotient, if_neg room, induction]
          simp only [List.mem_cons, forall_eq_or_imp, digit, true_and,
            Decimal.accumulate_cons, ne_eq, List.cons_ne_nil, not_false_eq_true, forall_const]
          constructor
          · rintro ⟨restDigits, rfl, bounded⟩
            refine ⟨restDigits, rfl, ?_⟩
            by_cases empty : rest = []
            · simpa [empty] using fits
            · exact bounded empty
          · rintro ⟨restDigits, valueEq, bounded⟩
            exact ⟨restDigits, valueEq, fun _ => bounded⟩
        · have overflow : start > ullongMax / 10 ∨
              start * 10 > ullongMax - Decimal.digitValue byte := by
            unfold ullongMax at fits ⊢
            omega
          constructor
          · intro impossible
            rcases overflow with overflow | overflow <;> simp [overflow] at impossible
          · rintro ⟨_, valueEq, bounded⟩
            have bound := bounded (by simp)
            rw [Decimal.accumulate_cons] at valueEq
            omega
      · rw [string2llDigits, if_neg digit]
        simp [digit]

theorem digitValue_pos_iff {byte : UInt8} (digit : Decimal.isDigit byte = true) :
    (49 ≤ byte ∧ byte ≤ 57) ↔ Decimal.digitValue byte ≠ 0 := by
  have bounds := (Decimal.isDigit_iff byte).mp digit
  rw [Decimal.digitValue_of_isDigit digit, UInt8.le_iff_toNat_le, UInt8.le_iff_toNat_le]
  change 49 ≤ byte.toNat ∧ byte.toNat ≤ 57 ↔ _
  omega

theorem isDigit_of_lead {byte : UInt8} (lead : 49 ≤ byte ∧ byte ≤ 57) :
    Decimal.isDigit byte = true := by
  rw [Decimal.isDigit_iff]
  rw [UInt8.le_iff_toNat_le, UInt8.le_iff_toNat_le] at lead
  change 49 ≤ byte.toNat ∧ byte.toNat ≤ 57 at lead
  omega

/-- After a first digit that is not zero the loop accepts exactly the canonical
texts below `ULLONG_MAX`. -/
theorem string2llDigits_lead_iff {lead : UInt8} (range : 49 ≤ lead ∧ lead ≤ 57)
    (digits : Bytes) (value : Nat) :
    string2llDigits digits (Decimal.digitValue lead) = some (value, []) ↔
      value ≤ ullongMax ∧ Decimal.ofNat value = lead :: digits := by
  have leadDigit := isDigit_of_lead range
  have small := Decimal.digitValue_lt_ten leadDigit
  have nonzero := (digitValue_pos_iff leadDigit).mp range
  rw [string2llDigits_eq_some_iff]
  constructor
  · rintro ⟨allDigits, rfl, bounded⟩
    have canonical : Decimal.Canonical (lead :: digits) := by
      refine ⟨?_, lead, digits, rfl, Or.inl nonzero⟩
      simpa [leadDigit] using allDigits
    have text := Decimal.ofNat_accumulate canonical
    rw [Decimal.accumulate_cons, Nat.zero_mul, Nat.zero_add] at text
    refine ⟨?_, text⟩
    by_cases single : digits = []
    · subst single
      simp only [Decimal.accumulate_nil, ullongMax]
      omega
    · exact bounded single
  · rintro ⟨bounded, text⟩
    have denoted := Decimal.accumulate_ofNat value
    rw [text, Decimal.accumulate_cons, Nat.zero_mul, Nat.zero_add] at denoted
    refine ⟨?_, denoted.symm, fun _ => bounded⟩
    intro byte member
    exact Decimal.isDigit_of_mem_ofNat value byte (by simp [text, member])

theorem ofInt_natCast (value : Nat) : Decimal.ofInt (value : Int) = Decimal.ofNat value := by
  simp [Decimal.ofInt]

theorem ofInt_neg {value : Nat} (positive : 0 < value) :
    Decimal.ofInt (-(value : Int)) = 45 :: Decimal.ofNat value := by
  simp [Decimal.ofInt, positive]

/-- The first byte of a number other than zero is a digit from 1 to 9. -/
theorem ofNat_eq_lead_cons {value : Nat} (positive : 0 < value) :
    ∃ lead digits, Decimal.ofNat value = lead :: digits ∧ 49 ≤ lead ∧ lead ≤ 57 := by
  obtain ⟨allDigits, lead, digits, text, leading⟩ := Decimal.canonical_ofNat value
  have leadDigit : Decimal.isDigit lead = true := allDigits lead (by simp [text])
  refine ⟨lead, digits, text, (digitValue_pos_iff leadDigit).mpr ?_⟩
  intro zero
  have single := leading.resolve_left (by simp [zero])
  have denoted := Decimal.accumulate_ofNat value
  rw [text, single, Decimal.accumulate_cons, Decimal.accumulate_nil, zero] at denoted
  omega

theorem string2ll_zero : string2ll [48] = some 0 := rfl

/-- Without a sign, the accepted texts are those of `1` to `LLONG_MAX`. -/
theorem string2ll_cons_of_lead {lead : UInt8} (range : 49 ≤ lead ∧ lead ≤ 57)
    (digits : Bytes) (value : Int) :
    string2ll (lead :: digits) = some value ↔
      ∃ magnitude : Nat, value = magnitude ∧ magnitude ≤ llongMax ∧
        Decimal.ofNat magnitude = lead :: digits := by
  have notZero : lead :: digits ≠ [48] := by
    rintro equal
    obtain ⟨rfl, rfl⟩ := List.cons.inj equal
    exact absurd range.1 (by decide)
  have notMinus : (lead == 45) = false := by
    rw [beq_eq_false_iff_ne]
    rintro rfl
    exact absurd range.1 (by decide)
  simp only [string2ll, if_neg notZero, notMinus, Bool.false_eq_true, if_false, if_pos range]
  constructor
  · intro accepted
    split at accepted
    · simp at accepted
    · rename_i magnitude unused loop
      by_cases allUsed : unused = []
      · subst allUsed
        obtain ⟨_, text⟩ := (string2llDigits_lead_iff range digits magnitude).mp loop
        by_cases large : magnitude > llongMax
        · simp [large] at accepted
        · simp only [ne_eq, not_true_eq_false, if_false, if_neg large,
            Option.some.injEq] at accepted
          exact ⟨magnitude, accepted.symm, Nat.le_of_not_lt large, text⟩
      · simp [allUsed] at accepted
  · rintro ⟨magnitude, rfl, small, text⟩
    have loop := (string2llDigits_lead_iff range digits magnitude).mpr
      ⟨by unfold llongMax at small; unfold ullongMax; omega, text⟩
    simp [loop, Nat.not_lt.mpr small]

/-- After a minus sign, the accepted texts are those of `1` to `LLONG_MAX + 1`. -/
theorem string2ll_minus (text : Bytes) (value : Int) :
    string2ll (45 :: text) = some value ↔
      ∃ magnitude : Nat, value = -(magnitude : Int) ∧ 0 < magnitude ∧ magnitude ≤ 2 ^ 63 ∧
        Decimal.ofNat magnitude = text := by
  have notZero : (45 : UInt8) :: text ≠ [48] := by simp
  simp only [string2ll, if_neg notZero, beq_self_eq_true, if_true]
  cases text with
  | nil =>
      simp only [reduceCtorEq, false_iff, not_exists, not_and]
      intro magnitude _ _ _ equal
      exact Decimal.ofNat_ne_nil magnitude equal
  | cons lead digits =>
      by_cases range : 49 ≤ lead ∧ lead ≤ 57
      · simp only [if_pos range]
        constructor
        · intro accepted
          split at accepted
          · simp at accepted
          · rename_i magnitude unused loop
            by_cases allUsed : unused = []
            · subst allUsed
              obtain ⟨_, text⟩ := (string2llDigits_lead_iff range digits magnitude).mp loop
              by_cases large : magnitude > 2 ^ 63
              · simp only [ne_eq, not_true_eq_false, if_false, if_pos large,
                  reduceCtorEq] at accepted
              · simp only [ne_eq, not_true_eq_false, if_false, if_neg large,
                  Option.some.injEq] at accepted
                refine ⟨magnitude, accepted.symm, ?_, Nat.le_of_not_lt large, text⟩
                rcases Nat.eq_zero_or_pos magnitude with rfl | positive
                · rw [Decimal.ofNat_of_lt_ten (by omega)] at text
                  obtain ⟨rfl, _⟩ := List.cons.inj text
                  exact absurd range.1 (by decide)
                · exact positive
            · simp [allUsed] at accepted
        · rintro ⟨magnitude, rfl, _, small, text⟩
          have loop := (string2llDigits_lead_iff range digits magnitude).mpr
            ⟨by unfold ullongMax; omega, text⟩
          simp only [loop, ne_eq, not_true_eq_false, if_false, if_neg (Nat.not_lt.mpr small)]
      · simp only [if_neg range, reduceCtorEq, false_iff, not_exists, not_and]
        intro magnitude _ positive _ equal
        obtain ⟨lead', digits', split, leadRange⟩ := ofNat_eq_lead_cons positive
        rw [split] at equal
        obtain ⟨rfl, _⟩ := List.cons.inj equal
        exact range leadRange

/-- `string2ll` accepts exactly the canonical decimal texts of the signed 64-bit
numbers, and returns the number. -/
theorem string2ll_eq_some_iff (text : Bytes) (value : Int) :
    string2ll text = some value ↔ InLongLong value ∧ text = Decimal.ofInt value := by
  constructor
  · intro accepted
    cases text with
    | nil => simp [string2ll] at accepted
    | cons first rest =>
        by_cases zero : first :: rest = [48]
        · rw [zero, string2ll_zero] at accepted
          cases accepted
          exact ⟨by decide, zero⟩
        · by_cases minus : first = 45
          · subst minus
            obtain ⟨magnitude, rfl, positive, small, rfl⟩ :=
              (string2ll_minus rest value).mp accepted
            refine ⟨?_, (ofInt_neg positive).symm⟩
            unfold InLongLong
            omega
          · by_cases range : 49 ≤ first ∧ first ≤ 57
            · obtain ⟨magnitude, rfl, small, text⟩ :=
                (string2ll_cons_of_lead range rest value).mp accepted
              rw [ofInt_natCast, text]
              unfold llongMax at small
              unfold InLongLong
              exact ⟨by omega, rfl⟩
            · have notMinus : (first == 45) = false := by simpa using minus
              simp [string2ll, zero, notMinus, range] at accepted
  · rintro ⟨⟨lower, upper⟩, rfl⟩
    rcases lt_trichotomy value 0 with negative | rfl | positive
    · obtain ⟨magnitude, rfl⟩ : ∃ magnitude : Nat, value = -(magnitude : Int) :=
        ⟨value.natAbs, by omega⟩
      rw [ofInt_neg (by omega)]
      exact (string2ll_minus _ _).mpr ⟨magnitude, rfl, by omega, by omega, rfl⟩
    · rfl
    · obtain ⟨magnitude, rfl⟩ : ∃ magnitude : Nat, value = (magnitude : Int) :=
        ⟨value.natAbs, by omega⟩
      obtain ⟨lead, digits, text, range⟩ := ofNat_eq_lead_cons (show 0 < magnitude by omega)
      rw [ofInt_natCast, text]
      exact (string2ll_cons_of_lead range digits _).mpr
        ⟨magnitude, rfl, by unfold llongMax; omega, text⟩

end Libvalkey
