import Libvalkey.Foundation.Checked
import Libvalkey.Reader.Process

/-! # Integers on the wire

`string2ll` computed with `unsigned long long`. Which texts it accepts, and that none of
its computations wraps around. -/

namespace Libvalkey

open Checked

/-! ## Checked arithmetic -/

/-- An operation on `unsigned long long` whose result is not representable. -/
inductive Wraparound
  | times
  | plus
  | minus
  deriving DecidableEq, Repr

def checkedTimes (left right : Nat) : Except Wraparound Nat :=
  if left * right ≤ ullongMax then .ok (left * right) else .error .times

def checkedPlus (left right : Nat) : Except Wraparound Nat :=
  if left + right ≤ ullongMax then .ok (left + right) else .error .plus

def checkedMinus (left right : Nat) : Except Wraparound Nat :=
  if right ≤ left then .ok (left - right) else .error .minus

/-- A conversion to `long long`. -/
def toLongLong (value : Int) : Int := value.bmod (2 ^ 64)

/-- The unary minus of `unsigned long long`, which is one modulo `2 ^ 64` for every value. -/
def negated (value : Nat) : Nat := (2 ^ 64 - value) % 2 ^ 64

/-! ## The function -/

/-- The `while` loop. -/
def string2llLoop : Bytes → Nat → Except Wraparound (Option (Nat × Bytes))
  | [], v => .ok (some (v, []))
  | byte :: p, v =>
      if Decimal.isDigit byte then
        if v > ullongMax / 10 then .ok none
        else do
          let v ← checkedTimes v 10
          let digit ← checkedMinus byte.toNat '0'.toNat
          let room ← checkedMinus ullongMax digit
          if v > room then .ok none
          else do
            let v ← checkedPlus v digit
            string2llLoop p v
      else .ok (some (v, byte :: p))

/-- The number, with the sign that was read before it. -/
def string2llSigned (negative : Bool) (v : Nat) : Option Int :=
  if negative then
    if v > 2 ^ 63 then none else some (toLongLong (negated v))
  else if v > llongMax then none
  else some (toLongLong v)

def string2llChecked (s : Bytes) : Except Wraparound (Option Int) :=
  match s with
  | [] => .ok none
  | first :: rest =>
      -- Special case: first and only digit is 0.
      if s = ['0'.toUInt8] then .ok (some 0)
      else
        let negative : Bool := first == '-'.toUInt8
        match (if negative then rest else s) with
        | [] => .ok none
        | lead :: p =>
            if '1'.toUInt8 ≤ lead ∧ lead ≤ '9'.toUInt8 then do
              let v ← checkedMinus lead.toNat '0'.toNat
              match ← string2llLoop p v with
              | none => .ok none
              | some (v, unused) =>
                  -- Return if not all bytes were used.
                  if unused ≠ [] then .ok none else .ok (string2llSigned negative v)
            else .ok none

/-! ## No computation wraps around -/

theorem checkedMinus_digit {byte : UInt8} (digit : Decimal.isDigit byte = true) :
    checkedMinus byte.toNat '0'.toNat = .ok (Decimal.digitValue byte) := by
  obtain ⟨low, _⟩ := (Decimal.isDigit_iff byte).mp digit
  rw [Decimal.digitValue_of_isDigit digit]
  exact if_pos low

theorem string2llLoop_eq (digits : Bytes) (v : Nat) :
    string2llLoop digits v = .ok (string2llDigits digits v) := by
  induction digits generalizing v with
  | nil => rfl
  | cons byte p induction =>
      rw [string2llLoop, string2llDigits]
      by_cases digit : Decimal.isDigit byte = true
      · rw [if_pos digit, if_pos digit]
        by_cases large : v > ullongMax / 10
        · rw [if_pos large, if_pos large]
        · have small := Decimal.digitValue_lt_ten digit
          have product : checkedTimes v 10 = .ok (v * 10) := if_pos (by omega)
          have room : checkedMinus ullongMax (Decimal.digitValue byte) =
              .ok (ullongMax - Decimal.digitValue byte) :=
            if_pos (by unfold ullongMax; omega)
          rw [if_neg large, if_neg large, product, bind_ok, checkedMinus_digit digit, bind_ok, room,
            bind_ok]
          by_cases beyond : v * 10 > ullongMax - Decimal.digitValue byte
          · rw [if_pos beyond, if_pos beyond]
          · have sum : checkedPlus (v * 10) (Decimal.digitValue byte) =
                .ok (v * 10 + Decimal.digitValue byte) :=
              if_pos (by unfold ullongMax at beyond ⊢; omega)
            rw [if_neg beyond, if_neg beyond, sum, bind_ok, induction]
      · rw [if_neg digit, if_neg digit]

theorem le_string2llDigits {digits unused : Bytes} {start v : Nat}
    (found : string2llDigits digits start = some (v, unused)) : start ≤ v := by
  induction digits generalizing start with
  | nil =>
      obtain ⟨rfl, _⟩ := Prod.mk.inj (Option.some.inj found)
      exact Nat.le_refl _
  | cons byte digits induction =>
      rw [string2llDigits] at found
      split at found
      · split at found
        · cases found
        · split at found
          · cases found
          · have later := induction found
            omega
      · obtain ⟨rfl, _⟩ := Prod.mk.inj (Option.some.inj found)
        exact Nat.le_refl _

theorem toLongLong_natCast {v : Nat} (small : v ≤ llongMax) : toLongLong v = v := by
  unfold llongMax at small
  exact Int.bmod_eq_of_le (by omega) (by omega)

theorem toLongLong_negated {v : Nat} (positive : 0 < v) (small : v ≤ 2 ^ 63) :
    toLongLong (negated v) = -(v : Int) := by
  have wrapped : ((2 ^ 64 - v : Nat) : Int) = -(v : Int) + (2 ^ 64 : Nat) := by omega
  rw [toLongLong, negated, Nat.mod_eq_of_lt (by omega), wrapped, Int.add_bmod_right]
  exact Int.bmod_eq_of_le (by omega) (by omega)

theorem string2llSigned_eq (negative : Bool) {v : Nat} (positive : 0 < v) :
    string2llSigned negative v =
      if negative then if v > 2 ^ 63 then none else some (-(v : Int))
      else if v > llongMax then none
      else some (v : Int) := by
  unfold string2llSigned
  cases negative with
  | false =>
      by_cases large : v > llongMax
      · simp only [Bool.false_eq_true, if_false, if_pos large]
      · simp only [Bool.false_eq_true, if_false, if_neg large,
          toLongLong_natCast (Nat.le_of_not_lt large)]
  | true =>
      by_cases large : v > 2 ^ 63
      · simp only [if_true, if_pos large]
      · simp only [if_true, if_neg large, toLongLong_negated positive (Nat.le_of_not_lt large)]

/-- Every computation is exact. -/
theorem string2llChecked_eq (s : Bytes) : string2llChecked s = .ok (string2ll s) := by
  cases s with
  | nil => rfl
  | cons first rest =>
      rw [string2llChecked, string2ll]
      by_cases zero : first :: rest = ['0'.toUInt8]
      · rw [if_pos zero]
        exact (congrArg Except.ok (if_pos zero)).symm
      · have notZero : ¬first :: rest = [48] := zero
        have minus : (first == '-'.toUInt8) = (first == 45) := rfl
        rw [if_neg zero, if_neg notZero]
        simp only [minus]
        cases unsigned : if (first == 45) = true then rest else first :: rest with
        | nil => rfl
        | cons lead digits =>
            dsimp only
            by_cases range : 49 ≤ lead ∧ lead ≤ 57
            · have digit := isDigit_of_lead range
              have nonzero := (digitValue_pos_iff digit).mp range
              have between : '1'.toUInt8 ≤ lead ∧ lead ≤ '9'.toUInt8 := range
              rw [if_pos between, if_pos range, checkedMinus_digit digit, bind_ok, string2llLoop_eq,
                bind_ok]
              cases found : string2llDigits digits (Decimal.digitValue lead) with
              | none => rfl
              | some result =>
                  obtain ⟨v, unused⟩ := result
                  have positive : 0 < v :=
                    Nat.lt_of_lt_of_le (Nat.pos_of_ne_zero nonzero) (le_string2llDigits found)
                  dsimp only
                  rw [string2llSigned_eq _ positive]
                  split <;> rfl
            · have outside : ¬('1'.toUInt8 ≤ lead ∧ lead ≤ '9'.toUInt8) := range
              rw [if_neg outside, if_neg range]

/-! ## Canonical texts -/

/-- The text of an integer as it is sent: no zero in front, no plus sign and no minus sign
in front of zero. -/
inductive CanonicalInteger : Bytes → Int → Prop
  | zero : CanonicalInteger ['0'.toUInt8] 0
  | positive {lead : UInt8} {digits : Bytes} (range : '1'.toUInt8 ≤ lead ∧ lead ≤ '9'.toUInt8)
      (all : ∀ byte ∈ digits, Decimal.isDigit byte = true) :
      CanonicalInteger (lead :: digits) (Decimal.accumulate 0 (lead :: digits))
  | negative {lead : UInt8} {digits : Bytes} (range : '1'.toUInt8 ≤ lead ∧ lead ≤ '9'.toUInt8)
      (all : ∀ byte ∈ digits, Decimal.isDigit byte = true) :
      CanonicalInteger ('-'.toUInt8 :: lead :: digits)
        (-(Decimal.accumulate 0 (lead :: digits) : Nat))

theorem ofNat_accumulate_lead {lead : UInt8} {digits : Bytes} (range : 49 ≤ lead ∧ lead ≤ 57)
    (all : ∀ byte ∈ digits, Decimal.isDigit byte = true) :
    0 < Decimal.accumulate 0 (lead :: digits) ∧
      Decimal.ofNat (Decimal.accumulate 0 (lead :: digits)) = lead :: digits := by
  have digit := isDigit_of_lead range
  have nonzero := (digitValue_pos_iff digit).mp range
  constructor
  · rw [Decimal.accumulate_cons]
    have grows := Decimal.le_accumulate (0 * 10 + Decimal.digitValue lead) digits
    omega
  · apply Decimal.ofNat_accumulate
    refine ⟨?_, lead, digits, rfl, .inl nonzero⟩
    simpa [digit] using all

/-- The canonical text of a number is the one that is printed. -/
theorem canonicalInteger_iff (text : Bytes) (value : Int) :
    CanonicalInteger text value ↔ Decimal.ofInt value = text := by
  constructor
  · intro canonical
    cases canonical with
    | zero => rfl
    | positive range all =>
        rw [ofInt_natCast]
        exact (ofNat_accumulate_lead range all).2
    | negative range all =>
        obtain ⟨positive, text⟩ := ofNat_accumulate_lead range all
        rw [ofInt_neg positive, text]
        rfl
  · rintro rfl
    have ofPositive {magnitude : Nat} (positive : 0 < magnitude) :
        ∃ lead digits, Decimal.ofNat magnitude = lead :: digits ∧ (49 ≤ lead ∧ lead ≤ 57) ∧
          (∀ byte ∈ digits, Decimal.isDigit byte = true) ∧
          Decimal.accumulate 0 (lead :: digits) = magnitude := by
      obtain ⟨lead, digits, text, range⟩ := ofNat_eq_lead_cons positive
      refine ⟨lead, digits, text, range, fun byte member => ?_, ?_⟩
      · exact Decimal.isDigit_of_mem_ofNat magnitude byte (by simp [text, member])
      · rw [← text, Decimal.accumulate_ofNat]
    rcases lt_trichotomy value 0 with negative | rfl | positive
    · obtain ⟨magnitude, rfl⟩ : ∃ magnitude : Nat, value = -(magnitude : Int) :=
        ⟨value.natAbs, by omega⟩
      obtain ⟨lead, digits, text, range, all, same⟩ := ofPositive (show 0 < magnitude by omega)
      have printed : Decimal.ofInt (-(magnitude : Int)) = '-'.toUInt8 :: lead :: digits := by
        rw [ofInt_neg (by omega), text]
        rfl
      have canonical := CanonicalInteger.negative range all
      rwa [same, ← printed] at canonical
    · exact .zero
    · obtain ⟨magnitude, rfl⟩ : ∃ magnitude : Nat, value = (magnitude : Int) :=
        ⟨value.natAbs, by omega⟩
      obtain ⟨lead, digits, text, range, all, same⟩ := ofPositive (show 0 < magnitude by omega)
      have canonical := CanonicalInteger.positive range all
      rwa [same, ← text, ← ofInt_natCast] at canonical

/-- No computation wraps around, and a text is accepted exactly if it is the canonical one
of a signed 64-bit number, which is then the result and gives the text back. -/
theorem string2ll_canonical (s : Bytes) :
    ∃ result, string2llChecked s = .ok result ∧
      (∀ value, result = some value ↔ CanonicalInteger s value ∧ InLongLong value) ∧
      ∀ value, result = some value → Decimal.ofInt value = s := by
  refine ⟨string2ll s, string2llChecked_eq s, fun value => ?_, fun value accepted => ?_⟩
  · rw [string2ll_eq_some_iff, canonicalInteger_iff, and_comm, eq_comm]
  · exact ((string2ll_eq_some_iff s value).mp accepted).2.symm

end Libvalkey
