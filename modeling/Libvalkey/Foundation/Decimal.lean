import Libvalkey.Foundation.Bytes
import Mathlib.Tactic.Ring

/-! # Decimal text

Decimal digits as bytes, the number a digit string denotes and the canonical
text of a number. Nothing here knows about a protocol. -/

namespace Libvalkey.Decimal

def isDigit (byte : UInt8) : Bool := 48 ≤ byte && byte ≤ 57

def digitValue (byte : UInt8) : Nat := (byte - 48).toNat

def digitByte (digit : Nat) : UInt8 := UInt8.ofNat (48 + digit)

/-- The number denoted by `digits` read after a prefix that denotes `start`. -/
def accumulate (start : Nat) : Bytes → Nat
  | [] => start
  | byte :: rest => accumulate (start * 10 + digitValue byte) rest

@[simp] theorem accumulate_nil (start : Nat) : accumulate start [] = start := by
  rw [accumulate]

@[simp] theorem accumulate_cons (start : Nat) (byte : UInt8) (rest : Bytes) :
    accumulate start (byte :: rest) =
      accumulate (start * 10 + digitValue byte) rest := by
  rw [accumulate]

theorem accumulate_append (start : Nat) (left right : Bytes) :
    accumulate start (left ++ right) = accumulate (accumulate start left) right := by
  induction left generalizing start with
  | nil => simp
  | cons byte rest induction => simp [induction]

theorem isDigit_iff (byte : UInt8) :
    isDigit byte = true ↔ 48 ≤ byte.toNat ∧ byte.toNat ≤ 57 := by
  simp [isDigit, UInt8.le_iff_toNat_le]

theorem digitValue_of_isDigit {byte : UInt8} (digit : isDigit byte = true) :
    digitValue byte = byte.toNat - 48 := by
  have bounds := (isDigit_iff byte).mp digit
  have atLeastZero : (48 : UInt8) ≤ byte := UInt8.le_iff_toNat_le.mpr bounds.1
  rw [digitValue, UInt8.toNat_sub_of_le _ _ atLeastZero]
  rfl

theorem digitValue_lt_ten {byte : UInt8} (digit : isDigit byte = true) :
    digitValue byte < 10 := by
  have bounds := (isDigit_iff byte).mp digit
  rw [digitValue_of_isDigit digit]
  omega

theorem digitByte_toNat {digit : Nat} (small : digit < 10) :
    (digitByte digit).toNat = 48 + digit := by
  simp only [digitByte, UInt8.toNat_ofNat']
  omega

theorem isDigit_digitByte {digit : Nat} (small : digit < 10) :
    isDigit (digitByte digit) = true := by
  rw [isDigit_iff, digitByte_toNat small]
  omega

theorem digitValue_digitByte {digit : Nat} (small : digit < 10) :
    digitValue (digitByte digit) = digit := by
  rw [digitValue_of_isDigit (isDigit_digitByte small), digitByte_toNat small]
  omega

theorem digitByte_digitValue {byte : UInt8} (digit : isDigit byte = true) :
    digitByte (digitValue byte) = byte := by
  have bounds := (isDigit_iff byte).mp digit
  apply UInt8.toNat_inj.mp
  rw [digitByte_toNat (digitValue_lt_ten digit), digitValue_of_isDigit digit]
  omega

theorem le_accumulate (start : Nat) (digits : Bytes) : start ≤ accumulate start digits := by
  induction digits generalizing start with
  | nil => simp
  | cons byte rest induction =>
      have later := induction (start * 10 + digitValue byte)
      simp only [accumulate_cons]
      omega

/-! ## Canonical text -/

/-- At most `fuel + 1` digits, the last one first divided off. -/
def ofNatFuel : Nat → Nat → Bytes
  | 0, value => [digitByte value]
  | fuel + 1, value =>
      if value < 10 then [digitByte value]
      else ofNatFuel fuel (value / 10) ++ [digitByte (value % 10)]

/-- The text of a natural number without leading zeros. A number has fewer
digits than its value, so the value itself is enough fuel. -/
def ofNat (value : Nat) : Bytes := ofNatFuel value value

/-- The text of an integer, with a minus sign for the negative ones. -/
def ofInt (value : Int) : Bytes :=
  if value < 0 then 45 :: ofNat value.natAbs else ofNat value.natAbs

theorem ofNatFuel_eq {fuel value : Nat} (enough : value ≤ fuel) :
    ofNatFuel fuel value = ofNat value := by
  suffices same : ∀ (left right value : Nat), value ≤ left → value ≤ right →
      ofNatFuel left value = ofNatFuel right value from
    same fuel value value enough (Nat.le_refl _)
  intro left
  induction left with
  | zero =>
      intro right value atLeast _
      obtain rfl : value = 0 := Nat.le_zero.mp atLeast
      cases right <;> simp [ofNatFuel]
  | succ left induction =>
      intro right value leftEnough rightEnough
      cases right with
      | zero =>
          obtain rfl : value = 0 := Nat.le_zero.mp rightEnough
          simp [ofNatFuel]
      | succ right =>
          simp only [ofNatFuel]
          split
          · rfl
          · rw [induction right (value / 10) (by omega) (by omega)]

theorem ofNat_of_lt_ten {value : Nat} (small : value < 10) :
    ofNat value = [digitByte value] := by
  rw [ofNat]
  cases value with
  | zero => rfl
  | succ value => rw [ofNatFuel, if_pos small]

theorem ofNat_of_ten_le {value : Nat} (large : 10 ≤ value) :
    ofNat value = ofNat (value / 10) ++ [digitByte (value % 10)] := by
  rw [ofNat]
  cases value with
  | zero => omega
  | succ value => rw [ofNatFuel, if_neg (by omega), ofNatFuel_eq (by omega)]

theorem ofNat_ne_nil (value : Nat) : ofNat value ≠ [] := by
  by_cases small : value < 10
  · simp [ofNat_of_lt_ten small]
  · simp [ofNat_of_ten_le (Nat.le_of_not_lt small)]

theorem isDigit_of_mem_ofNat (value : Nat) :
    ∀ byte ∈ ofNat value, isDigit byte = true := by
  induction value using Nat.strong_induction_on with
  | h value induction =>
      by_cases small : value < 10
      · simp [ofNat_of_lt_ten small, isDigit_digitByte small]
      · intro byte member
        rw [ofNat_of_ten_le (Nat.le_of_not_lt small)] at member
        rcases List.mem_append.mp member with earlier | last
        · exact induction (value / 10) (by omega) byte earlier
        · rw [List.mem_singleton.mp last]
          exact isDigit_digitByte (Nat.mod_lt _ (by omega))

@[simp] theorem accumulate_ofNat (value : Nat) : accumulate 0 (ofNat value) = value := by
  induction value using Nat.strong_induction_on with
  | h value induction =>
      by_cases small : value < 10
      · simp [ofNat_of_lt_ten small, digitValue_digitByte small]
      · rw [ofNat_of_ten_le (Nat.le_of_not_lt small), accumulate_append,
          induction (value / 10) (by omega)]
        have lastDigit := digitValue_digitByte (Nat.mod_lt value (show 0 < 10 by omega))
        simp only [accumulate_cons, accumulate_nil, lastDigit]
        omega

/-- A digit string is canonical when it is `"0"` or does not start with a zero. -/
def Canonical (digits : Bytes) : Prop :=
  (∀ byte ∈ digits, isDigit byte = true) ∧
    ∃ head tail, digits = head :: tail ∧ (digitValue head ≠ 0 ∨ tail = [])

theorem canonical_ofNat (value : Nat) : Canonical (ofNat value) := by
  refine ⟨isDigit_of_mem_ofNat value, ?_⟩
  induction value using Nat.strong_induction_on with
  | h value induction =>
      by_cases small : value < 10
      · exact ⟨digitByte value, [], ofNat_of_lt_ten small, Or.inr rfl⟩
      · obtain ⟨head, tail, split, leading⟩ := induction (value / 10) (by omega)
        refine ⟨head, tail ++ [digitByte (value % 10)], ?_, ?_⟩
        · rw [ofNat_of_ten_le (Nat.le_of_not_lt small), split, List.cons_append]
        · left
          intro zero
          rcases leading with nonzero | single
          · exact nonzero zero
          · have denoted := accumulate_ofNat (value / 10)
            rw [split, single, accumulate_cons, accumulate_nil, zero] at denoted
            omega

/-- A leading nonzero digit followed by digits is the text of the number it denotes. -/
theorem ofNat_accumulate_of_pos (start : Nat) (digits : Bytes) (positive : 0 < start)
    (allDigits : ∀ byte ∈ digits, isDigit byte = true) :
    ofNat (accumulate start digits) = ofNat start ++ digits := by
  induction digits generalizing start with
  | nil => simp
  | cons byte rest induction =>
      have digit : isDigit byte = true := allDigits byte (by simp)
      have bound := digitValue_lt_ten digit
      have restDigits : ∀ other ∈ rest, isDigit other = true := fun other member =>
        allDigits other (by simp [member])
      rw [accumulate_cons, induction _ (by omega) restDigits,
        ofNat_of_ten_le (by omega)]
      have quotient : (start * 10 + digitValue byte) / 10 = start := by omega
      have remainder : (start * 10 + digitValue byte) % 10 = digitValue byte := by omega
      rw [quotient, remainder, digitByte_digitValue digit]
      simp

theorem ofNat_accumulate {digits : Bytes} (canonical : Canonical digits) :
    ofNat (accumulate 0 digits) = digits := by
  obtain ⟨allDigits, head, tail, rfl, leading⟩ := canonical
  have headDigit : isDigit head = true := allDigits head (by simp)
  have tailDigits : ∀ byte ∈ tail, isDigit byte = true := fun byte member =>
    allDigits byte (by simp [member])
  have bound := digitValue_lt_ten headDigit
  rw [accumulate_cons, Nat.zero_mul, Nat.zero_add]
  by_cases zero : digitValue head = 0
  · have single : tail = [] := leading.resolve_left (by simp [zero])
    subst single
    rw [accumulate_nil, ofNat_of_lt_ten bound, digitByte_digitValue headDigit]
  · rw [ofNat_accumulate_of_pos _ _ (Nat.pos_of_ne_zero zero) tailDigits,
      ofNat_of_lt_ten bound, digitByte_digitValue headDigit]
    rfl

theorem length_ofNat_le {value digits : Nat} (small : value < 10 ^ (digits + 1)) :
    (ofNat value).length ≤ digits + 1 := by
  induction digits generalizing value with
  | zero => simp [ofNat_of_lt_ten (show value < 10 by omega)]
  | succ digits induction =>
      by_cases short : value < 10
      · simp [ofNat_of_lt_ten short]
      · have quotient : value / 10 < 10 ^ (digits + 1) := by
          rw [Nat.div_lt_iff_lt_mul (by omega)]
          simpa [Nat.pow_succ] using small
        rw [ofNat_of_ten_le (by omega), List.length_append, List.length_singleton]
        have shorter := induction quotient
        omega

/-- A number of `digits` digits has them in addition to those of its leading part. -/
theorem length_ofNat_div {value digits : Nat} (large : 10 ^ digits ≤ value) :
    (ofNat value).length = (ofNat (value / 10 ^ digits)).length + digits := by
  induction digits generalizing value with
  | zero => simp
  | succ digits induction =>
      rw [Nat.pow_succ] at large ⊢
      have positive : 0 < 10 ^ digits := Nat.pow_pos (by decide)
      have shorter : 10 ^ digits ≤ value / 10 := (Nat.le_div_iff_mul_le (by decide)).mpr large
      rw [ofNat_of_ten_le (by omega), List.length_append, List.length_singleton,
        induction shorter, Nat.div_div_eq_div_mul, Nat.mul_comm 10]
      omega

theorem length_ofNat_eq {value digits : Nat} (large : 10 ^ digits ≤ value)
    (small : value < 10 ^ (digits + 1)) : (ofNat value).length = digits + 1 := by
  have positive : 0 < 10 ^ digits := Nat.pow_pos (by decide)
  have leading : value / 10 ^ digits < 10 := by
    rw [Nat.div_lt_iff_lt_mul positive, ← Nat.pow_succ']
    exact small
  rw [length_ofNat_div large, ofNat_of_lt_ten leading, List.length_singleton, Nat.add_comm]

theorem length_ofInt_le {value : Int} {digits : Nat} (small : value.natAbs < 10 ^ (digits + 1)) :
    (ofInt value).length ≤ digits + 2 := by
  have magnitude := length_ofNat_le small
  unfold ofInt
  split
  · simp only [List.length_cons]
    omega
  · omega

end Libvalkey.Decimal
