import Libvalkey.Async.Commands

/-! # Lengths in front of arguments

What `valkey_parse_bulk` accepts, and what `nextArgument` finds where both accept. The
first of them counts a length in a `uint32_t` and does not ask for a digit. -/

namespace Libvalkey

/-! ## Digits -/

def AllDigits (digits : Bytes) : Prop := ∀ byte ∈ digits, Decimal.isDigit byte = true

instance (digits : Bytes) : Decidable (AllDigits digits) :=
  List.decidableBAll (fun byte => Decimal.isDigit byte = true) digits

theorem isDigit_iff_between (byte : UInt8) :
    Decimal.isDigit byte = true ↔ '0'.toUInt8 ≤ byte ∧ byte ≤ '9'.toUInt8 := by
  simp only [Decimal.isDigit, Bool.and_eq_true, decide_eq_true_eq]
  exact Iff.rfl

theorem isDigit_CR : Decimal.isDigit CR = false := by decide

theorem accumulate_mod (start modulus : Nat) (digits : Bytes) :
    Decimal.accumulate (start % modulus) digits % modulus =
      Decimal.accumulate start digits % modulus := by
  induction digits generalizing start with
  | nil => simp
  | cons byte digits induction =>
      rw [Decimal.accumulate_cons, Decimal.accumulate_cons, ← induction,
        ← induction (start * 10 + Decimal.digitValue byte)]
      have same : (start % modulus * 10 + Decimal.digitValue byte) % modulus =
          (start * 10 + Decimal.digitValue byte) % modulus := by
        rw [Nat.add_mod, Nat.mod_mul_mod, ← Nat.add_mod]
      rw [same]

/-- A run of digits is read modulo `2 ^ 32`, up to the first byte that is no digit. -/
theorem parseUint32_run {start : Nat} (small : start < 2 ^ 32) {digits : Bytes}
    (all : AllDigits digits) {rest : Bytes}
    (ends : ∀ byte ∈ rest.head?, Decimal.isDigit byte = false) :
    parseUint32 start (digits ++ rest) = (Decimal.accumulate start digits % 2 ^ 32, rest) := by
  induction digits generalizing start with
  | nil =>
      rw [List.nil_append, Decimal.accumulate_nil, Nat.mod_eq_of_lt small]
      cases rest with
      | nil => rfl
      | cons byte rest =>
          have noDigit : ¬('0'.toUInt8 ≤ byte ∧ byte ≤ '9'.toUInt8) := by
            rw [← isDigit_iff_between]
            simp [ends byte rfl]
          rw [parseUint32, if_neg noDigit]
  | cons byte digits induction =>
      have digit := all byte List.mem_cons_self
      have later : AllDigits digits := fun other member => all other (List.mem_cons_of_mem _ member)
      rw [List.cons_append, parseUint32, if_pos ((isDigit_iff_between byte).mp digit),
        induction (Nat.mod_lt _ (by decide)) later, Decimal.accumulate_cons,
        Decimal.digitValue_of_isDigit digit, accumulate_mod]

theorem parseUint32_CR {digits : Bytes} (all : AllDigits digits) (rest : Bytes) :
    parseUint32 0 (digits ++ CR :: rest) = (Decimal.accumulate 0 digits % 2 ^ 32, CR :: rest) :=
  parseUint32_run (by decide) all fun byte member => by
    obtain rfl := Option.some.inj member
    exact isDigit_CR

/-- Every text starts with a run of digits, which may be empty. -/
theorem exists_run (text : Bytes) :
    ∃ digits rest, text = digits ++ rest ∧ AllDigits digits ∧
      ∀ byte ∈ rest.head?, Decimal.isDigit byte = false := by
  induction text with
  | nil => exact ⟨[], [], rfl, by simp [AllDigits], by simp⟩
  | cons byte text induction =>
      cases digit : Decimal.isDigit byte with
      | false => exact ⟨[], byte :: text, rfl, by simp [AllDigits], by simp [digit]⟩
      | true =>
          obtain ⟨digits, rest, rfl, all, ends⟩ := induction
          exact ⟨byte :: digits, rest, rfl, List.forall_mem_cons.mpr ⟨digit, all⟩, ends⟩

/-! ## What is accepted -/

theorem skipCRLF_eq_some {text rest : Bytes} :
    skipCRLF text = some rest ↔ text = CR :: LF :: rest := by
  match text with
  | [] => simp [skipCRLF]
  | [byte] => simp [skipCRLF]
  | byte :: next :: others =>
      simp only [skipCRLF, Option.ite_none_right_eq_some, Option.some.injEq, List.cons.injEq]
      exact and_assoc

/-- Digits that `marker` precedes and CR LF ends, and what follows them. -/
def withCount (marker : UInt8) (digits rest : Bytes) : Bytes :=
  marker :: (digits ++ CR :: LF :: rest)

/-- The bulk string that the digits and the bytes of an argument make. -/
def bulkText (digits payload rest : Bytes) : Bytes :=
  withCount '$'.toUInt8 digits (payload ++ CR :: LF :: rest)

theorem valkey_parse_bulk_withCount {digits : Bytes} (all : AllDigits digits) (text : Bytes) :
    valkey_parse_bulk (withCount '$'.toUInt8 digits text) =
      some (text.take (Decimal.accumulate 0 digits % 2 ^ 32),
        skipCRLF (text.drop (Decimal.accumulate 0 digits % 2 ^ 32))) := by
  rw [withCount, valkey_parse_bulk, if_neg (fun different => different rfl)]
  simp [parseUint32_CR all, skipCRLF]

/-- Where a length is read at all, it is written. -/
theorem withCount_of_parse {text arg : Bytes} {next : Option Bytes}
    (parsed : valkey_parse_bulk text = some (arg, next)) :
    ∃ digits rest, AllDigits digits ∧ text = withCount '$'.toUInt8 digits rest := by
  cases text with
  | nil => simp [valkey_parse_bulk] at parsed
  | cons byte p =>
      obtain ⟨digits, rest, rfl, all, ends⟩ := exists_run p
      rw [valkey_parse_bulk] at parsed
      split at parsed
      · cases parsed
      · rename_i marker
        have run := parseUint32_run (show 0 < 2 ^ 32 by decide) all ends
        simp only [run] at parsed
        cases newline : skipCRLF rest with
        | none => simp [newline] at parsed
        | some payload =>
            refine ⟨digits, payload, all, ?_⟩
            rw [withCount, ← skipCRLF_eq_some.mp newline, not_not.mp marker]

/-- A bulk string that is accepted is as long as the digits say modulo `2 ^ 32`. -/
theorem valkey_parse_bulk_accepts_iff {buf payload rest : Bytes} :
    valkey_parse_bulk buf = some (payload, some rest) ↔
      ∃ digits, AllDigits digits ∧ buf = bulkText digits payload rest ∧
        payload.length = Decimal.accumulate 0 digits % 2 ^ 32 := by
  constructor
  · intro parsed
    obtain ⟨digits, text, all, rfl⟩ := withCount_of_parse parsed
    rw [valkey_parse_bulk_withCount all] at parsed
    simp only [Option.some.injEq, Prod.mk.injEq, skipCRLF_eq_some] at parsed
    obtain ⟨taken, left⟩ := parsed
    refine ⟨digits, all, ?_, ?_⟩
    · rw [bulkText, ← taken, ← left, List.take_append_drop]
    · have longEnough : Decimal.accumulate 0 digits % 2 ^ 32 < text.length := by
        by_contra short
        rw [List.drop_of_length_le (Nat.le_of_not_lt short)] at left
        cases left
      rw [← taken, List.length_take]
      omega
  · rintro ⟨digits, all, rfl, length⟩
    rw [bulkText, valkey_parse_bulk_withCount all, ← length]
    simp [skipCRLF]

/-! ## Exact lengths -/

/-- What is accepted is '$', one or more digits, CR LF, as many bytes as the digits say,
and CR LF, and these bytes are reported. -/
def BulkExact (buf : Bytes) : Prop :=
  ∀ payload rest, valkey_parse_bulk buf = some (payload, some rest) →
    ∃ digits, AllDigits digits ∧ digits ≠ [] ∧ buf = bulkText digits payload rest ∧
      Decimal.accumulate 0 digits = payload.length

/-- An empty bulk string whose length is not written. -/
def WithoutLength (buf : Bytes) : Prop := ∃ rest, buf = bulkText [] [] rest

/-- A length of `2 ^ 32` or more, and as many bytes as are left of it modulo `2 ^ 32`. -/
def WrappedLength (buf : Bytes) : Prop :=
  ∃ digits payload rest, AllDigits digits ∧ buf = bulkText digits payload rest ∧
    2 ^ 32 ≤ Decimal.accumulate 0 digits ∧
    payload.length = Decimal.accumulate 0 digits % 2 ^ 32

/-- The digits in front of CR are found again. -/
theorem withCount_inj {marker : UInt8} {left right leftRest rightRest : Bytes}
    (leftDigits : AllDigits left) (rightDigits : AllDigits right)
    (same : withCount marker left leftRest = withCount marker right rightRest) :
    left = right ∧ leftRest = rightRest := by
  have texts : left ++ CR :: LF :: leftRest = right ++ CR :: LF :: rightRest :=
    (List.cons.inj same).2
  have digitsOf {digits : Bytes} (rest : Bytes) (all : AllDigits digits) :
      (digits ++ CR :: rest).takeWhile Decimal.isDigit = digits := by
    rw [List.takeWhile_append_of_pos all, List.takeWhile_cons_of_neg (by simp [isDigit_CR]),
      List.append_nil]
  have equal : left = right := by
    rw [← digitsOf (LF :: leftRest) leftDigits, texts, digitsOf _ rightDigits]
  subst equal
  exact ⟨rfl, by simpa using texts⟩

theorem bulkExact_iff (buf : Bytes) :
    BulkExact buf ↔ ¬WithoutLength buf ∧ ¬WrappedLength buf := by
  constructor
  · intro exactly
    constructor
    · rintro ⟨rest, rfl⟩
      have accepted : valkey_parse_bulk (bulkText [] [] rest) = some ([], some rest) :=
        valkey_parse_bulk_accepts_iff.mpr ⟨[], by simp [AllDigits], rfl, rfl⟩
      obtain ⟨digits, all, given, same, _⟩ := exactly _ _ accepted
      exact given (withCount_inj (by simp [AllDigits]) all same).1.symm
    · rintro ⟨digits, payload, rest, all, rfl, large, length⟩
      have accepted : valkey_parse_bulk (bulkText digits payload rest) = some
          (payload, some rest) :=
        valkey_parse_bulk_accepts_iff.mpr ⟨digits, all, rfl, length⟩
      obtain ⟨others, allOthers, _, same, value⟩ := exactly _ _ accepted
      obtain ⟨rfl, _⟩ := withCount_inj all allOthers same
      have wrapped : payload.length < 2 ^ 32 := length ▸ Nat.mod_lt _ (by decide)
      omega
  · rintro ⟨written, unwrapped⟩ payload rest accepted
    obtain ⟨digits, all, rfl, length⟩ := valkey_parse_bulk_accepts_iff.mp accepted
    refine ⟨digits, all, ?_, rfl, ?_⟩
    · rintro rfl
      have empty : payload = [] := List.length_eq_zero_iff.mp length
      subst empty
      exact written ⟨rest, rfl⟩
    · by_cases small : Decimal.accumulate 0 digits < 2 ^ 32
      · rw [length, Nat.mod_eq_of_lt small]
      · exact absurd ⟨digits, payload, rest, all, rfl, Nat.le_of_not_lt small, length⟩ unwrapped

/-! ## Two parsers -/

theorem parseBulkDigits_eq_some {acc len : Nat} {digits rest p : Bytes} (all : AllDigits digits)
    (ends : ∀ byte ∈ rest.head?, Decimal.isDigit byte = false)
    (parsed : parseBulkDigits acc (digits ++ rest) = some (len, p)) (small : acc ≤ maxBulkLen) :
    len = Decimal.accumulate acc digits ∧ p = rest ∧ len ≤ maxBulkLen := by
  induction digits generalizing acc with
  | nil =>
      have stopped : parseBulkDigits acc rest = some (acc, rest) := by
        cases rest with
        | nil => rfl
        | cons byte rest => simp [parseBulkDigits, ends byte rfl]
      rw [List.nil_append, stopped] at parsed
      cases parsed
      exact ⟨rfl, rfl, small⟩
  | cons byte digits induction =>
      have digit := all byte List.mem_cons_self
      rw [List.cons_append, parseBulkDigits, if_pos digit] at parsed
      dsimp only at parsed
      split at parsed
      · cases parsed
      · rename_i fits
        exact induction (fun other member => all other (List.mem_cons_of_mem _ member)) parsed
          (Nat.le_of_not_lt fits)

/-- Where `nextArgument` accepts a length, it is the one that is written. -/
theorem nextArgument_withCount {digits text : Bytes} (all : AllDigits digits) {argument : Argument}
    (found : nextArgument (withCount '$'.toUInt8 digits text) = some argument) :
    Decimal.accumulate 0 digits ≤ maxBulkLen ∧
      argument.str = text.take (Decimal.accumulate 0 digits) := by
  have start : (withCount '$'.toUInt8 digits text).dropWhile (· != '$'.toUInt8) =
      withCount '$'.toUInt8 digits text := by simp [withCount]
  unfold nextArgument at found
  rw [start, withCount] at found
  dsimp only at found
  cases parsed : parseBulkLen (digits ++ CR :: LF :: text) with
  | none => simp [parsed] at found
  | some result =>
      obtain ⟨len, p⟩ := result
      have loop : parseBulkDigits 0 (digits ++ CR :: LF :: text) = some (len, p) := by
        cases digits with
        | nil => simp [parseBulkLen, isDigit_CR] at parsed
        | cons byte digits =>
            rwa [List.cons_append, parseBulkLen, if_pos (all byte List.mem_cons_self)] at parsed
      obtain ⟨rfl, rfl, small⟩ := parseBulkDigits_eq_some all (fun byte member => by
        obtain rfl := Option.some.inj member
        exact isDigit_CR) loop (Nat.zero_le _)
      simp only [parsed] at found
      split at found
      · cases found
      · obtain rfl := Option.some.inj found
        exact ⟨small, rfl⟩

/-- Two parsers that accept a bulk string at the same place report the same argument. -/
theorem parsers_agree {buf payload rest : Bytes} {argument : Argument}
    (accepted : valkey_parse_bulk buf = some (payload, some rest))
    (found : nextArgument buf = some argument) : argument.str = payload := by
  obtain ⟨digits, all, rfl, length⟩ := valkey_parse_bulk_accepts_iff.mp accepted
  obtain ⟨small, str⟩ := nextArgument_withCount all found
  have unwrapped : Decimal.accumulate 0 digits % 2 ^ 32 = Decimal.accumulate 0 digits :=
    Nat.mod_eq_of_lt (Nat.lt_of_le_of_lt small (by decide))
  rw [str, ← unwrapped, ← length, List.take_left]

end Libvalkey
