import Libvalkey.Cluster.NodeAddresses
import Libvalkey.Reader.ChildIndex

/-! # Numbers in texts

What `vk_atoi` returns for every text, and what its callers accept as ports and slots. -/

namespace Libvalkey

/-- `INT_MAX` -/
def largestInt : Nat := 2 ^ 31 - 1

/-! ## The result -/

theorem toInt32_step (start digit : Nat) :
    toInt32 (toInt32 start * 10 + digit) = toInt32 (start * 10 + digit : Nat) := by
  unfold toInt32
  push_cast
  rw [← Int.bmod_add_bmod, Int.bmod_mul_bmod, Int.bmod_add_bmod]

/-- The number that is read, where all bytes are digits. -/
theorem vkAtoiFrom_accumulate {digits : Bytes} (all : ∀ byte ∈ digits, Decimal.isDigit byte = true)
    (start : Nat) :
    vkAtoiFrom (toInt32 start) digits = some (toInt32 (Decimal.accumulate start digits)) := by
  induction digits generalizing start with
  | nil => rfl
  | cons byte rest induction =>
      have digit := all byte List.mem_cons_self
      obtain ⟨low, high⟩ := (Decimal.isDigit_iff byte).mp digit
      have inRange : ¬(byte < '0'.toUInt8 ∨ byte > '9'.toUInt8) := by
        rw [not_or, UInt8.not_lt, UInt8.not_lt, UInt8.le_iff_toNat_le, UInt8.le_iff_toNat_le]
        exact ⟨low, high⟩
      rw [vkAtoiFrom, if_neg inRange, ← Decimal.digitValue_of_isDigit digit, toInt32_step,
        Decimal.accumulate_cons]
      exact induction (fun other member => all other (List.mem_cons_of_mem _ member)) _

/-- The number is taken modulo `2 ^ 32`, and what is then negative as an `int` is refused. -/
theorem vkAtoi_of_decimal {text : Bytes} (decimal : DecimalText text) :
    (Decimal.accumulate 0 text % 2 ^ 32 ≤ largestInt →
        vkAtoi text = (Decimal.accumulate 0 text % 2 ^ 32 : Nat)) ∧
      (largestInt < Decimal.accumulate 0 text % 2 ^ 32 → vkAtoi text = -1) := by
  have read := vkAtoiFrom_accumulate decimal.2 0
  have zero : toInt32 ((0 : Nat) : Int) = 0 := rfl
  rw [zero] at read
  rw [vkAtoi, if_neg decimal.1, read]
  generalize Decimal.accumulate 0 text = value
  dsimp only
  unfold largestInt toInt32
  rw [Int.bmod_def]
  constructor
  · intro low
    split <;> split <;> omega
  · intro high
    split <;> split <;> omega

theorem vkAtoi_of_other {text : Bytes} (other : ¬DecimalText text) : vkAtoi text = -1 := by
  by_cases empty : text = []
  · rw [vkAtoi, if_pos empty]
  · rw [vkAtoi, if_neg empty]
    cases read : vkAtoiFrom 0 text with
    | none => rfl
    | some value => exact absurd ⟨empty, digits_of_vkAtoiFrom read⟩ other

theorem vkAtoi_bounds (text : Bytes) : -1 ≤ vkAtoi text ∧ vkAtoi text ≤ largestInt := by
  unfold largestInt
  by_cases decimal : DecimalText text
  · obtain ⟨accepted, refused⟩ := vkAtoi_of_decimal decimal
    unfold largestInt at accepted refused
    by_cases looks : Decimal.accumulate 0 text % 2 ^ 32 ≤ 2 ^ 31 - 1
    · have read := accepted looks
      omega
    · have read := refused (Nat.lt_of_not_le looks)
      omega
  · have read := vkAtoi_of_other decimal
    omega

/-! ## Exact numbers -/

/-- The decimal number is returned where it is an `int`, and -1 otherwise. -/
structure ReadsExactly (text : Bytes) : Prop where
  number : DecimalText text → Decimal.accumulate 0 text ≤ largestInt →
    vkAtoi text = Decimal.accumulate 0 text
  other : ¬(DecimalText text ∧ Decimal.accumulate 0 text ≤ largestInt) → vkAtoi text = -1

/-- A number above `INT_MAX` that looks like one below it. -/
def WrapsInto (text : Bytes) (low high : Nat) : Prop :=
  DecimalText text ∧ largestInt < Decimal.accumulate 0 text ∧
    low ≤ Decimal.accumulate 0 text % 2 ^ 32 ∧ Decimal.accumulate 0 text % 2 ^ 32 ≤ high

theorem readsExactly_iff (text : Bytes) : ReadsExactly text ↔ ¬WrapsInto text 0 largestInt := by
  constructor
  · rintro exactly ⟨decimal, large, _, looks⟩
    have refused := exactly.other fun both => absurd both.2 (Nat.not_le.mpr large)
    have read := (vkAtoi_of_decimal decimal).1 looks
    omega
  · intro apart
    constructor
    · intro decimal small
      have same : Decimal.accumulate 0 text % 2 ^ 32 = Decimal.accumulate 0 text := by
        unfold largestInt at small
        exact Nat.mod_eq_of_lt (by omega)
      rw [(vkAtoi_of_decimal decimal).1 (same.symm ▸ small), same]
    · intro outside
      by_cases decimal : DecimalText text
      · have large : largestInt < Decimal.accumulate 0 text := by
          by_contra small
          exact outside ⟨decimal, Nat.le_of_not_lt small⟩
        apply (vkAtoi_of_decimal decimal).2
        by_contra looks
        exact apart ⟨decimal, large, Nat.zero_le _, Nat.le_of_not_lt looks⟩
      · exact vkAtoi_of_other decimal

/-- The text is a number in a range. -/
def NumberIn (text : Bytes) (low high : Nat) : Prop :=
  DecimalText text ∧ low ≤ Decimal.accumulate 0 text ∧ Decimal.accumulate 0 text ≤ high

/-- What passes a comparison with two bounds is a number between them, or it wraps around. -/
theorem numberIn_or_wraps {text : Bytes} {low high : Nat} (lower : low ≤ vkAtoi text)
    (upper : vkAtoi text ≤ high) : NumberIn text low high ∨ WrapsInto text low high := by
  have decimal : DecimalText text := by
    by_contra other
    have refused := vkAtoi_of_other other
    omega
  obtain ⟨accepted, refused⟩ := vkAtoi_of_decimal decimal
  have looks : Decimal.accumulate 0 text % 2 ^ 32 ≤ largestInt := by
    by_contra negative
    have none := refused (Nat.lt_of_not_le negative)
    omega
  have read := accepted looks
  by_cases small : Decimal.accumulate 0 text ≤ largestInt
  · have same : Decimal.accumulate 0 text % 2 ^ 32 = Decimal.accumulate 0 text := by
      unfold largestInt at small
      exact Nat.mod_eq_of_lt (by omega)
    exact .inl ⟨decimal, by omega, by omega⟩
  · exact .inr ⟨decimal, Nat.lt_of_not_le small, by omega, by omega⟩

/-- A number that wraps around passes the comparison. -/
theorem vkAtoi_of_wraps {text : Bytes} {low high : Nat} (small : high ≤ largestInt)
    (wraps : WrapsInto text low high) : low ≤ vkAtoi text ∧ vkAtoi text ≤ high := by
  obtain ⟨decimal, _, lower, upper⟩ := wraps
  have read := (vkAtoi_of_decimal decimal).1 (upper.trans small)
  omega

theorem not_numberIn_of_wraps {text : Bytes} {low high : Nat} (small : high ≤ largestInt)
    (wraps : WrapsInto text low high) : ¬NumberIn text low high := by
  rintro ⟨_, _, upper⟩
  have large := wraps.2.1
  omega

/-- A comparison with one bound lets the numbers above the range pass, too. -/
theorem lower_check_iff {text : Bytes} {low high : Nat} (ordered : low ≤ high)
    (small : high ≤ largestInt) :
    (low ≤ vkAtoi text → NumberIn text low high) ↔
      ¬WrapsInto text low largestInt ∧ ¬NumberIn text (high + 1) largestInt := by
  constructor
  · intro denotes
    constructor
    · intro wraps
      obtain ⟨_, _, upper⟩ := denotes (vkAtoi_of_wraps (Nat.le_refl _) wraps).1
      have large := wraps.2.1
      omega
    · rintro ⟨decimal, lower, upper⟩
      have exactly := (readsExactly_iff text).mpr fun wraps => absurd wraps.2.1 (by omega)
      have read := exactly.number decimal upper
      have inside := (denotes (by omega)).2.2
      omega
  · rintro ⟨apart, below⟩ passed
    obtain ⟨decimal, lower, upper⟩ :=
      (numberIn_or_wraps passed (vkAtoi_bounds text).2).resolve_right apart
    refine ⟨decimal, lower, ?_⟩
    by_contra large
    exact below ⟨decimal, by omega, upper⟩

/-! ## The checks of the callers -/

theorem portInRange_iff (port : Int) : portInRange port = true ↔ 1 ≤ port ∧ port ≤ 65535 := by
  simp [portInRange]

theorem not_mem_digits {byte : UInt8} (other : Decimal.isDigit byte = false) {text : Bytes}
    (all : ∀ digit ∈ text, Decimal.isDigit digit = true) : byte ∉ text :=
  fun member => absurd ((all byte member).symm.trans other) (by decide)

/-- The three words of a redirect. -/
theorem fields_redirect (word slot addr : Bytes) (words : ∀ part ∈ [word, slot], ' '.toUInt8 ∉ part)
    (last : ' '.toUInt8 ∉ addr) (some : addr ≠ [])
    (clean : ∀ part ∈ [word, slot, addr], 0 ∉ part) :
    fields ' '.toUInt8 (cString (word ++ ' '.toUInt8 :: (slot ++ ' '.toUInt8 :: addr))) =
      [word, slot, addr] := by
  have noNul : 0 ∉ word ++ ' '.toUInt8 :: (slot ++ ' '.toUInt8 :: addr) := by
    simp only [List.mem_append, List.mem_cons, not_or]
    refine ⟨clean word (by simp), by decide, clean slot (by simp), by decide, clean addr (by simp)⟩
  rw [cString_of_clean noNul]
  exact fields_joinFields [word, slot] words last some

/-- The port of an accepted redirect. -/
def RedirectPortDenotes (text : Bytes) : Prop :=
  ∀ host str field before redirect, (fields ' '.toUInt8 (cString str))[2]? = some field →
    splitLast ':'.toUInt8 field = some (before, text) → parseRedirect host str = .ok redirect →
      NumberIn text 1 65535

theorem slot_of_parseRedirect {host str : Bytes} {redirect : Redirect}
    (accepted : parseRedirect host str = .ok redirect) : redirect.slot = redirectSlot str := by
  unfold parseRedirect at accepted
  split at accepted
  · cases accepted
  · split at accepted
    · cases accepted
    · dsimp only at accepted
      split at accepted
      · cases accepted
      · split at accepted <;> cases accepted <;> rfl

/-- The slot of an accepted redirect, where an entry of the table is written for it. -/
def RedirectSlotDenotes (text : Bytes) : Prop :=
  ∀ host str redirect, (fields ' '.toUInt8 (cString str))[1]? = some text →
    parseRedirect host str = .ok redirect → 0 ≤ redirect.slot →
      NumberIn text 0 (valkeyClusterSlots - 1)

/-- The port of an accepted address in a line of `CLUSTER NODES`. -/
def LinePortDenotes (text : Bytes) : Prop :=
  ∀ host field before address, splitLast ':'.toUInt8 (nodeAddress field) = some (before, text) →
    parseAddress host field = .ok address → NumberIn text 1 65535

/-- The texts of the first and the last slot of a range in a line of `CLUSTER NODES`. -/
def slotTexts (entry : Bytes) : List Bytes :=
  match splitFirst '-'.toUInt8 entry with
  | (slot, none) => [slot]
  | (start, some stop) => [start, stop]

/-- The slots of a range that is entered into a table. -/
def SlotDenotes (text : Bytes) : Prop :=
  ∀ entry id table filled, text ∈ slotTexts entry →
    fillSlots id table [parseSlotText entry] = .ok filled →
      NumberIn text 0 (valkeyClusterSlots - 1)

/-- The port of an initial node that is accepted. -/
def OptionPortDenotes (text : Bytes) : Prop :=
  ∀ cc addr before next, findByAddr cc.nodes addr = none →
    splitLast ':'.toUInt8 addr = some (before, text) →
      valkeyClusterSetOptionAddNode cc addr = (.ok, next) → NumberIn text 1 65535

theorem redirectPortDenotes_iff (text : Bytes) :
    RedirectPortDenotes text ↔ ¬WrapsInto text 1 65535 := by
  constructor
  · intro denotes wraps
    have noColon : ':'.toUInt8 ∉ text := not_mem_digits (by decide) wraps.1.2
    have noSpace : ' '.toUInt8 ∉ text := not_mem_digits (by decide) wraps.1.2
    have noNul : 0 ∉ text := not_mem_digits (by decide) wraps.1.2
    have words := fields_redirect (ascii "M") (ascii "0") (ascii "h" ++ ':'.toUInt8 :: text)
      (by decide) (by simp [noSpace]; decide) (by simp)
      (by simp [noNul]; decide)
    have found := splitLast_append (ascii "h") noColon
    have inRange := (portInRange_iff _).mpr (vkAtoi_of_wraps (by decide) wraps)
    generalize ascii "M" ++ ' '.toUInt8 ::
      (ascii "0" ++ ' '.toUInt8 :: (ascii "h" ++ ':'.toUInt8 :: text)) = str at words
    have third : (fields ' '.toUInt8 (cString str))[2]? = some
        (ascii "h" ++ ':'.toUInt8 :: text) := by
      rw [words]
      rfl
    have accepted : parseRedirect [] str =
        .ok ⟨redirectSlot str, ascii "h" ++ ':'.toUInt8 :: text, ascii "h", vkAtoi text⟩ := by
      rw [parseRedirect, third]
      simp only [found, inRange]
      rfl
    exact not_numberIn_of_wraps (by decide) wraps (denotes _ _ _ _ _ third found accepted)
  · intro apart host str field before redirect third found accepted
    have inRange : portInRange (vkAtoi text) = true := by
      by_contra outside
      simp [parseRedirect, third, found, outside] at accepted
    obtain ⟨lower, upper⟩ := (portInRange_iff _).mp inRange
    exact (numberIn_or_wraps lower upper).resolve_right apart

theorem linePortDenotes_iff (text : Bytes) : LinePortDenotes text ↔ ¬WrapsInto text 1 65535 := by
  constructor
  · intro denotes wraps
    have noColon : ':'.toUInt8 ∉ text := not_mem_digits (by decide) wraps.1.2
    have clean : '@'.toUInt8 ∉ text := not_mem_digits (by decide) wraps.1.2
    have noAt : '@'.toUInt8 ∉ ascii "h" ++ ':'.toUInt8 :: text := by
      simp [clean]
      decide
    have found := splitLast_append (ascii "h") noColon
    have inRange := (portInRange_iff _).mpr (vkAtoi_of_wraps (by decide) wraps)
    have whole : nodeAddress (ascii "h" ++ ':'.toUInt8 :: text) = ascii "h" ++
        ':'.toUInt8 :: text := by
      rw [nodeAddress, splitFirst_none noAt]
    have accepted : parseAddress [] (ascii "h" ++ ':'.toUInt8 :: text) =
        .ok (ascii "h" ++ ':'.toUInt8 :: text, ascii "h", vkAtoi text) := by
      rw [nodeAddress] at whole
      rw [parseAddress, whole]
      simp only [found, inRange]
      rfl
    exact not_numberIn_of_wraps (by decide) wraps
      (denotes _ _ _ _ ((congrArg _ whole).trans found) accepted)
  · intro apart host field before address found accepted
    have inRange : portInRange (vkAtoi text) = true := by
      by_contra outside
      rw [nodeAddress] at found
      simp [parseAddress, found, outside] at accepted
    obtain ⟨lower, upper⟩ := (portInRange_iff _).mp inRange
    exact (numberIn_or_wraps lower upper).resolve_right apart

/-- What is below the number of slots as a `uint32_t` was not negative. -/
theorem slot_of_toUint32 {text : Bytes} (small : toUint32 (vkAtoi text) < valkeyClusterSlots) :
    ((0 : Nat) : Int) ≤ vkAtoi text ∧ vkAtoi text ≤ (valkeyClusterSlots - 1 : Nat) := by
  have bounds := vkAtoi_bounds text
  unfold toUint32 valkeyClusterSlots at small
  unfold valkeyClusterSlots
  unfold largestInt at bounds
  omega

theorem slotDenotes_iff (text : Bytes) :
    SlotDenotes text ↔ ¬WrapsInto text 0 (valkeyClusterSlots - 1) := by
  constructor
  · intro denotes wraps
    have noDash : '-'.toUInt8 ∉ text := not_mem_digits (by decide) wraps.1.2
    have own : text ∈ slotTexts text := by simp [slotTexts, splitFirst_none noDash]
    obtain ⟨lower, upper⟩ := vkAtoi_of_wraps (by decide) wraps
    have parsed : parseSlotText text = ⟨toUint32 (vkAtoi text), toUint32 (vkAtoi text)⟩ := by
      rw [parseSlotText, splitFirst_none noDash]
    have inside : toUint32 (vkAtoi text) < valkeyClusterSlots := by
      unfold valkeyClusterSlots at upper ⊢
      unfold toUint32
      omega
    have accepted : fillSlots 0 [] [parseSlotText text] = .ok [] := by
      rw [parsed, fillSlots, if_neg (by simp only; omega)]
      simp [fillRange, fillSlots, Checked.bind_ok]
    exact not_numberIn_of_wraps (by decide) wraps (denotes text 0 [] [] own accepted)
  · intro apart entry id table filled own accepted
    have both : (parseSlotText entry).start ≤ (parseSlotText entry).stop ∧
        (parseSlotText entry).stop < valkeyClusterSlots := by
      by_contra outside
      rw [fillSlots, if_pos (by omega)] at accepted
      cases accepted
    have small : toUint32 (vkAtoi text) < valkeyClusterSlots := by
      unfold slotTexts at own
      unfold parseSlotText at both
      split at own
      · rename_i slot single
        rw [single] at both
        rw [List.mem_singleton.mp own]
        exact both.2
      · rename_i start stop range
        rw [range] at both
        dsimp only at both
        rcases List.mem_pair.mp own with rfl | rfl
        · omega
        · exact both.2
    obtain ⟨lower, upper⟩ := slot_of_toUint32 small
    exact (numberIn_or_wraps lower upper).resolve_right apart

/-- Here only the sign of the number is checked. -/
theorem redirectSlotDenotes_iff (text : Bytes) :
    RedirectSlotDenotes text ↔
      ¬WrapsInto text 0 largestInt ∧ ¬NumberIn text valkeyClusterSlots largestInt := by
  have bounded : (0 ≤ vkAtoi text → NumberIn text 0 (valkeyClusterSlots - 1)) ↔ _ :=
    lower_check_iff (Nat.zero_le _) (by decide)
  refine Iff.trans ?_ bounded
  constructor
  · intro denotes passed
    have decimal : DecimalText text := by
      by_contra other
      have refused := vkAtoi_of_other other
      omega
    have noSpace : ' '.toUInt8 ∉ text := not_mem_digits (by decide) decimal.2
    have noNul : 0 ∉ text := not_mem_digits (by decide) decimal.2
    have words := fields_redirect (ascii "M") text (ascii "h:1") (by simp [noSpace]; decide)
      (by decide) (by decide) (by simp [noNul]; decide)
    generalize ascii "M" ++ ' '.toUInt8 :: (text ++ ' '.toUInt8 :: ascii "h:1") = str at words
    have slot : redirectSlot str = vkAtoi text := by
      rw [redirectSlot, words]
      rfl
    have accepted : parseRedirect [] str =
        .ok ⟨redirectSlot str, ascii "h:1", ascii "h", vkAtoi (ascii "1")⟩ := by
      rw [parseRedirect, words]
      rfl
    exact denotes [] str _ (by rw [words]; rfl) accepted (slot.symm ▸ passed)
  · intro checked host str redirect second accepted passed
    have own : redirectSlot str = vkAtoi text := by
      rw [redirectSlot, List.getD_eq_getElem?_getD, second]
      rfl
    have slot : redirect.slot = vkAtoi text := (slot_of_parseRedirect accepted).trans own
    exact checked (slot ▸ passed)

/-- Here, too, there is no upper bound. -/
theorem optionPortDenotes_iff (text : Bytes) :
    OptionPortDenotes text ↔ ¬WrapsInto text 1 largestInt ∧ ¬NumberIn text 65536 largestInt := by
  have bounded : (1 ≤ vkAtoi text → NumberIn text 1 65535) ↔ _ :=
    lower_check_iff (by decide) (by decide)
  refine Iff.trans ?_ bounded
  constructor
  · intro denotes positive
    have decimal : DecimalText text := by
      by_contra other
      have refused := vkAtoi_of_other other
      omega
    have noColon : ':'.toUInt8 ∉ text := not_mem_digits (by decide) decimal.2
    have found := splitLast_append (ascii "h") noColon
    have accepted : valkeyClusterSetOptionAddNode emptyContext (ascii "h" ++ ':'.toUInt8 :: text) =
        (.ok, { emptyContext with
          nodes := [optionNode 0 (ascii "h" ++ ':'.toUInt8 :: text) (ascii "h") (vkAtoi text)]
          nextNode := 1 }) := by
      unfold valkeyClusterSetOptionAddNode
      rw [found]
      simp only [if_neg decimal.1, if_neg (Int.not_le.mpr (by omega : 0 < vkAtoi text))]
      rfl
    exact denotes _ _ _ _ rfl found accepted
  · intro checked cc addr before next unknown found accepted
    apply checked
    by_contra refused
    unfold valkeyClusterSetOptionAddNode at accepted
    rw [unknown, found] at accepted
    dsimp only at accepted
    rw [if_pos (by omega : vkAtoi text ≤ 0)] at accepted
    split at accepted
    · cases accepted
    · split at accepted
      · cases accepted
      · cases accepted

/-- `vk_atoi` reads what does not wrap around, and each caller accepts only what lies in its range
where nothing wraps into it; the two checks with one bound also need no number above it. -/
theorem numbers_read_exactly_iff (text : Bytes) :
    (ReadsExactly text ↔ ¬WrapsInto text 0 largestInt) ∧
      (RedirectPortDenotes text ↔ ¬WrapsInto text 1 65535) ∧
      (RedirectSlotDenotes text ↔
        ¬WrapsInto text 0 largestInt ∧ ¬NumberIn text valkeyClusterSlots largestInt) ∧
      (LinePortDenotes text ↔ ¬WrapsInto text 1 65535) ∧
      (SlotDenotes text ↔ ¬WrapsInto text 0 (valkeyClusterSlots - 1)) ∧
      (OptionPortDenotes text ↔ ¬WrapsInto text 1 largestInt ∧ ¬NumberIn text 65536 largestInt) :=
  ⟨readsExactly_iff text, redirectPortDenotes_iff text, redirectSlotDenotes_iff text,
    linePortDenotes_iff text, slotDenotes_iff text, optionPortDenotes_iff text⟩

/-- `2 ^ 32 + 1` is read as 1, and passes for a port. -/
theorem number_wraps : ¬ReadsExactly (ascii "4294967297") ∧
    ¬RedirectPortDenotes (ascii "4294967297") ∧ ¬LinePortDenotes (ascii "4294967297") ∧
    ¬SlotDenotes (ascii "4294967297") ∧ ¬OptionPortDenotes (ascii "4294967297") := by
  have wraps (low : Nat) (high : Nat) (lower : low ≤ 1) (upper : 1 ≤ high) :
      WrapsInto (ascii "4294967297") low high := by
    have value : Decimal.accumulate 0 (ascii "4294967297") = 4294967297 := by decide
    refine ⟨⟨by decide, by decide +kernel⟩, ?_, ?_⟩
    · rw [value]
      decide
    · rw [value]
      omega
  refine ⟨?_, ?_, ?_, ?_, ?_⟩
  · rw [readsExactly_iff, not_not]
    exact wraps 0 largestInt (by decide) (by decide)
  · rw [redirectPortDenotes_iff, not_not]
    exact wraps 1 65535 (by decide) (by decide)
  · rw [linePortDenotes_iff, not_not]
    exact wraps 1 65535 (by decide) (by decide)
  · rw [slotDenotes_iff, not_not]
    exact wraps 0 (valkeyClusterSlots - 1) (by decide) (by decide)
  · rw [optionPortDenotes_iff]
    exact fun both => both.1 (wraps 1 largestInt (by decide) (by decide))

end Libvalkey
