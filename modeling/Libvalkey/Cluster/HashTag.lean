import Libvalkey.Cluster.KeySlot
import Libvalkey.Cluster.Texts
import Libvalkey.Foundation.Crc

/-! # Hash tags

`crc16` computes the CRC16 of XMODEM, and the slot of a key is the CRC16 of its hash tag. -/

namespace Libvalkey

/-! ## CRC16 -/

/-- `x^16 + x^12 + x^5 + 1` -/
def xmodem : BitVec 16 := 0x1021#16

/-- The CRC16 of XMODEM, bit by bit. -/
def crc16Xmodem (bytes : Bytes) : BitVec 16 :=
  Crc.run xmodem 0#16 (bytes.flatMap fun byte => Crc.topBits 8 byte.toBitVec)

theorem crc16tab_eq (index : Fin 256) :
    crc16tab.getD index 0 = UInt16.ofBitVec (Crc.entry xmodem (BitVec.ofFin (w := 8) index)) := by
  revert index
  decide +kernel

/-- The index that one step looks up. -/
theorem crc16_index (crc : UInt16) (byte : UInt8) :
    (((crc >>> 8) ^^^ byte.toUInt16) &&& 0x00FF).toNat =
      (Crc.outgoing 8 crc.toBitVec ^^^ byte.toBitVec).toNat := by
  have low : byte.toNat % 2 ^ 8 = byte.toNat := Nat.mod_eq_of_lt byte.toNat_lt
  calc (((crc >>> 8) ^^^ byte.toUInt16) &&& 0x00FF).toNat
      = (crc.toNat >>> 8 ^^^ byte.toNat) &&& 2 ^ 8 - 1 := by simp
    _ = crc.toNat >>> 8 % 2 ^ 8 ^^^ byte.toNat % 2 ^ 8 := by
        rw [Nat.and_two_pow_sub_one_eq_mod, Nat.xor_mod_two_pow]
    _ = (Crc.outgoing 8 crc.toBitVec ^^^ byte.toBitVec).toNat := by
        rw [low]
        simp [Crc.outgoing]

theorem crc16_step (crc : UInt16) (byte : UInt8) :
    ((crc <<< 8) ^^^ crc16tab.getD (((crc >>> 8) ^^^ byte.toUInt16) &&& 0x00FF).toNat 0).toBitVec =
      Crc.run xmodem crc.toBitVec (Crc.topBits 8 byte.toBitVec) := by
  have found := crc16tab_eq (Crc.outgoing 8 crc.toBitVec ^^^ byte.toBitVec).toFin
  rw [BitVec.val_toFin] at found
  rw [crc16_index, found, Crc.run_chunk xmodem (by decide), UInt16.toBitVec_xor]
  rfl

theorem crc16_eq (bytes : Bytes) : (crc16 bytes).toBitVec = crc16Xmodem bytes := by
  have started (crc : UInt16) :
      (bytes.foldl (fun (crc : UInt16) byte => (crc <<< 8) ^^^
        crc16tab.getD (((crc >>> 8) ^^^ byte.toUInt16) &&& 0x00FF).toNat 0) crc).toBitVec =
      Crc.run xmodem crc.toBitVec (bytes.flatMap fun byte => Crc.topBits 8 byte.toBitVec) := by
    induction bytes generalizing crc with
    | nil => rfl
    | cons byte bytes induction =>
        rw [List.foldl_cons, induction, crc16_step, List.flatMap_cons, Crc.run_append]
  exact started 0

theorem keyHashSlot_hashedPart (key : Bytes) :
    keyHashSlot key = (crc16Xmodem (hashedPart key)).toNat % valkeyClusterSlots := by
  have mask : (0x3FFF : UInt16).toNat = 2 ^ 14 - 1 := rfl
  rw [keyHashSlot, ← crc16_eq, UInt16.toNat_and, mask, Nat.and_two_pow_sub_one_eq_mod]
  rfl

/-! ## Hash tags -/

/-- The tag stands between the first '{' and the first '}' after it, and is not empty. -/
def HashTag (key tag : Bytes) : Prop :=
  tag ≠ [] ∧ ∃ before after,
    key = before ++ '\x7b'.toUInt8 :: (tag ++ '\x7d'.toUInt8 :: after) ∧
      '\x7b'.toUInt8 ∉ before ∧ '\x7d'.toUInt8 ∉ tag

theorem hashedPart_of_tag {key tag : Bytes} (tagged : HashTag key tag) : hashedPart key = tag := by
  obtain ⟨filled, before, after, rfl, opens, closes⟩ := tagged
  rw [hashedPart, splitFirst_append opens]
  dsimp only
  rw [splitFirst_append closes]
  cases tag with
  | nil => exact absurd rfl filled
  | cons byte tag => rfl

theorem hashedPart_of_untagged {key : Bytes} (untagged : ∀ tag, ¬HashTag key tag) :
    hashedPart key = key := by
  by_cases opens : '\x7b'.toUInt8 ∈ key
  · obtain ⟨before, rest, rfl, first⟩ := List.eq_append_cons_of_mem opens
    rw [hashedPart, splitFirst_append first]
    dsimp only
    by_cases closes : '\x7d'.toUInt8 ∈ rest
    · obtain ⟨tag, after, rfl, next⟩ := List.eq_append_cons_of_mem closes
      have empty : tag = [] := by
        by_contra filled
        exact untagged tag ⟨filled, before, after, rfl, first, next⟩
      rw [empty, splitFirst_append List.not_mem_nil]
    · rw [splitFirst_none closes]
  · rw [hashedPart, splitFirst_none opens]

/-- The slot of a key is the CRC16 of its hash tag, or of the whole key where there is none,
modulo the number of slots. Keys with the same tag have the same slot. -/
theorem keyHashSlot_of_tag (key : Bytes) :
    (∀ tag, HashTag key tag →
        keyHashSlot key = (crc16Xmodem tag).toNat % valkeyClusterSlots) ∧
      ((∀ tag, ¬HashTag key tag) →
        keyHashSlot key = (crc16Xmodem key).toNat % valkeyClusterSlots) ∧
      ∀ other tag, HashTag key tag → HashTag other tag → keyHashSlot key = keyHashSlot other := by
  have ofTag {text tag : Bytes} (tagged : HashTag text tag) :
      keyHashSlot text = (crc16Xmodem tag).toNat % valkeyClusterSlots := by
    rw [keyHashSlot_hashedPart, hashedPart_of_tag tagged]
  refine ⟨fun tag tagged => ofTag tagged, fun untagged => ?_, fun other tag here there => ?_⟩
  · rw [keyHashSlot_hashedPart, hashedPart_of_untagged untagged]
  · rw [ofTag here, ofTag there]

end Libvalkey
