import Libvalkey.Cluster.Types

/-! # Strings that grow

`sds.c`, as far as commands are formatted with it: the room of a string, what is appended
to it, and how numbers are written. -/

namespace Libvalkey.Format

/-! ## Memory -/

/-- Which of the requests for memory to come are granted. -/
abbrev Memory := Nat → Bool

namespace Memory

/-- What follows the next request. -/
def rest (memory : Memory) : Memory := fun n => memory (n + 1)

/-- No request is refused. -/
def Ample (memory : Memory) : Prop := ∀ n, memory n = true

theorem Ample.rest {memory : Memory} (ample : memory.Ample) : memory.rest.Ample :=
  fun n => ample (n + 1)

end Memory

/-! ## Strings -/

/-- A string of `sds.c`: its contents, and `sdsavail`. -/
structure Sds where
  contents : Bytes
  room : Nat
  deriving DecidableEq, Repr

def maxPrealloc : Nat := 1024 * 1024

/-- The size of the header in front of a string of some length. -/
def sdsHdrSize (newlen : Nat) : Nat :=
  if newlen < 0xff then 3
  else if newlen < 0xffff then 5
  else if newlen < 0xffffffff then 9
  else 17

def sdsempty (memory : Memory) : Option Sds × Memory :=
  (if memory 0 then some ⟨[], 0⟩ else none, memory.rest)

/-- More is asked for than is needed. Lengths are in `size_t`. -/
def preallocated (reqlen : Nat) : Nat :=
  if reqlen < maxPrealloc then reqlen * 2 else (reqlen + maxPrealloc) % 2 ^ 64

def sdsMakeRoomFor (memory : Memory) (s : Sds) (addlen : Nat) : Option Sds × Memory :=
  if s.room ≥ addlen then (some s, memory)
  else
    let len := s.contents.length
    let reqlen := (len + addlen) % 2 ^ 64
    if reqlen ≤ len then (none, memory)
    else
      let newlen := preallocated reqlen
      if (sdsHdrSize newlen + newlen + 1) % 2 ^ 64 ≤ reqlen then (none, memory)
      else (if memory 0 then some ⟨s.contents, newlen - len⟩ else none, memory.rest)

/-- The bytes go where there is room for them. -/
def Sds.append (s : Sds) (text : Bytes) : Sds := ⟨s.contents ++ text, s.room - text.length⟩

def sdscatlen (memory : Memory) (s : Sds) (text : Bytes) : Option Sds × Memory :=
  let (grown, memory) := sdsMakeRoomFor memory s text.length
  (grown.map (·.append text), memory)

theorem sdsMakeRoomFor_contents {memory : Memory} {s grown : Sds} {addlen : Nat}
    (result : grown ∈ (sdsMakeRoomFor memory s addlen).1) : grown.contents = s.contents := by
  simp only [sdsMakeRoomFor] at result
  split_ifs at result
  · obtain rfl := Option.some.inj result
    rfl
  · cases result
  · cases result
  · obtain rfl := Option.some.inj result
    rfl
  · cases result

/-- What is appended stands behind the contents. -/
theorem sdscatlen_contents {memory : Memory} {s longer : Sds} {text : Bytes}
    (result : longer ∈ (sdscatlen memory s text).1) : longer.contents = s.contents ++ text := by
  obtain ⟨grown, room, rfl⟩ := Option.map_eq_some_iff.mp result
  rw [Sds.append, sdsMakeRoomFor_contents room]

/-- Where there is room nothing is asked for. -/
theorem sdscatlen_of_room {s : Sds} {text : Bytes} (room : text.length ≤ s.room)
    (memory : Memory) : sdscatlen memory s text = (some (s.append text), memory) := by
  simp [sdscatlen, sdsMakeRoomFor, room]

theorem sdsHdrSize_bounds (newlen : Nat) : 0 < sdsHdrSize newlen ∧ sdsHdrSize newlen ≤ 17 := by
  unfold sdsHdrSize
  split_ifs <;> omega

/-- A request that fits the address space is refused by the memory alone. -/
theorem sdsMakeRoomFor_small {s : Sds} {addlen : Nat} (short : s.room < addlen)
    (small : s.contents.length + addlen < 2 ^ 63) (memory : Memory) :
    ∃ room, addlen ≤ room ∧ sdsMakeRoomFor memory s addlen =
      (if memory 0 then some ⟨s.contents, room⟩ else none, memory.rest) := by
  have total : (s.contents.length + addlen) % 2 ^ 64 = s.contents.length + addlen :=
    Nat.mod_eq_of_lt (by omega)
  have bounds : s.contents.length + addlen ≤ preallocated (s.contents.length + addlen) ∧
      preallocated (s.contents.length + addlen) ≤ 2 ^ 63 + 2 ^ 21 := by
    unfold preallocated maxPrealloc
    split_ifs <;> omega
  have header := sdsHdrSize_bounds (preallocated (s.contents.length + addlen))
  refine ⟨preallocated (s.contents.length + addlen) - s.contents.length, by omega, ?_⟩
  simp only [sdsMakeRoomFor, total]
  rw [if_neg (by omega), if_neg (by omega), Nat.mod_eq_of_lt (by omega), if_neg (by omega)]

/-! ## Numbers -/

/-- `digits10`. Twelve digits are divided off at once. -/
def digits10From : Nat → Nat → Nat
  | 0, _ => 1
  | fuel + 1, v =>
      if v < 10 then 1
      else if v < 100 then 2
      else if v < 1000 then 3
      else if v < 1000000000000 then
        if v < 100000000 then
          if v < 1000000 then
            if v < 10000 then 4 else 5 + if v ≥ 100000 then 1 else 0
          else 7 + if v ≥ 10000000 then 1 else 0
        else if v < 10000000000 then 9 + if v ≥ 1000000000 then 1 else 0
        else 11 + if v ≥ 100000000000 then 1 else 0
      else 12 + digits10From fuel (v / 1000000000000)

def digits10 (v : Nat) : Nat := digits10From (v + 1) v

/-- `digits` of `ull2string`: the two digits of every number below 100. -/
def digitPairs : Bytes :=
  (List.range 100).flatMap fun n => [Decimal.digitByte (n / 10), Decimal.digitByte (n % 10)]

/-- The digits that `ull2string` writes in front of others, from the last ones on. `left`
is the number of places that are left: `next + 1`. -/
def writeDigits (value : Nat) (written : Bytes) : Nat → Option Bytes
  | 0 => if value > 0 then none else some written
  | 1 => if value ≥ 10 then none else some (Decimal.digitByte value :: written)
  | left + 2 =>
      if value = 0 then none
      else
        let i := value % 100 * 2
        writeDigits (value / 100) (digitPairs.getD i 0 :: digitPairs.getD (i + 1) 0 :: written) left

/-- `ull2string`. The text is empty where the buffer is too small. -/
def ull2string (dstlen value : Nat) : Bytes :=
  let length := digits10 value
  if length = 0 ∨ length ≥ dstlen then []
  else (writeDigits value [] length).getD []

def ll2string (dstlen : Nat) (svalue : Int) : Bytes :=
  if svalue < 0 then
    if dstlen < 2 then []
    else
      let digits := ull2string (dstlen - 1) svalue.natAbs
      if digits = [] then [] else '-'.toUInt8 :: digits
  else ull2string dstlen svalue.toNat

theorem digits10_eq (v : Nat) : digits10 v = (Decimal.ofNat v).length := by
  suffices counted : ∀ fuel v, v < fuel → digits10From fuel v = (Decimal.ofNat v).length from
    counted (v + 1) v (Nat.lt_succ_self v)
  intro fuel
  induction fuel with
  | zero => intro v impossible; omega
  | succ fuel induction =>
      intro v enough
      rw [digits10From]
      by_cases large : v < 1000000000000
      · have few (digits : Nat) (lower : 10 ^ digits ≤ v) (upper : v < 10 ^ (digits + 1)) :
            (Decimal.ofNat v).length = digits + 1 := Decimal.length_ofNat_eq lower upper
        split_ifs
        · rw [Decimal.ofNat_of_lt_ten ‹v < 10›]
          rfl
        · rw [few 1 (by omega) (by omega)]
        · rw [few 2 (by omega) (by omega)]
        · rw [few 3 (by omega) (by omega)]
        · rw [few 5 (by omega) (by omega)]
        · rw [few 4 (by omega) (by omega)]
        · rw [few 7 (by omega) (by omega)]
        · rw [few 6 (by omega) (by omega)]
        · rw [few 9 (by omega) (by omega)]
        · rw [few 8 (by omega) (by omega)]
        · rw [few 11 (by omega) (by omega)]
        · rw [few 10 (by omega) (by omega)]
      · rw [if_neg (by omega), if_neg (by omega), if_neg (by omega), if_neg large,
          induction _ (by omega), Decimal.length_ofNat_div (show 10 ^ 12 ≤ v by omega),
            Nat.add_comm]
        rfl

theorem digitPairs_getD {n : Nat} (small : n < 100) :
    digitPairs.getD (n * 2) 0 = Decimal.digitByte (n / 10) ∧
      digitPairs.getD (n * 2 + 1) 0 = Decimal.digitByte (n % 10) := by
  have all : ∀ n < 100, digitPairs.getD (n * 2) 0 = Decimal.digitByte (n / 10) ∧
      digitPairs.getD (n * 2 + 1) 0 = Decimal.digitByte (n % 10) := by decide +kernel
  exact all n small

/-- As many places as the number has digits are filled with them. -/
theorem writeDigits_eq {value left : Nat} (places : left = (Decimal.ofNat value).length)
    (written : Bytes) : writeDigits value written left = some (Decimal.ofNat value ++ written) := by
  induction left using Nat.twoStepInduction generalizing value written with
  | zero => exact absurd places.symm (by simp [Decimal.ofNat_ne_nil])
  | one =>
      have small : value < 10 := by
        by_contra large
        rw [Decimal.ofNat_of_ten_le (by omega)] at places
        have rest := List.length_pos_of_ne_nil (Decimal.ofNat_ne_nil (value / 10))
        simp only [List.length_append, List.length_singleton] at places
        omega
      rw [writeDigits, if_neg (by omega), Decimal.ofNat_of_lt_ten small]
      rfl
  | more left induction _ =>
      have large : 10 ≤ value := by
        by_contra small
        rw [Decimal.ofNat_of_lt_ten (by omega)] at places
        simp at places
      obtain ⟨tens, ones⟩ := digitPairs_getD (Nat.mod_lt value (show 0 < 100 by decide))
      rw [writeDigits, if_neg (by omega)]
      dsimp only
      rw [tens, ones]
      have lastTwo : Decimal.ofNat value ++ written = Decimal.ofNat (value / 10) ++
          Decimal.digitByte (value % 100 % 10) :: written := by
        rw [Decimal.ofNat_of_ten_le large, Nat.mod_mod_of_dvd value (by decide : 10 ∣ 100)]
        simp
      by_cases more : 100 ≤ value
      · have shorter : left = (Decimal.ofNat (value / 100)).length := by
          rw [Decimal.length_ofNat_div (show 10 ^ 2 ≤ value by omega)] at places
          exact Nat.add_right_cancel places
        have next : value / 10 % 10 = value % 100 / 10 := by omega
        rw [induction shorter, lastTwo, Decimal.ofNat_of_ten_le (show 10 ≤ value / 10 by omega),
          Nat.div_div_eq_div_mul, next]
        simp
      · have ended : left = 0 := by
          rw [Decimal.length_ofNat_eq (show 10 ^ 1 ≤ value by omega) (by omega)] at places
          omega
        have none : value / 100 = 0 := by omega
        have leading : value / 10 = value % 100 / 10 := by omega
        rw [ended, none, lastTwo, leading, Decimal.ofNat_of_lt_ten (by omega)]
        rfl

/-- The buffer of `sdscatfmt` has room for every number of 64 bits. -/
def llstrSize : Nat := 21

theorem ull2string_eq {value : Nat} (small : value < 2 ^ 64) :
    ull2string llstrSize value = Decimal.ofNat value := by
  have length := Decimal.length_ofNat_le (show value < 10 ^ (19 + 1) by omega)
  have given := List.length_pos_of_ne_nil (Decimal.ofNat_ne_nil value)
  rw [ull2string, digits10_eq, llstrSize, if_neg (by omega), writeDigits_eq rfl]
  simp

theorem ll2string_eq {value : Nat} (small : value < 2 ^ 63) :
    ll2string llstrSize value = Decimal.ofNat value := by
  rw [ll2string, if_neg (by omega), Int.toNat_natCast, ull2string_eq (by omega)]

/-! ## `sdscatfmt` -/

/-- A character of a format, or `%i` or `%U` with its argument. -/
inductive FmtPiece
  | char (byte : UInt8)
  | signed (num : Int)
  | unsigned (unum : Nat)
  deriving DecidableEq, Repr

def FmtPiece.text : FmtPiece → Bytes
  | .char byte => [byte]
  | .signed num => ll2string llstrSize num
  | .unsigned unum => ull2string llstrSize unum

/-- There is room for one character in front of every piece. -/
def sdscatfmt (memory : Memory) (s : Sds) : List FmtPiece → Option Sds × Memory
  | [] => (some s, memory)
  | piece :: f =>
      match sdsMakeRoomFor memory s 1 with
      | (none, memory) => (none, memory)
      | (some s, memory) =>
          match sdscatlen memory s piece.text with
          | (none, memory) => (none, memory)
          | (some s, memory) => sdscatfmt memory s f

theorem Sds.append_append (s : Sds) (left right : Bytes) :
    (s.append left).append right = s.append (left ++ right) := by
  simp [Sds.append, Nat.sub_sub]

theorem sdscatfmt_of_room {s : Sds} {f : List FmtPiece} (given : ∀ piece ∈ f, piece.text ≠ [])
    (room : (f.flatMap (·.text)).length ≤ s.room) (memory : Memory) :
    sdscatfmt memory s f = (some (s.append (f.flatMap (·.text))), memory) := by
  induction f generalizing s with
  | nil => simp [sdscatfmt, Sds.append]
  | cons piece f induction =>
      have some_ := List.length_pos_of_ne_nil (given piece List.mem_cons_self)
      rw [List.flatMap_cons, List.length_append] at room
      have one : sdsMakeRoomFor memory s 1 = (some s, memory) := by
        rw [sdsMakeRoomFor, if_pos (by omega)]
      rw [sdscatfmt, one]
      dsimp only
      rw [sdscatlen_of_room (by omega)]
      dsimp only
      rw [induction (fun other member => given other (List.mem_cons_of_mem _ member))
        (by simp only [Sds.append]; omega), Sds.append_append, List.flatMap_cons]

end Libvalkey.Format
