import Libvalkey.Command.Parse
import Libvalkey.Format.Sds
import Libvalkey.Foundation.Checked

/-! # The encoders

`valkey.c`: a command is measured first, and written into memory of that size then. -/

namespace Libvalkey.Format

open Checked

/-! ## Measuring -/

/-- The loop of `countDigits`. -/
def countDigitsFrom (result : Nat) : Nat → Nat → Nat
  | 0, _ => result
  | fuel + 1, v =>
      if v < 10 then result
      else if v < 100 then result + 1
      else if v < 1000 then result + 2
      else if v < 10000 then result + 3
      else countDigitsFrom (result + 4) fuel (v / 10000)

def countDigits (v : Nat) : Nat := countDigitsFrom 1 (v + 1) v

/-- Lengths are in `size_t`. -/
def bulklen (len : Nat) : Nat := (1 + countDigits len + 2 + len + 2) % 2 ^ 64

theorem countDigits_eq (v : Nat) : countDigits v = (Decimal.ofNat v).length := by
  suffices counted : ∀ fuel result v, v < fuel →
      countDigitsFrom result fuel v + 1 = result + (Decimal.ofNat v).length by
    have whole := counted (v + 1) 1 v (Nat.lt_succ_self v)
    unfold countDigits
    omega
  intro fuel
  induction fuel with
  | zero => intro result v impossible; omega
  | succ fuel induction =>
      intro result v enough
      have few (digits : Nat) (lower : 10 ^ digits ≤ v) (upper : v < 10 ^ (digits + 1)) :
          (Decimal.ofNat v).length = digits + 1 := Decimal.length_ofNat_eq lower upper
      rw [countDigitsFrom]
      split_ifs
      · rw [Decimal.ofNat_of_lt_ten ‹v < 10›]
        rfl
      · rw [few 1 (by omega) (by omega)]
      · rw [few 2 (by omega) (by omega)]
      · rw [few 3 (by omega) (by omega)]
      · rw [induction _ _ (by omega), Decimal.length_ofNat_div (show 10 ^ 4 ≤ v by omega),
          Nat.add_assoc, Nat.add_comm 4]
        rfl

/-! ## Writing -/

/-- What the standard leaves undefined, or an assertion forbids. -/
inductive Fault
  | outOfBounds
  | nullPointer
  | overflow
  | assertion
  | argument
  deriving DecidableEq, Repr

/-- Allocated memory, as far as it has been written. -/
structure Block where
  size : Nat
  bytes : Bytes
  deriving DecidableEq, Repr

/-- What is written lies in the memory that has been allocated. -/
def Block.store (block : Block) (pos : Int) (text : Bytes) : Except Fault Block :=
  if 0 ≤ pos ∧ pos + text.length ≤ block.size then
    .ok ⟨block.size,
      block.bytes.take pos.toNat ++ text ++ block.bytes.drop (pos.toNat + text.length)⟩
  else .error .outOfBounds

/-- The length in front of an argument. -/
def bulkHeader (len : Nat) : Bytes := '$'.toUInt8 :: Decimal.ofNat len ++ [CR, LF]

/-- The number in front of the arguments. -/
def countHeader (argc : Nat) : Bytes := '*'.toUInt8 :: Decimal.ofNat argc ++ [CR, LF]

/-- The loop that writes the arguments. `sprintf` ends its text with a NUL, and `wrap` is
the arithmetic of the position. -/
def writeArguments (wrap : Int → Int) (block : Block) (pos : Int) :
    List Bytes → Except Fault (Block × Int)
  | [] => .ok (block, pos)
  | arg :: argv => do
      let block ← block.store pos (bulkHeader arg.length ++ [0])
      let pos := wrap (pos + (bulkHeader arg.length).length)
      let block ← block.store pos arg
      let pos := wrap (pos + arg.length)
      let block ← block.store pos [CR]
      let pos := wrap (pos + 1)
      let block ← block.store pos [LF]
      writeArguments wrap block (wrap (pos + 1)) argv

/-- The command at the protocol level, in a block of the size `totlen + 1`. -/
def writeCommand (wrap : Int → Int) (block : Block) (totlen : Int) (argv : List Bytes) :
    Except Fault Block := do
  let block ← block.store 0 (countHeader argv.length ++ [0])
  let (block, pos) ← writeArguments wrap block (countHeader argv.length).length argv
  if pos ≠ totlen then .error .assertion
  block.store pos [0]

/-- What a block starts with. -/
def Block.Holds (block : Block) (text : Bytes) : Prop := text <+: block.bytes

theorem Block.Holds.of_append {block : Block} {text more : Bytes}
    (holds : block.Holds (text ++ more)) : block.Holds text :=
  (List.prefix_append text more).trans holds

/-- What is written behind the text of a block follows it. -/
theorem Block.Holds.store {block : Block} {text : Bytes} (holds : block.Holds text) (more : Bytes)
    (room : text.length + more.length ≤ block.size) :
    ∃ next, block.store text.length more = .ok next ∧ next.size = block.size ∧
      next.Holds (text ++ more) := by
  have inside : (0 : Int) ≤ text.length ∧ (text.length : Int) + more.length ≤ block.size := by omega
  refine ⟨_, if_pos inside, rfl, ?_⟩
  rw [Int.toNat_natCast, ← List.prefix_iff_eq_take.mp holds]
  exact List.prefix_append (text ++ more) _

theorem length_bulkHeader (arg : Bytes) :
    (bulkHeader arg.length).length + arg.length + 2 = (formatBulk arg).length := by
  simp only [bulkHeader, formatBulk, List.length_append, List.length_cons, List.length_nil]
  omega

theorem formatBulk_eq_header (arg : Bytes) :
    formatBulk arg = bulkHeader arg.length ++ arg ++ [CR] ++ [LF] := by
  simp [formatBulk, bulkHeader]

/-- The arguments are written behind each other, where there is room for them and positions
do not wrap around. -/
theorem writeArguments_eq {wrap : Int → Int} {block : Block} {text : Bytes} (argv : List Bytes)
    (exact_ : ∀ n : Nat, n ≤ block.size → wrap n = n) (holds : block.Holds text)
    (room : text.length + (argv.flatMap formatBulk).length < block.size) :
    ∃ next, writeArguments wrap block text.length argv =
        .ok (next, (text.length + (argv.flatMap formatBulk).length : Nat)) ∧
      next.size = block.size ∧ next.Holds (text ++ argv.flatMap formatBulk) := by
  induction argv generalizing block text with
  | nil => exact ⟨block, by simp [writeArguments], rfl, by simpa using holds⟩
  | cons arg argv induction =>
      have size := length_bulkHeader arg
      rw [List.flatMap_cons, List.length_append] at room
      have moved (front more : Bytes) (inside : front.length + more.length ≤ block.size) :
          wrap ((front.length : Int) + more.length) = (front ++ more).length := by
        rw [List.length_append, ← exact_ _ inside, Int.natCast_add]
      obtain ⟨first, firstResult, firstSize, firstHolds⟩ :=
        holds.store (bulkHeader arg.length ++ [0]) (by simp; omega)
      rw [← List.append_assoc] at firstHolds
      obtain ⟨second, secondResult, secondSize, secondHolds⟩ :=
        firstHolds.of_append.store arg (by simp; omega)
      obtain ⟨third, thirdResult, thirdSize, thirdHolds⟩ :=
        secondHolds.store [CR] (by simp; omega)
      obtain ⟨fourth, fourthResult, fourthSize, fourthHolds⟩ :=
        thirdHolds.store [LF] (by simp; omega)
      have sizes : fourth.size = block.size := by
        rw [fourthSize, thirdSize, secondSize, firstSize]
      have written : text ++ bulkHeader arg.length ++ arg ++ [CR] ++ [LF] = text ++
          formatBulk arg := by
        rw [formatBulk_eq_header]
        simp
      rw [written] at fourthHolds
      obtain ⟨last, lastResult, lastSize, lastHolds⟩ := induction (sizes ▸ exact_) fourthHolds (by
        rw [sizes, List.length_append]
        omega)
      refine ⟨last, ?_, lastSize.trans sizes, ?_⟩
      · rw [writeArguments, firstResult, bind_ok]
        dsimp only
        rw [moved _ _ (by omega), secondResult, bind_ok, moved _ _ (by simp; omega), thirdResult,
          bind_ok]
        have afterCR := moved (text ++ bulkHeader arg.length ++ arg) [CR] (by simp; omega)
        have afterLF := moved (text ++ bulkHeader arg.length ++ arg ++ [CR]) [LF] (by simp; omega)
        rw [List.length_singleton, Int.natCast_one] at afterCR afterLF
        rw [afterCR, fourthResult, bind_ok, afterLF, written, lastResult, List.length_append,
          List.flatMap_cons, List.length_append, Nat.add_assoc]
      · rw [List.flatMap_cons, ← List.append_assoc]
        exact lastHolds

/-- The encoding of a command. -/
abbrev encoding (argv : List Bytes) : Bytes := Libvalkey.valkeyFormatCommandArgv argv

theorem encoding_eq (argv : List Bytes) :
    encoding argv = countHeader argv.length ++ argv.flatMap formatBulk := by
  simp [encoding, Libvalkey.valkeyFormatCommandArgv, countHeader]

theorem writeCommand_eq (wrap : Int → Int) {size : Nat} {argv : List Bytes}
    (exact_ : ∀ n : Nat, n ≤ size → wrap n = n) (room : (encoding argv).length + 1 ≤ size) :
    ∃ block, writeCommand wrap ⟨size, []⟩ (encoding argv).length argv = .ok block ∧
      block.size = size ∧ block.Holds (encoding argv ++ [0]) := by
  have whole := congrArg List.length (encoding_eq argv)
  rw [List.length_append] at whole
  have empty : Block.Holds ⟨size, []⟩ [] := List.nil_prefix
  obtain ⟨first, firstResult, firstSize, firstHolds⟩ :=
    empty.store (countHeader argv.length ++ [0]) (by simp; omega)
  rw [← List.append_assoc, List.nil_append] at firstHolds
  change first.size = size at firstSize
  obtain ⟨second, secondResult, secondSize, secondHolds⟩ :=
    writeArguments_eq argv (firstSize ▸ exact_) firstHolds.of_append (by rw [firstSize]; omega)
  rw [← encoding_eq] at secondHolds
  obtain ⟨third, thirdResult, thirdSize, thirdHolds⟩ := secondHolds.store [0] (by
    rw [secondSize, firstSize]
    exact room)
  refine ⟨third, ?_, by rw [thirdSize, secondSize, firstSize], thirdHolds⟩
  rw [List.length_nil, Int.natCast_zero] at firstResult
  rw [writeCommand, firstResult, bind_ok, secondResult, bind_ok]
  dsimp only
  rw [← whole, if_neg (not_not.mpr rfl)]
  exact thirdResult

/-! ## Arguments -/

/-- An argument with its length. -/
structure Sized where
  memory : Bytes
  len : Nat
  inside : len ≤ memory.length

/-- `argv`, and `argvlen` unless it is NULL. -/
inductive Argv
  | sized (argv : List Sized)
  | terminated (argv : List Bytes)

/-- The argument at each place. -/
def Argv.texts : Argv → List Bytes
  | .sized argv => argv.map fun arg => arg.memory.take arg.len
  | .terminated argv => argv.map cString

/-- The number of arguments is an `int`. -/
structure ArgVector where
  argv : Argv
  short : argv.texts.length < 2 ^ 31

def ArgVector.texts (argv : ArgVector) : List Bytes := argv.argv.texts

/-! ## The encoders -/

/-- What an encoder returns, with what it has stored in `*target`. -/
inductive Outcome (Target : Type)
  | failed (code : Int)
  | done (target : Target) (len : Int)
  deriving DecidableEq, Repr

def toInt64 (value : Int) : Int := (value + 2 ^ 63) % 2 ^ 64 - 2 ^ 63

/-- The number of bytes that a command needs. -/
def totalLength (argv : List Bytes) : Nat :=
  argv.foldl (fun totlen arg => (totlen + bulklen arg.length) % 2 ^ 64)
    (1 + countDigits argv.length + 2)

/-- `valkeyFormatCommandArgv`, for a target that is not NULL. -/
def valkeyFormatCommandArgv (memory : Memory) (argv : ArgVector) :
    Except Fault (Outcome Block) := do
  let totlen := totalLength argv.texts
  if memory 0 then
    let block ← writeCommand (fun pos => toSize pos) ⟨(totlen + 1) % 2 ^ 64, []⟩ totlen argv.texts
    return .done block (toInt64 totlen)
  else return .failed (-1)

/-- The loop that appends the arguments. That a string has no room is not checked. -/
def appendArguments (memory : Memory) (cmd : Sds) : List Bytes → Except Fault Sds
  | [] => .ok cmd
  | arg :: argv =>
      match sdscatfmt memory cmd [.char '$'.toUInt8, .unsigned arg.length, .char CR, .char LF] with
      | (none, _) => .error .nullPointer
      | (some cmd, memory) =>
          match sdscatlen memory cmd arg with
          | (none, _) => .error .nullPointer
          | (some cmd, memory) =>
              match sdscatlen memory cmd [CR, LF] with
              | (none, _) => .error .nullPointer
              | (some cmd, memory) => appendArguments memory cmd argv

/-- `valkeyFormatSdsCommandArgv`, for a target that is not NULL. -/
def valkeyFormatSdsCommandArgv (memory : Memory) (argv : ArgVector) :
    Except Fault (Outcome Sds) := do
  let totlen := totalLength argv.texts
  match sdsempty memory with
  | (none, _) => return .failed (-1)
  | (some cmd, memory) =>
      match sdsMakeRoomFor memory cmd totlen with
      | (none, _) => return .failed (-1)
      | (some cmd, memory) =>
          match sdscatfmt memory cmd
            [.char '*'.toUInt8, .signed argv.texts.length, .char CR, .char LF] with
          | (none, _) => .error .nullPointer
          | (some cmd, memory) =>
              let cmd ← appendArguments memory cmd argv.texts
              if cmd.contents.length ≠ totlen then .error .assertion
              return .done cmd (toInt64 totlen)

/-! ## What they produce -/

theorem bulklen_eq {arg : Bytes} (small : (formatBulk arg).length < 2 ^ 64) :
    bulklen arg.length = (formatBulk arg).length := by
  have size := length_bulkHeader arg
  have header : (bulkHeader arg.length).length = (Decimal.ofNat arg.length).length + 3 := by
    simp [bulkHeader]
  rw [bulklen, countDigits_eq, Nat.mod_eq_of_lt (by omega)]
  omega

theorem totalLength_eq {argv : List Bytes} (small : (encoding argv).length < 2 ^ 64) :
    totalLength argv = (encoding argv).length := by
  have header : 1 + countDigits argv.length + 2 = (countHeader argv.length).length := by
    rw [countDigits_eq]
    simp only [countHeader, List.length_append, List.length_cons, List.length_nil]
    omega
  rw [encoding_eq, List.length_append] at small
  rw [encoding_eq, List.length_append, totalLength, header]
  clear header
  generalize (countHeader argv.length).length = start at small ⊢
  induction argv generalizing start with
  | nil => rfl
  | cons arg argv induction =>
      rw [List.flatMap_cons, List.length_append] at small
      rw [List.foldl_cons, bulklen_eq (by omega), Nat.mod_eq_of_lt (by omega),
        induction _ (by omega), List.flatMap_cons, List.length_append, Nat.add_assoc]

/-- The outcome of an encoder that has been given the memory it asked for. -/
def Outcome.Holds (outcome : Outcome Block) (text : Bytes) : Prop :=
  ∃ block, outcome = .done block text.length ∧ text.length + 1 ≤ block.size ∧
    block.Holds (text ++ [0])

theorem toInt64_of_small {n : Nat} (small : n < 2 ^ 63) : toInt64 n = n := by
  unfold toInt64
  omega

/-- Whatever the length, a command that fits the memory is written as it has been measured. -/
theorem valkeyFormatCommandArgv_done {memory : Memory} (granted : memory 0 = true)
    {argv : ArgVector} (small : (encoding argv.texts).length + 1 < 2 ^ 64) :
    ∃ block, valkeyFormatCommandArgv memory argv =
        .ok (.done block (toInt64 (encoding argv.texts).length)) ∧
      block.size = (encoding argv.texts).length + 1 ∧ block.Holds (encoding argv.texts ++ [0]) := by
  have exact_ (n : Nat) (inside : n ≤ (encoding argv.texts).length + 1) :
      (fun pos => (toSize pos : Int)) n = n := by
    simp only [toSize]
    omega
  obtain ⟨block, result, size, holds⟩ :=
    writeCommand_eq (fun pos => toSize pos) exact_ (Nat.le_refl _)
  refine ⟨block, ?_, size, holds⟩
  rw [valkeyFormatCommandArgv, totalLength_eq (by omega)]
  simp only [granted, if_true]
  rw [Nat.mod_eq_of_lt (by omega), result, bind_ok]
  rfl

theorem valkeyFormatCommandArgv_failed {memory : Memory} (refused : memory 0 = false)
    (argv : ArgVector) : valkeyFormatCommandArgv memory argv = .ok (.failed (-1)) := by
  simp [valkeyFormatCommandArgv, refused]
  rfl

theorem valkeyFormatCommandArgv_eq (memory : Memory) {argv : ArgVector}
    (small : (encoding argv.texts).length < 2 ^ 63) :
    ∃ outcome, valkeyFormatCommandArgv memory argv = .ok outcome ∧
      if memory 0 then outcome.Holds (encoding argv.texts) else outcome = .failed (-1) := by
  cases granted : memory 0 with
  | false => exact ⟨_, valkeyFormatCommandArgv_failed granted argv, by simp⟩
  | true =>
      obtain ⟨block, result, size, holds⟩ :=
        valkeyFormatCommandArgv_done granted
          (show (encoding argv.texts).length + 1 < 2 ^ 64 by omega)
      rw [toInt64_of_small small] at result
      exact ⟨_, result, by simpa [Outcome.Holds, size] using holds⟩

/-- In room that is enough the arguments are appended one by one. -/
theorem appendArguments_eq {memory : Memory} {cmd : Sds} {argv : List Bytes}
    (room : (argv.flatMap formatBulk).length ≤ cmd.room)
    (small : (argv.flatMap formatBulk).length < 2 ^ 64) :
    appendArguments memory cmd argv = .ok (cmd.append (argv.flatMap formatBulk)) := by
  induction argv generalizing cmd with
  | nil => simp [appendArguments, Sds.append]
  | cons arg argv induction =>
      have size := length_bulkHeader arg
      rw [List.flatMap_cons, List.length_append] at room small
      have header : [FmtPiece.char '$'.toUInt8, .unsigned arg.length, .char CR, .char LF].flatMap
          (·.text) = bulkHeader arg.length := by
        simp [FmtPiece.text, ull2string_eq (show arg.length < 2 ^ 64 by omega), bulkHeader]
      have given : ∀ piece ∈ [FmtPiece.char '$'.toUInt8, .unsigned arg.length, .char CR, .char LF],
          piece.text ≠ [] := by
        simp [FmtPiece.text, ull2string_eq (show arg.length < 2 ^ 64 by omega),
          Decimal.ofNat_ne_nil]
      rw [appendArguments, sdscatfmt_of_room given (by rw [header]; omega), header]
      dsimp only
      rw [sdscatlen_of_room (by simp only [Sds.append]; omega)]
      dsimp only
      rw [sdscatlen_of_room (by simp only [Sds.append]; simp; omega)]
      dsimp only
      rw [Sds.append_append, Sds.append_append]
      have written : bulkHeader arg.length ++ arg ++ [CR, LF] = formatBulk arg := by
        rw [formatBulk_eq_header]
        simp
      rw [← List.append_assoc, written, induction (by simp only [Sds.append]; omega) (by omega),
        Sds.append_append, List.flatMap_cons]

theorem valkeyFormatSdsCommandArgv_eq (memory : Memory) {argv : ArgVector}
    (small : (encoding argv.texts).length < 2 ^ 63) :
    ∃ outcome, valkeyFormatSdsCommandArgv memory argv = .ok outcome ∧
      if memory 0 && memory 1 then
        ∃ cmd, outcome = .done cmd (encoding argv.texts).length ∧ cmd.contents = encoding argv.texts
      else outcome = .failed (-1) := by
  have whole := congrArg List.length (encoding_eq argv.texts)
  have argc : (argv.texts.length : Int) < 2 ^ 63 := by
    have := argv.short
    unfold ArgVector.texts
    omega
  have header : [FmtPiece.char '*'.toUInt8, .signed argv.texts.length, .char CR, .char LF].flatMap
      (·.text) = countHeader argv.texts.length := by
    simp [FmtPiece.text, ll2string_eq (show argv.texts.length < 2 ^ 63 by omega), countHeader]
  have given : ∀ piece ∈ [FmtPiece.char '*'.toUInt8, .signed argv.texts.length, .char CR, .char LF],
      piece.text ≠ [] := by
    simp [FmtPiece.text, ll2string_eq (show argv.texts.length < 2 ^ 63 by omega),
      Decimal.ofNat_ne_nil]
  rw [List.length_append] at whole
  have positive : 0 < (countHeader argv.texts.length).length := by simp [countHeader]
  rw [valkeyFormatSdsCommandArgv, totalLength_eq (by omega)]
  have later : memory 1 = memory.rest 0 := rfl
  cases first : memory 0 with
  | false => exact ⟨.failed (-1), by simp [sdsempty, first]; rfl, by simp⟩
  | true =>
      obtain ⟨room, enough, result⟩ := sdsMakeRoomFor_small (s := ⟨[], 0⟩)
        (show 0 < (encoding argv.texts).length by omega) (by simpa using small) memory.rest
      simp only [sdsempty, first, if_true, result, later]
      cases memory.rest 0 with
      | false => exact ⟨.failed (-1), rfl, by simp⟩
      | true =>
          simp only [if_true]
          rw [sdscatfmt_of_room given (by rw [header]; dsimp only; omega), header]
          dsimp only
          rw [appendArguments_eq (by simp only [Sds.append]; omega) (by omega), bind_ok,
            Sds.append_append, ← encoding_eq]
          refine ⟨.done (Sds.append ⟨[], room⟩ (encoding argv.texts)) (encoding argv.texts).length,
            ?_, ?_⟩
          · rw [if_neg (by simp [Sds.append]), toInt64_of_small small]
            rfl
          · simp [Sds.append]

end Libvalkey.Format
