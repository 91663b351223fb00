import Libvalkey.Cluster.Calls
import Libvalkey.Format.Agreement

/-! # Lengths between the encoders and the senders

The encoders measure in `int` or return a `long long`, and the functions of the cluster
client pass an `int` on. -/

namespace Libvalkey.Format

open Checked

/-! ## `valkeyvFormatCommand` -/

/-- The function fails, or it returns how many bytes it has written into memory that is
large enough for them. -/
def Sound (result : Except Fault (Outcome Block)) : Prop :=
  ∃ outcome, result = .ok outcome ∧
    ∀ block len, outcome = .done block len → ∃ text, outcome.Holds text

/-- The arguments of the command that a format and its variadic arguments spell. -/
def formatArguments (printf : Printf) (format : Bytes) (args : List VaArg) : Option (List Bytes) :=
  (eventsOf printf (directives (cString format)) args).map fun (events, _) =>
    replay [] false events

/-- The arguments make a command of `2 ^ 31 - 1` bytes or more. No request for memory is
refused on the way to it, and the one for the command is granted or its size is not an `int`. -/
def Overruns (printf : Printf) (memory : Memory) (format : Bytes) (args : List VaArg) : Prop :=
  ∃ argv state, formatArguments printf format args = some argv ∧
    2 ^ 31 ≤ (encoding argv).length + 1 ∧ scan printf memory format args = .ok state ∧
    (state.memory 0 = true ∨ toInt32 (encoding argv).length = 2 ^ 31 - 1)

section Command

variable {printf : Printf} {memory : Memory} {format : Bytes} {args : List VaArg}

theorem sound_failed (code : Int) : Sound (.ok (.failed code)) := ⟨_, rfl, by simp⟩

theorem sound_buildCommand_iff {state : ScanState} (counted : state.Counted) :
    Sound (buildCommand state) ↔ (encoding state.curargv).length + 1 < 2 ^ 31 ∨
      state.memory 0 = false ∧ toInt32 (encoding state.curargv).length ≠ 2 ^ 31 - 1 := by
  by_cases small : (encoding state.curargv).length + 1 < 2 ^ 31
  · obtain ⟨outcome, result, holds⟩ := buildCommand_small counted small
    simp only [small, true_or, iff_true]
    refine ⟨outcome, result, fun block len done => ?_⟩
    split at holds
    · exact ⟨_, holds⟩
    · cases done.symm.trans holds
  · simp only [small, false_or]
    constructor
    · rintro ⟨outcome, result, sound⟩
      cases outcome with
      | done block len => exact absurd (buildCommand_done counted result) small
      | failed code =>
          rw [buildCommand, totlen_eq counted] at result
          split at result
          · cases result
          · rename_i notMax
            split at result
            · obtain ⟨block, _, result⟩ := bind_eq_ok result
              cases result
            · rename_i refused
              exact ⟨by simpa using refused, notMax⟩
    · rintro ⟨refused, notMax⟩
      have failed : buildCommand state = .ok (.failed (-1)) := by
        rw [buildCommand, totlen_eq counted, if_neg notMax, refused]
        rfl
      rw [failed]
      exact sound_failed _

theorem formatArguments_of_scan {state : ScanState}
    (result : scan printf memory format args = .ok state) :
    formatArguments printf format args = some state.curargv := by
  have facts := scan_scanned result
  simp [formatArguments, facts.events, facts.curargv]

theorem overruns_iff {state : ScanState} (result : scan printf memory format args = .ok state) :
    Overruns printf memory format args ↔ 2 ^ 31 ≤ (encoding state.curargv).length + 1 ∧
      (state.memory 0 = true ∨ toInt32 (encoding state.curargv).length = 2 ^ 31 - 1) := by
  have spelled := formatArguments_of_scan result
  constructor
  · rintro ⟨argv, other, known, large, same, goesOn⟩
    obtain rfl := Option.some.inj (spelled.symm.trans known)
    obtain rfl := Except.ok.inj (result.symm.trans same)
    exact ⟨large, goesOn⟩
  · rintro ⟨large, goesOn⟩
    exact ⟨_, state, spelled, large, result, goesOn⟩

theorem sound_iff (matched : scan printf memory format args ≠ .error .argument) :
    Sound (valkeyvFormatCommand printf memory format args) ↔
      ¬Overruns printf memory format args := by
  cases result : scan printf memory format args with
  | ok state =>
      rw [valkeyvFormatCommand, result, sound_buildCommand_iff (scan_scanned result).counted,
        overruns_iff result]
      simp only [not_and_or, not_or, Nat.not_le, Bool.not_eq_true, ne_eq]
  | error stop =>
      have none : ¬Overruns printf memory format args := by
        rintro ⟨argv, other, _, _, same, _⟩
        cases result.symm.trans same
      simp only [none, not_false_iff, iff_true]
      rw [valkeyvFormatCommand, result]
      cases stop with
      | argument => exact absurd result matched
      | memory_err => exact sound_failed _
      | format_err => exact sound_failed _

end Command

/-! ## The functions of the cluster client -/

section Blocks

variable {wrap : Int → Int} {block next : Block} {pos totlen last : Int} {argv : List Bytes}

theorem store_inside {text : Bytes} (inside : block.bytes.length ≤ block.size)
    (result : block.store pos text = .ok next) : next.bytes.length ≤ next.size := by
  obtain ⟨lower, upper, size⟩ := store_eq_ok result
  rw [Block.store, if_pos ⟨lower, upper⟩] at result
  obtain rfl := Except.ok.inj result
  simp only [List.length_append, List.length_take, List.length_drop]
  omega

theorem writeArguments_inside (inside : block.bytes.length ≤ block.size)
    (result : writeArguments wrap block pos argv = .ok (next, last)) :
    next.bytes.length ≤ next.size := by
  induction argv generalizing block pos with
  | nil =>
      obtain ⟨rfl, _⟩ := Prod.mk.inj (Except.ok.inj result)
      exact inside
  | cons arg argv induction =>
      rw [writeArguments] at result
      obtain ⟨first, stored, result⟩ := bind_eq_ok result
      have inside := store_inside inside stored
      obtain ⟨second, stored, result⟩ := bind_eq_ok result
      have inside := store_inside inside stored
      obtain ⟨third, stored, result⟩ := bind_eq_ok result
      have inside := store_inside inside stored
      obtain ⟨fourth, stored, result⟩ := bind_eq_ok result
      exact induction (store_inside inside stored) result

/-- A block never holds more than its size. -/
theorem writeCommand_inside {size : Nat}
    (result : writeCommand wrap ⟨size, []⟩ totlen argv = .ok next) :
    next.bytes.length ≤ next.size := by
  rw [writeCommand] at result
  obtain ⟨first, stored, result⟩ := bind_eq_ok result
  have inside := store_inside (Nat.zero_le _) stored
  obtain ⟨⟨second, pos⟩, written, result⟩ := bind_eq_ok result
  have inside := writeArguments_inside inside written
  dsimp only at result
  split at result
  · cases result
  · exact store_inside inside result

end Blocks

/-- The memory of a command: the encoding and the NUL behind it. -/
def commandBlock (argv : ArgVector) : Block :=
  ⟨(encoding argv.texts).length + 1, encoding argv.texts ++ [0]⟩

/-- The length of a command as the encoder returns it. -/
def returnedLength (argv : ArgVector) : Int := toInt64 (encoding argv.texts).length

theorem valkeyFormatCommandArgv_block {memory : Memory} (granted : memory 0 = true)
    {argv : ArgVector} (small : (encoding argv.texts).length + 1 < 2 ^ 64) :
    valkeyFormatCommandArgv memory argv =
      .ok (.done (commandBlock argv) (returnedLength argv)) := by
  obtain ⟨block, result, size, holds⟩ := valkeyFormatCommandArgv_done granted small
  have inside : block.bytes.length ≤ block.size := by
    rw [valkeyFormatCommandArgv, granted] at result
    obtain ⟨other, written, same⟩ := bind_eq_ok result
    obtain ⟨rfl, _⟩ := Outcome.done.inj (Except.ok.inj same)
    exact writeCommand_inside written
  have whole : encoding argv.texts ++ [0] = block.bytes :=
    holds.eq_of_length_le (by simpa [size] using inside)
  rw [result, commandBlock, whole, ← size]
  rfl

/-- What a function of the cluster client does with its arguments: it reports an error, or it
passes a length on to a function that sends the command or refuses it. -/
inductive ArgvCall
  | failed (error : Bytes)
  | sent (len : Int) (refused : Bool)
  deriving DecidableEq, Repr

/-- The functions for formatted commands, as far as they refuse a command of a length. -/
structure Senders where
  command : Block → Int → Bool
  append : Block → Int → Bool
  async : Block → Int → Bool
  asyncToNode : Block → Int → Bool

/-- The length is kept in an `int`. -/
def commandArgv (refuses : Block → Int → Bool) (memory : Memory) (argv : ArgVector) :
    Except Fault ArgvCall := do
  let (cmd, returned) :=
    match ← valkeyFormatCommandArgv memory argv with
    | .failed code => (⟨0, []⟩, code)
    | .done cmd returned => (cmd, returned)
  let len := toInt32 returned
  if len = -1 then return .failed (ascii "Out of memory")
  else return .sent len (refuses cmd len)

def valkeyClusterCommandArgv (senders : Senders) := commandArgv senders.command

def valkeyClusterAppendCommandArgv (senders : Senders) := commandArgv senders.append

def valkeyClusterAsyncCommandArgv (senders : Senders) := commandArgv senders.async

def valkeyClusterAsyncCommandArgvToNode (senders : Senders) := commandArgv senders.asyncToNode

/-- The length that is passed on is the one that the encoder returns, or the call reports an
error. -/
def KeepsLength (memory : Memory) (argv : ArgVector) (call : Except Fault ArgvCall) : Prop :=
  ∃ outcome result, valkeyFormatCommandArgv memory argv = .ok outcome ∧ call = .ok result ∧
    match result with
    | .failed _ => True
    | .sent len refused => refused = true ∨ ∃ cmd, outcome = .done cmd len

/-- The length is an `int`, or it is taken for an error, or the command that it cuts is
refused. -/
def LengthFits (refuses : Block → Int → Bool) (memory : Memory) (argv : ArgVector) : Prop :=
  memory 0 = false ∨ toInt32 (returnedLength argv) = returnedLength argv ∨
    toInt32 (returnedLength argv) = -1 ∨
    refuses (commandBlock argv) (toInt32 (returnedLength argv)) = true

theorem keepsLength_iff (refuses : Block → Int → Bool) (memory : Memory) {argv : ArgVector}
    (small : (encoding argv.texts).length + 1 < 2 ^ 64) :
    KeepsLength memory argv (commandArgv refuses memory argv) ↔ LengthFits refuses memory argv := by
  cases granted : memory 0 with
  | false =>
      have failed := valkeyFormatCommandArgv_failed granted argv
      have reported : commandArgv refuses memory argv = .ok (.failed (ascii "Out of memory")) := by
        rw [commandArgv, failed]
        rfl
      simp [KeepsLength, LengthFits, failed, reported, granted]
  | true =>
      have done := valkeyFormatCommandArgv_block granted small
      by_cases error : toInt32 (returnedLength argv) = -1
      · have reported : commandArgv refuses memory argv = .ok
            (.failed (ascii "Out of memory")) := by
          rw [commandArgv, done, bind_ok]
          exact if_pos error
        simp [KeepsLength, LengthFits, done, reported, error]
      · have passed : commandArgv refuses memory argv = .ok (.sent (toInt32 (returnedLength argv))
            (refuses (commandBlock argv) (toInt32 (returnedLength argv)))) := by
          rw [commandArgv, done, bind_ok]
          exact if_neg error
        rw [LengthFits, or_iff_right (by simp [granted]), or_left_comm, or_iff_right error]
        constructor
        · rintro ⟨outcome, result, encoded, called, kept⟩
          obtain rfl := Except.ok.inj (passed.symm.trans called)
          rcases kept with refused | ⟨cmd, same⟩
          · exact .inr refused
          · obtain rfl := Except.ok.inj (done.symm.trans encoded)
            exact .inl (Outcome.done.inj same).2.symm
        · intro fits
          refine ⟨_, _, done, passed, ?_⟩
          rcases fits with same | refused
          · exact .inr ⟨_, by rw [same]⟩
          · exact .inl refused

/-- The functions of a client refuse a command that cannot be prepared. A command for a node
is not parsed. -/
def preparing (cc : ValkeyClusterContext) : Senders where
  command := refuses
  append := refuses
  async := refuses
  asyncToNode _ _ := false
where
  refuses (cmd : Block) (len : Int) : Bool :=
    match prepareCommand cc (cmd.bytes.take len.toNat) with
    | .error _ => true
    | .ok _ => false

theorem set_inside : 3 ≤ (ascii "SET").length := by decide

theorem k_inside : 1 ≤ (ascii "k").length := by decide

theorem value_inside (n : Nat) : n ≤ (List.replicate n (0 : UInt8)).length := by simp

theorem three_short (first second third : Sized) :
    (Argv.sized [first, second, third]).texts.length < 2 ^ 31 := by
  simp [Argv.texts]

/-- `SET k` with a value of `n` bytes. -/
def largeSet (n : Nat) : ArgVector where
  argv := .sized [⟨ascii "SET", 3, set_inside⟩, ⟨ascii "k", 1, k_inside⟩,
    ⟨List.replicate n 0, n, value_inside n⟩]
  short := three_short _ _ _

theorem encoding_largeSet (n : Nat) : encoding (largeSet n).texts =
    ascii "*3\r\n$3\r\nSET\r\n$1\r\nk\r\n" ++ bulkHeader n ++ List.replicate n 0 ++ [CR, LF] := by
  have texts : (largeSet n).texts = [ascii "SET", ascii "k", List.replicate n 0] := by
    have set : (ascii "SET").take 3 = ascii "SET" := by decide
    have key : (ascii "k").take 1 = ascii "k" := by decide
    simp [largeSet, ArgVector.texts, Argv.texts, set, key]
  have front : countHeader 3 ++ formatBulk (ascii "SET") ++ formatBulk (ascii "k") =
      ascii "*3\r\n$3\r\nSET\r\n$1\r\nk\r\n" := by decide
  rw [texts, encoding_eq, ← front]
  simp [formatBulk_eq_header]

theorem preparing_sends (cc : ValkeyClusterContext) {cmd : Block} {len : Int} {text key : Bytes}
    {byte : UInt8} (start : cmd.bytes.take len.toNat = text) (notEmpty : text.length ≠ 0)
    (parsed : valkey_parse_cmd text = .ok (some (byte :: key))) :
    (preparing cc).command cmd len = false := by
  change preparing.refuses cc cmd len = false
  rw [preparing.refuses, start, prepareCommand, if_neg notEmpty, parsed]

/-- The beginning of `SET k` with a value of `2 ^ 32` bytes. -/
def largeSetFront : Bytes := ascii "*3\r\n$3\r\nSET\r\n$1\r\nk\r\n$4294967296\r\n"

theorem encoding_largeSet_wraps {n : Nat} (size : n = 2 ^ 32) :
    encoding (largeSet n).texts = largeSetFront ++ List.replicate n 0 ++ [CR, LF] ∧
      (encoding (largeSet n).texts).length = 2 ^ 32 + 35 := by
  have front : ascii "*3\r\n$3\r\nSET\r\n$1\r\nk\r\n" ++ bulkHeader (2 ^ 32) = largeSetFront := by
    decide
  have frontSize : largeSetFront.length = 33 := by decide
  have whole := encoding_largeSet n
  rw [size, front, ← size] at whole
  refine ⟨whole, ?_⟩
  rw [whole, List.length_append, List.length_append, List.length_replicate, frontSize, size]
  rfl

end Libvalkey.Format
