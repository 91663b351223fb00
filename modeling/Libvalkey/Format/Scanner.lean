import Libvalkey.Command.Lookup
import Libvalkey.Format.Encoders

/-! # The format of a command

`valkeyvFormatCommand`: a format is read from left to right, an argument of the command is
put together from what is found in it, and the command is encoded at the end. -/

namespace Libvalkey.Format

open Checked

/-! ## Variadic arguments -/

/-- The type that `va_arg` is asked for by a conversion of `printf`. -/
inductive ArgType
  | int
  | long
  | longlong
  | double
  deriving DecidableEq, Repr

/-- A variadic argument. A pointer comes with the memory that it points to. -/
inductive VaArg
  | pointer (memory : Option Bytes)
  | size (size : Nat)
  | number (type : ArgType) (bits : UInt64)
  deriving DecidableEq, Repr

/-- `vsnprintf` for one conversion with its argument. It writes no NUL into the text. -/
structure Printf where
  text : Bytes → VaArg → Bytes
  noNul : ∀ spec arg, NoNul (text spec arg)

/-- `%d`, with any number of flags `0`. -/
def printfInteger : Printf where
  text _ arg :=
    match arg with
    | .number _ bits => Decimal.ofInt bits.toInt64.toInt
    | _ => []
  noNul := by
    have digits (n : Nat) : NoNul (Decimal.ofNat n) := fun member =>
      absurd (Decimal.isDigit_of_mem_ofNat n 0 member) (by decide)
    intro spec arg
    cases arg with
    | pointer memory => simp [NoNul]
    | size size => simp [NoNul]
    | number type bits =>
        dsimp only [Decimal.ofInt]
        split
        · exact fun member => (List.mem_cons.mp member).elim (by decide) (digits _)
        · exact digits _

/-! ## What stands at a place of the format -/

def intfmts : Bytes := ascii "diouxX"

def doublefmts : Bytes := ascii "eEfFgGaA"

def flags : Bytes := ascii "#0-+ "

/-- An integer conversion after a size, and what follows it. -/
def integerAfter (type : ArgType) : Bytes → Option (ArgType × Bytes)
  | [] => none
  | byte :: rest => if byte ∈ intfmts then some (type, rest) else none

/-- A conversion with its size, and what follows it. -/
def detectConversion : Bytes → Option (ArgType × Bytes)
  | [] => none
  | byte :: rest =>
      if byte ∈ intfmts then some (.int, rest)
      else if byte ∈ doublefmts then some (.double, rest)
      else if byte = 'h'.toUInt8 ∧ rest.head? = some 'h'.toUInt8 then integerAfter .int rest.tail
      else if byte = 'h'.toUInt8 then integerAfter .int rest
      else if byte = 'l'.toUInt8 ∧ rest.head? = some 'l'.toUInt8 then
        integerAfter .longlong rest.tail
      else if byte = 'l'.toUInt8 then integerAfter .long rest
      else none

/-- What follows a precision, if there is one. -/
def skipPrecision : Bytes → Bytes
  | [] => []
  | byte :: rest =>
      if byte = '.'.toUInt8 then rest.dropWhile Decimal.isDigit else byte :: rest

/-- The `printf` format behind a `%`, and what follows it. -/
def detectPrintf (p : Bytes) : Option (ArgType × Bytes) :=
  detectConversion (skipPrecision ((p.dropWhile (· ∈ flags)).dropWhile Decimal.isDigit))

/-- `sizeof(_format) - 2` -/
def formatRoom : Nat := 14

/-- What the function does at a place of the format. -/
inductive Directive
  | literal (byte : UInt8)
  | space
  | string
  | binary
  | percent
  | printf (type : ArgType) (spec : Bytes)
  | invalid
  deriving DecidableEq, Repr

/-- The directive at `*c = byte`, and where the format goes on. A specification that does
not fit `_format` is passed by two bytes only. -/
def directiveAt (byte : UInt8) (c : Bytes) : Directive × Bytes :=
  match c with
  | [] => (if byte = ' '.toUInt8 then .space else .literal byte, [])
  | next :: rest =>
      if byte ≠ '%'.toUInt8 then (if byte = ' '.toUInt8 then .space else .literal byte, c)
      else if next = 's'.toUInt8 then (.string, rest)
      else if next = 'b'.toUInt8 then (.binary, rest)
      else if next = '%'.toUInt8 then (.percent, rest)
      else
        match detectPrintf c with
        | none => (.invalid, [])
        | some (type, after) =>
            let spec := (byte :: c).take (c.length + 1 - after.length)
            (.printf type spec, if spec.length < formatRoom then after else rest)

/-- The directives of a format. Each of them takes up some of it. -/
def directivesFrom : Nat → Bytes → List Directive
  | 0, _ | _, [] => []
  | fuel + 1, byte :: c =>
      let (directive, rest) := directiveAt byte c
      directive :: directivesFrom fuel rest

def directives (format : Bytes) : List Directive := directivesFrom format.length format

/-! ## The loop over the format -/

/-- What has been done with a format: a byte of it has been copied or passed as a space, a
variadic argument has been taken, and a text has been put into the current argument. -/
inductive Event
  | copied (byte : UInt8)
  | separator
  | consumed (arg : VaArg)
  | appended (text : Bytes)
  deriving DecidableEq, Repr

/-- The variables of the loop, the variadic arguments that are left, the memory and a log. -/
structure ScanState where
  curarg : Sds
  touched : Bool
  curargv : List Bytes
  totlen : Int
  args : List VaArg
  memory : Memory
  log : List Event

/-- The label that ends the loop early, or an argument that is not what `va_arg` asks for. -/
inductive Stop
  | format_err
  | memory_err
  | argument
  deriving DecidableEq, Repr

namespace ScanState

/-- `curarg` is put into `curargv`, and its length is added to `totlen`. -/
def pushArgument (state : ScanState) : Except Stop ScanState :=
  if state.memory 0 then
    .ok { state with
      curargv := state.curargv ++ [state.curarg.contents]
      totlen := toInt32 (toSize state.totlen + bulklen state.curarg.contents.length)
      memory := state.memory.rest }
  else .error .memory_err

/-- `curarg = newarg; touched = 1` -/
def withArg (state : ScanState) (newarg : Option Sds × Memory) : Except Stop ScanState :=
  match newarg with
  | (none, _) => .error .memory_err
  | (some curarg, memory) =>
      .ok { state with curarg := curarg, memory := memory, touched := true }

/-- A text at the end of the current argument. Nothing is asked for if it is empty. -/
def append (state : ScanState) (text : Bytes) : Except Stop ScanState :=
  state.withArg
    (if text = [] then (some state.curarg, state.memory)
     else sdscatlen state.memory state.curarg text)

def logged (state : ScanState) (event : Event) : ScanState :=
  { state with log := state.log ++ [event] }

/-- `va_arg` -/
def consume (state : ScanState) : Except Stop (VaArg × ScanState) :=
  match state.args with
  | [] => .error .argument
  | arg :: args => .ok (arg, { state with args := args }.logged (.consumed arg))

end ScanState

/-- The buffers of `sdscatvprintf` until one is large enough for the text. -/
def growBuffer (length : Nat) : Nat → Nat → Memory → Option Memory
  | 0, _, memory => some memory
  | fuel + 1, buflen, memory =>
      if length < buflen - 1 then some memory
      else if memory 0 then growBuffer length fuel (buflen * 2) memory.rest
      else none

def sdscatvprintf (memory : Memory) (s : Sds) (text : Bytes) : Option Sds × Memory :=
  match growBuffer text.length (text.length + 1) 1024 memory with
  | none => (none, memory)
  | some memory => sdscatlen memory s (cString text)

section Scan

variable (printf : Printf)

/-- One round of the loop. -/
def step (state : ScanState) : Directive → Except Stop ScanState
  | .space =>
      if state.touched then do
        let state ← state.pushArgument
        match sdsempty state.memory with
        | (none, _) => .error .memory_err
        | (some curarg, memory) =>
            return { state with curarg := curarg, memory := memory, touched := false }.logged
              .separator
      else .ok (state.logged .separator)
  | .literal byte => do
      return (← state.withArg (sdscatlen state.memory state.curarg [byte])).logged (.copied byte)
  | .string => do
      match ← state.consume with
      | (.pointer none, _) => .error .format_err
      | (.pointer (some memory), state) =>
          return (← state.append (cString memory)).logged (.appended (cString memory))
      | _ => .error .argument
  | .binary => do
      match ← state.consume with
      | (.pointer none, _) => .error .format_err
      | (.pointer (some memory), state) =>
          match ← state.consume with
          | (.size size, state) =>
              if size ≤ memory.length then
                return (← state.append (memory.take size)).logged (.appended (memory.take size))
              else .error .argument
          | _ => .error .argument
      | _ => .error .argument
  | .percent => do
      return (← state.withArg (sdscatlen state.memory state.curarg (ascii "%"))).logged
        (.appended (ascii "%"))
  | .printf type spec => do
      let (arg, state) ← state.consume
      match arg with
      | .number given _ =>
          if given ≠ type then .error .argument
          else if spec.length < formatRoom then
            let text := printf.text spec arg
            return (← state.withArg (sdscatvprintf state.memory state.curarg text)).logged
              (.appended text)
          else return { state with touched := true }
      | _ => .error .argument
  | .invalid => .error .format_err

/-- The loop, and the last argument. -/
def scan (memory : Memory) (format : Bytes) (args : List VaArg) : Except Stop ScanState :=
  match sdsempty memory with
  | (none, _) => .error .memory_err
  | (some curarg, memory) => do
      let state ← (directives (cString format)).foldlM (step printf)
        ⟨curarg, false, [], 0, args, memory, []⟩
      if state.touched then state.pushArgument else return state

/-- The command at the protocol level. -/
def buildCommand (state : ScanState) : Except Fault (Outcome Block) := do
  let argv := state.curargv
  let totlen := toInt32 (state.totlen + (1 + countDigits argv.length + 2 : Nat))
  -- `totlen + 1` is computed in `int`.
  if totlen = 2 ^ 31 - 1 then .error .overflow
  if state.memory 0 then
    let block ← writeCommand toInt32 ⟨toSize (totlen + 1), []⟩ totlen argv
    return .done block totlen
  else return .failed (-1)

/-- `valkeyvFormatCommand`, for a target that is not NULL. -/
def valkeyvFormatCommand (memory : Memory) (format : Bytes) (args : List VaArg) :
    Except Fault (Outcome Block) :=
  match scan printf memory format args with
  | .ok state => buildCommand state
  | .error .memory_err => .ok (.failed (-1))
  | .error .format_err => .ok (.failed (-2))
  | .error .argument => .error .argument

end Scan

end Libvalkey.Format
