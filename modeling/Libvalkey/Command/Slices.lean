import Libvalkey.Command.Parse
import Libvalkey.Foundation.Buffer

/-! # Commands as slices

`command.c` at the level of its pointers: what is read of the buffer of a command, and
which parts of it are handed on. -/

namespace Libvalkey

open Buffer

/-! ## Bulk strings -/

/-- `*p++ == byte`, unless the end is reached: the position after the byte. -/
def expectByte (buf : Bytes) (ended : Bool) (p : Nat) (byte : UInt8) :
    Except OutOfBounds (Option Nat) := do
  if ended then return none
  if (← read buf p) ≠ byte then return none
  return some (p + 1)

/-- The loop over the digits of a `uint32_t`. The first argument bounds its rounds. -/
def readUint32 (buf : Bytes) : Nat → Nat → Nat → Except OutOfBounds (Nat × Nat)
  | 0, value, p => .ok (value, p)
  | rounds + 1, value, p => do
      if ¬p < buf.length then return (value, p)
      let byte ← read buf p
      if '0'.toUInt8 ≤ byte ∧ byte ≤ '9'.toUInt8 then
        readUint32 buf rounds ((value * 10 + (byte.toNat - 48)) % 2 ^ 32) (p + 1)
      else return (value, p)

/-- CR LF. `ended` is the test for the end in front of each byte. -/
def expectNewline (buf : Bytes) (ended : Nat → Bool) (p : Nat) :
    Except OutOfBounds (Option Nat) := do
  match ← expectByte buf (ended p) p CR with
  | none => return none
  | some p => expectByte buf (ended p) p LF

/-- `p >= end`. The position may be past the end. -/
def pastEnd (buf : Bytes) (p : Nat) : Bool := decide (p ≥ buf.length)

/-- `p == end` -/
def atEnd (buf : Bytes) (p : Nat) : Bool := decide (p = buf.length)

/-- What `valkey_parse_bulk` leaves: `*str` and `*len`, if it has set them, and the
pointer that it returns. -/
structure BulkSlice where
  slice : Option Slice
  next : Option Nat
  deriving DecidableEq, Repr

def valkey_parse_bulk_at (buf : Bytes) (p : Nat) : Except OutOfBounds BulkSlice := do
  match ← expectByte buf (pastEnd buf p) p '$'.toUInt8 with
  | none => return ⟨none, none⟩
  | some p =>
      let (length, p) ← readUint32 buf (buf.length - p) 0 p
      match ← expectNewline buf (pastEnd buf) p with
      | none => return ⟨none, none⟩
      | some p => return ⟨some ⟨p, length⟩, ← expectNewline buf (pastEnd buf) (p + length)⟩

/-! ## The first key -/

/-- The last of a number of bulk strings and the position after it, or the argument
before them. -/
def parseBulksAt (buf : Bytes) (arg : Slice) (p : Nat) :
    Nat → Except OutOfBounds (Option (Slice × Nat))
  | 0 => return some (arg, p)
  | count + 1 => do
      match ← valkey_parse_bulk_at buf p with
      | ⟨some arg, some p⟩ => parseBulksAt buf arg p count
      | _ => return none

def keyAfterKeywordAt (buf keyword : Bytes) (startfrom : Nat) (argidx p : Nat) :
    Nat → Except OutOfBounds (Option Slice)
  | 0 => return none
  | count + 1 => do
      match ← valkey_parse_bulk_at buf p with
      | ⟨some arg, some p⟩ =>
          if argidx < startfrom then
            keyAfterKeywordAt buf keyword startfrom (argidx + 1) p count
          else if sameIgnoringCase keyword (← readSlice buf arg) then
            return (← parseBulksAt buf arg p 1).map (·.1)
          else keyAfterKeywordAt buf keyword startfrom (argidx + 1) p count
      | _ => return none

/-- The search for the first key after the second argument. -/
def findKeyAt (buf : Bytes) (info : CmdDef) (rnarg : Nat) (arg1 : Slice) (p : Nat) :
    Except OutOfBounds (Option (Option Slice)) := do
  match info.firstkeymethod with
  | .none => return some none
  | .unknown =>
      let count := (toInt32 rnarg - 2).toNat
      match info.type with
      | .xread => return (← keyAfterKeywordAt buf (ascii "STREAMS") 1 1 p count).map some
      | .xreadgroup => return (← keyAfterKeywordAt buf (ascii "STREAMS") 4 1 p count).map some
      | _ => return none
  | .index =>
      match ← parseBulksAt buf arg1 p (info.firstkeypos - 1) with
      | none => return none
      | some (arg, _) =>
          if info.type = .migrate ∧ arg.len = 0 ∧ info.firstkeypos = 3 then return none
          else return some (some arg)
  | .keynum =>
      match ← parseBulksAt buf arg1 p (info.firstkeypos - 1) with
      | none => return none
      | some (arg, p) =>
          if strncmp (ascii "0") (← readSlice buf arg) = .eq then return some none
          else return (← parseBulksAt buf arg p 1).map fun key => some key.1

/-! ## The parser -/

/-- An argument of `%.*s`. The length is passed as an `int`. -/
structure Formatted where
  start : Nat
  precision : Int
  deriving DecidableEq, Repr

/-- Neither does the argument reach past the buffer, nor is it read up to a NUL. -/
def Formatted.Inside (argument : Formatted) (buf : Bytes) : Prop :=
  0 ≤ argument.precision ∧ argument.start + argument.precision ≤ buf.length

def Buffer.Slice.formatted (slice : Slice) : Formatted := ⟨slice.start, toInt32 slice.len⟩

/-- `result` of `cmd`, with the key. -/
inductive CmdSliceResult
  | ok (key : Option Slice)
  | error
  | enomem
  deriving DecidableEq, Repr

/-- What `valkey_parse_cmd` has done: its result, the slices that it handed to the lookup
and to the text of the error, and the number of arguments in the check of the arity. -/
structure CmdSlices where
  result : CmdSliceResult
  looked : List Slice
  counted : Option Int
  message : List Formatted
  deriving DecidableEq, Repr

/-- The label `error`. `allocated` tells whether there was memory for the text. -/
def CmdSlices.error (allocated : Bool) (looked : List Slice) (counted : Option Int)
    (message : List Slice) : CmdSlices :=
  if allocated then ⟨.error, looked, counted, message.map (·.formatted)⟩
  else ⟨.enomem, looked, counted, []⟩

/-- `valkey_parse_cmd` after the first two arguments. -/
def parseArgumentsAt (allocated : Bool) (buf : Bytes) (rnarg : Nat) (arg0 : Slice)
    (arg1 : Option Slice) (p : Nat) : Except OutOfBounds CmdSlices := do
  let looked := arg0 :: arg1.toList
  let name ← readSlice buf arg0
  let subname ← arg1.mapM (readSlice buf)
  match valkey_lookup_cmd name subname with
  | none => return .error allocated looked none looked
  | some info =>
      let counted := some (toInt32 rnarg)
      let failed := CmdSlices.error allocated looked counted []
      if ¬arityHolds info rnarg then return failed
      else if info.firstkeymethod = .none then return ⟨.ok none, looked, counted, []⟩
      else
        match arg1 with
        | none => return failed
        | some arg1 =>
            match ← findKeyAt buf info rnarg arg1 p with
            | none => return failed
            | some key => return ⟨.ok key, looked, counted, []⟩

/-- The number of arguments, and the position after it. -/
def parseHeaderAt (buf : Bytes) : Except OutOfBounds (Option (Nat × Nat)) := do
  if (← read buf 0) ≠ '*'.toUInt8 then return none
  let (rnarg, p) ← readUint32 buf (buf.length - 1) 0 1
  match ← expectNewline buf (atEnd buf) p with
  | none => return none
  | some p => return if rnarg = 0 then none else some (rnarg, p)

def valkey_parse_cmd_at (allocated : Bool) (buf : Bytes) : Except OutOfBounds CmdSlices := do
  match ← parseHeaderAt buf with
  | none => return .error allocated [] none []
  | some (rnarg, p) =>
      match ← valkey_parse_bulk_at buf p with
      | ⟨some arg0, some p⟩ =>
          if rnarg > 1 then
            match ← valkey_parse_bulk_at buf p with
            | ⟨some arg1, some p⟩ => parseArgumentsAt allocated buf rnarg arg0 (some arg1) p
            | ⟨arg1, _⟩ => return .error allocated [] none (arg0 :: arg1.toList)
          else parseArgumentsAt allocated buf rnarg arg0 none p
      | ⟨arg0, _⟩ => return .error allocated [] none arg0.toList

end Libvalkey
