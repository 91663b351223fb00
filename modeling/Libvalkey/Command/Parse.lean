import Libvalkey.Command.Table
import Libvalkey.Foundation.BinarySearch
import Libvalkey.Cluster.Types

/-! # Commands

`command.c`: how the first key of a formatted command is found, and how
`valkeyFormatCommandArgv` formats one. -/

namespace Libvalkey

/-! ## The lookup -/

def maxCommandLen : Nat := 64

/-- One byte of `to_upper`. -/
def toUpperByte (byte : UInt8) : UInt8 :=
  if 'a'.toUInt8 ≤ byte ∧ byte ≤ 'z'.toUInt8 then byte - 32 else byte

def to_upper (src : Bytes) : Bytes := src.map toUpperByte

/-- `strncmp` of a string, which a NUL ends, with `n` bytes. -/
def strncmp : Bytes → Bytes → Ordering
  | _, [] => .eq
  | [], byte :: _ => if byte = 0 then .eq else .lt
  | char :: text, byte :: bytes =>
      if char < byte then .lt else if byte < char then .gt else strncmp text bytes

/-- A comparison that tells a string from its beginnings. -/
def compareName (name text : Bytes) : Ordering :=
  match strncmp name text with
  | .eq => if name.length > text.length then .gt else .eq
  | order => order

/-- The comparison of an entry with the first two arguments. It is `none` where the
subcommand is missing or too long. -/
def compareCommand (arg0 : Bytes) (arg1 : Option Bytes) (entry : CmdDef) : Option Ordering :=
  match compareName entry.name (to_upper arg0), entry.subname with
  | .eq, some subname =>
      match arg1 with
      | none => none
      | some arg1 =>
          if arg1.length = 0 ∨ arg1.length > maxCommandLen then none
          else some (compareName subname (to_upper arg1))
  | order, _ => some order

def valkey_lookup_cmd (arg0 : Bytes) (arg1 : Option Bytes) : Option CmdDef :=
  if arg0.length > maxCommandLen then none
  else BinarySearch.search serverCommands (compareCommand arg0 arg1)

/-! ## The parser -/

/-- A number in `uint32_t`, and what follows its digits. -/
def parseUint32 (value : Nat) : Bytes → Nat × Bytes
  | [] => (value, [])
  | byte :: rest =>
      if '0'.toUInt8 ≤ byte ∧ byte ≤ '9'.toUInt8 then
        parseUint32 ((value * 10 + (byte.toNat - 48)) % 2 ^ 32) rest
      else (value, byte :: rest)

/-- What follows CR LF. -/
def skipCRLF : Bytes → Option Bytes
  | byte :: next :: rest => if byte = CR ∧ next = LF then some rest else none
  | _ => none

/-- The bulk string that starts the text, as far as its length is known, and what
follows it if it is complete. -/
def valkey_parse_bulk : Bytes → Option (Bytes × Option Bytes)
  | [] => none
  | byte :: p =>
      if byte ≠ '$'.toUInt8 then none
      else
        let (length, p) := parseUint32 0 p
        match skipCRLF p with
        | none => none
        | some p => some (p.take length, skipCRLF (p.drop length))

/-- The last of a number of bulk strings, or the argument before them. -/
def parseBulks (arg p : Bytes) : Nat → Option (Bytes × Bytes)
  | 0 => some (arg, p)
  | count + 1 =>
      match valkey_parse_bulk p with
      | some (arg, some p) => parseBulks arg p count
      | _ => none

/-- `strncasecmp` of a string, which a NUL ends, with `n` bytes is 0. -/
def sameIgnoringCase (text bytes : Bytes) : Bool :=
  strncmp (to_upper text) (to_upper bytes) == .eq

/-- The first key is the argument after the keyword. `argidx` is the index of the
last argument, and `count` the number of those that follow. -/
def keyAfterKeyword (keyword : Bytes) (startfrom : Nat) (argidx : Nat) (p : Bytes) :
    Nat → Option Bytes
  | 0 => none
  | count + 1 =>
      match valkey_parse_bulk p with
      | some (arg, some p) =>
          if argidx < startfrom then keyAfterKeyword keyword startfrom (argidx + 1) p count
          else if sameIgnoringCase keyword arg then (parseBulks arg p 1).map (·.1)
          else keyAfterKeyword keyword startfrom (argidx + 1) p count
      | _ => none

/-- The search for the first key in the arguments after the second one. The inner
`none` is a command without a key, the outer one an error. -/
def findKey (info : CmdDef) (rnarg : Nat) (arg1 p : Bytes) : Option (Option Bytes) :=
  match info.firstkeymethod with
  | .none => some none
  | .unknown =>
      let count := (toInt32 rnarg - 2).toNat
      match info.type with
      | .xread => (keyAfterKeyword (ascii "STREAMS") 1 1 p count).map some
      | .xreadgroup => (keyAfterKeyword (ascii "STREAMS") 4 1 p count).map some
      | _ => none
  | .index =>
      match parseBulks arg1 p (info.firstkeypos - 1) with
      | none => none
      | some (arg, _) =>
          if info.type = .migrate ∧ arg.length = 0 ∧ info.firstkeypos = 3 then none
          else some (some arg)
  | .keynum =>
      match parseBulks arg1 p (info.firstkeypos - 1) with
      | none => none
      | some (arg, p) =>
          if strncmp (ascii "0") arg = .eq then some none
          else (parseBulks arg p 1).map fun key => some key.1

/-- The result of parsing: the first key, if there is one, or the text of an error. -/
inductive CmdParseResult
  | ok (key : Option Bytes)
  | error (errstr : Bytes)
  deriving DecidableEq, Repr

/-- The text of an error. `snprintf` cuts it. -/
def parseError (info : Option CmdDef) (arg0 arg1 : Option Bytes) : Bytes :=
  let text :=
    match info, arg0, arg1 with
    | some info, _, _ =>
        ascii "Failed to find keys of command " ++ info.name ++
          match info.subname with
          | some subname => ascii " " ++ subname
          | none => []
    | none, some arg0, some arg1 =>
        ascii "Unknown command " ++ cString arg0 ++ ascii " " ++ cString arg1
    | none, some arg0, none => ascii "Unknown command " ++ cString arg0
    | none, none, _ => ascii "Command parse error"
  text.take 99

/-- The number of arguments is as the command wants it. -/
def arityHolds (info : CmdDef) (rnarg : Nat) : Bool :=
  if info.arity ≥ 0 then toInt32 rnarg == info.arity else toInt32 rnarg ≥ -info.arity

/-- `valkey_parse_cmd` after the first two arguments. -/
def parseArguments (rnarg : Nat) (arg0 : Bytes) (arg1 : Option Bytes) (p : Bytes) :
    CmdParseResult :=
  match valkey_lookup_cmd arg0 arg1 with
  | none => .error (parseError none (some arg0) arg1)
  | some info =>
      let failed := .error (parseError (some info) (some arg0) arg1)
      if ¬arityHolds info rnarg then failed
      else if info.firstkeymethod = .none then .ok none
      else
        match arg1 with
        | none => failed
        | some arg1 =>
            match findKey info rnarg arg1 p with
            | none => failed
            | some key => .ok key

/-- The number of arguments, and what follows it. -/
def parseHeader : Bytes → Option (Nat × Bytes)
  | [] => none
  | byte :: p =>
      if byte ≠ '*'.toUInt8 then none
      else
        let (rnarg, p) := parseUint32 0 p
        match skipCRLF p with
        | none => none
        | some p => if rnarg = 0 then none else some (rnarg, p)

def valkey_parse_cmd (cmd : Bytes) : CmdParseResult :=
  match parseHeader cmd with
  | none => .error (parseError none none none)
  | some (rnarg, p) =>
      match valkey_parse_bulk p with
      | none => .error (parseError none none none)
      | some (arg0, none) => .error (parseError none (some arg0) none)
      | some (arg0, some p) =>
          if rnarg > 1 then
            match valkey_parse_bulk p with
            | none => .error (parseError none (some arg0) none)
            | some (arg1, none) => .error (parseError none (some arg0) (some arg1))
            | some (arg1, some p) => parseArguments rnarg arg0 (some arg1) p
          else parseArguments rnarg arg0 none p

/-! ## Formatting -/

/-- One argument of a formatted command. -/
def formatBulk (arg : Bytes) : Bytes :=
  '$'.toUInt8 :: Decimal.ofNat arg.length ++ CR :: LF :: arg ++ [CR, LF]

def valkeyFormatCommandArgv (argv : List Bytes) : Bytes :=
  '*'.toUInt8 :: Decimal.ofNat argv.length ++ CR :: LF :: argv.flatMap formatBulk

example : valkey_parse_cmd (valkeyFormatCommandArgv [ascii "get", ascii "x\r\n$1"]) =
    .ok (some (ascii "x\r\n$1")) := by decide +kernel

end Libvalkey
