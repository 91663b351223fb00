import Libvalkey.Command.Parse

/-! # Commands of the asynchronous client

How `async.c` finds the arguments of a formatted command, and which commands it
treats specially. -/

namespace Libvalkey

/-! ## Arguments -/

/-- `MAX_BULK_LEN` -/
def maxBulkLen : Nat := 512 * 1024 * 1024

/-- The loop of `parseBulkLen`. -/
def parseBulkDigits (acc : Nat) : Bytes → Option (Nat × Bytes)
  | [] => some (acc, [])
  | byte :: rest =>
      if Decimal.isDigit byte then
        let next := acc * 10 + Decimal.digitValue byte
        if next > maxBulkLen then none else parseBulkDigits next rest
      else some (acc, byte :: rest)

/-- A length, and what follows its digits. -/
def parseBulkLen : Bytes → Option (Nat × Bytes)
  | [] => none
  | byte :: rest => if Decimal.isDigit byte then parseBulkDigits 0 (byte :: rest) else none

/-- An argument: the buffer from its first byte on, its length, and the buffer that
follows it unless it is the last one. -/
structure Argument where
  text : Bytes
  length : Nat
  next : Option Bytes
  deriving DecidableEq, Repr

def Argument.str (argument : Argument) : Bytes := argument.text.take argument.length

/-- The next bulk string of a buffer. The byte after a CR is not looked at. -/
def nextArgument (buf : Bytes) : Option Argument :=
  match buf.dropWhile (· != '$'.toUInt8) with
  | [] => none
  | _ :: digits =>
      match parseBulkLen digits with
      | none => none
      | some (len, p) =>
          if p.length < len + 4 ∨ p.head? ≠ some CR ∨ p[len + 2]? ≠ some CR then none
          else
            some
              { text := p.drop 2
                length := len
                next := if p.length = len + 4 then none else some (p.drop (len + 4)) }

/-- The loop over the arguments from a place in the buffer. -/
def argumentsFrom : Nat → Option Bytes → List Bytes
  | 0, _ | _, none => []
  | fuel + 1, some buf =>
      match nextArgument buf with
      | none => []
      | some argument => argument.str :: argumentsFrom fuel argument.next

/-- Every argument takes up some of the buffer. -/
def argumentsOf (buf : Option Bytes) : List Bytes := argumentsFrom (buf.getD []).length buf

/-! ## Names of commands -/

def tolower (byte : UInt8) : UInt8 :=
  if 'A'.toUInt8 ≤ byte ∧ byte ≤ 'Z'.toUInt8 then byte + 32 else byte

/-- `strncasecmp` of a text with the beginning that it should have. -/
def startsIgnoringCase (beginning text : Bytes) : Bool :=
  (text.take beginning.length).map tolower == beginning

def valkeyIsShardedVariant (text : Bytes) : Bool :=
  startsIgnoringCase (ascii "sm") text || startsIgnoringCase (ascii "ss") text ||
    startsIgnoringCase (ascii "sun") text

/-- `pvariant` -/
def isPatternVariant (text : Bytes) : Bool := text.head?.map tolower == some 'p'.toUInt8

/-- Which of the dictionaries of subscriptions a command or a message is about. -/
inductive Variant
  | channel
  | pattern
  | sharded
  deriving DecidableEq, Repr

def variantOf (text : Bytes) : Variant :=
  if isPatternVariant text then .pattern
  else if valkeyIsShardedVariant text then .sharded
  else .channel

/-- How many bytes of a name tell its variant: `hasprefix`. -/
def prefixLength (text : Bytes) : Nat :=
  if valkeyIsShardedVariant text || isPatternVariant text then 1 else 0

/-- The commands that `valkeyAsyncAppendCmdLen` tells apart. -/
inductive CommandKind
  | subscribe
  | unsubscribe
  | monitor
  | regular
  deriving DecidableEq, Repr

/-- There is an argument after the first one: `hasnext`. -/
def Argument.hasNext (argument : Argument) : Bool :=
  match argument.next with
  | none => false
  | some p => p.head? == some '$'.toUInt8

/-- The kind that the first argument of a command tells. -/
def commandKind (first : Argument) : CommandKind :=
  let cstr := first.text.drop (prefixLength first.text)
  if first.hasNext ∧ startsIgnoringCase (ascii "subscribe\r\n") cstr then .subscribe
  else if startsIgnoringCase (ascii "unsubscribe\r\n") cstr then .unsubscribe
  else if startsIgnoringCase (ascii "monitor\r\n") cstr then .monitor
  else .regular

/-! ## Formatted commands -/

theorem parseBulkDigits_append (acc : Nat) (digits rest : Bytes)
    (allDigits : ∀ byte ∈ digits, Decimal.isDigit byte = true)
    (ends : ∀ byte ∈ rest.head?, Decimal.isDigit byte = false)
    (small : Decimal.accumulate acc digits ≤ maxBulkLen) :
    parseBulkDigits acc (digits ++ rest) = some (Decimal.accumulate acc digits, rest) := by
  induction digits generalizing acc with
  | nil =>
      cases rest with
      | nil => rfl
      | cons byte rest =>
          have stops := ends byte rfl
          simp [parseBulkDigits, stops]
  | cons byte digits induction =>
      have digit := allDigits byte List.mem_cons_self
      rw [Decimal.accumulate_cons] at small ⊢
      have fits : acc * 10 + Decimal.digitValue byte ≤ maxBulkLen :=
        Nat.le_trans (Decimal.le_accumulate _ digits) small
      rw [List.cons_append, parseBulkDigits, if_pos digit]
      dsimp only
      rw [if_neg (Nat.not_lt.mpr fits)]
      exact induction _ (fun other member => allDigits other (List.mem_cons_of_mem _ member)) small

theorem parseBulkLen_ofNat {value : Nat} (small : value ≤ maxBulkLen) (rest : Bytes) :
    parseBulkLen (Decimal.ofNat value ++ CR :: rest) = some (value, CR :: rest) := by
  have digits := Decimal.isDigit_of_mem_ofNat value
  have parsed := parseBulkDigits_append 0 (Decimal.ofNat value) (CR :: rest) digits
    (fun byte member => by obtain rfl := Option.some.inj member; rfl) (by simpa using small)
  rw [Decimal.accumulate_ofNat] at parsed
  cases known : Decimal.ofNat value with
  | nil => exact absurd known (Decimal.ofNat_ne_nil value)
  | cons byte others =>
      rw [known] at parsed digits
      rw [List.cons_append, parseBulkLen, if_pos (digits byte List.mem_cons_self)]
      exact parsed

/-- What follows an argument, if anything does. -/
def bufferAfter (rest : Bytes) : Option Bytes := if rest = [] then none else some rest

theorem nextArgument_bulk {arg : Bytes} (small : arg.length ≤ maxBulkLen) (before rest : Bytes)
    (noBulk : ∀ byte ∈ before, byte ≠ '$'.toUInt8) :
    nextArgument (before ++ formatBulk arg ++ rest) =
      some { text := arg ++ CR :: LF :: rest, length := arg.length, next := bufferAfter rest } := by
  have found : (before ++ formatBulk arg ++ rest).dropWhile (· != '$'.toUInt8) =
      formatBulk arg ++ rest := by
    rw [List.append_assoc, List.dropWhile_append_of_pos
      fun byte member => by simpa using noBulk byte member]
    simp [formatBulk]
  have layout : formatBulk arg ++ rest = '$'.toUInt8 ::
      (Decimal.ofNat arg.length ++ CR :: LF :: (arg ++ CR :: LF :: rest)) := by simp [formatBulk]
  have length : (CR :: LF :: (arg ++ CR :: LF :: rest)).length = arg.length + 4 + rest.length := by
    simp only [List.length_cons, List.length_append]
    omega
  have last : (CR :: LF :: (arg ++ CR :: LF :: rest))[arg.length + 2]? = some CR := by simp
  have after : (CR :: LF :: (arg ++ CR :: LF :: rest)).drop (arg.length + 4) = rest := by
    rw [List.drop_succ_cons, List.drop_succ_cons, List.drop_append]
    simp
  unfold nextArgument
  rw [found, layout]
  dsimp only
  rw [parseBulkLen_ofNat small]
  dsimp only
  rw [last, length, after, if_neg (by simp)]
  simp [bufferAfter]

theorem nextArgument_format {arg : Bytes} (small : arg.length ≤ maxBulkLen) (argv : List Bytes) :
    nextArgument (valkeyFormatCommandArgv (arg :: argv)) =
      some { text := arg ++ CR :: LF :: argv.flatMap formatBulk
             length := arg.length
             next := bufferAfter (argv.flatMap formatBulk) } := by
  have header : valkeyFormatCommandArgv (arg :: argv) =
      ('*'.toUInt8 :: Decimal.ofNat (arg :: argv).length ++ [CR, LF]) ++ formatBulk arg ++
        argv.flatMap formatBulk := by simp [valkeyFormatCommandArgv]
  rw [header]
  refine nextArgument_bulk small _ _ fun byte member => ?_
  simp only [List.cons_append, List.mem_cons, List.mem_append, List.not_mem_nil, or_false] at member
  rcases member with rfl | digit | rfl | rfl
  · decide
  · rintro rfl
    exact absurd (Decimal.isDigit_of_mem_ofNat _ _ digit) (by decide)
  · decide
  · decide

theorem flatMap_formatBulk_cons (arg : Bytes) (argv : List Bytes) :
    (arg :: argv).flatMap formatBulk = [] ++ formatBulk arg ++ argv.flatMap formatBulk := by simp

theorem argumentsFrom_format {argv : List Bytes} (small : ∀ arg ∈ argv, arg.length ≤ maxBulkLen)
    {fuel : Nat} (enough : (argv.flatMap formatBulk).length ≤ fuel) :
    argumentsFrom fuel (bufferAfter (argv.flatMap formatBulk)) = argv := by
  induction argv generalizing fuel with
  | nil => cases fuel <;> rfl
  | cons arg argv induction =>
      have notEmpty : (arg :: argv).flatMap formatBulk ≠ [] := by simp [formatBulk]
      have positive := List.length_pos_of_ne_nil notEmpty
      have shorter : (argv.flatMap formatBulk).length <
          ((arg :: argv).flatMap formatBulk).length := by
        simp [formatBulk]
        omega
      cases fuel with
      | zero => omega
      | succ fuel =>
          rw [bufferAfter, if_neg notEmpty, argumentsFrom, flatMap_formatBulk_cons,
            nextArgument_bulk (small arg List.mem_cons_self) [] _ (fun _ member => nomatch member)]
          dsimp only
          rw [induction (fun other member => small other (List.mem_cons_of_mem _ member))
            (by omega)]
          simp [Argument.str]

/-- The arguments of a formatted command are found again. -/
theorem argumentsOf_format {argv : List Bytes} (small : ∀ arg ∈ argv, arg.length ≤ maxBulkLen) :
    argumentsOf (bufferAfter (argv.flatMap formatBulk)) = argv := by
  unfold argumentsOf
  by_cases empty : argv.flatMap formatBulk = []
  · have none : argv = [] := by
      cases argv with
      | nil => rfl
      | cons arg argv => simp [formatBulk] at empty
    rw [none]
    rfl
  · refine argumentsFrom_format small (Nat.le_of_eq ?_)
    rw [bufferAfter, if_neg empty]
    rfl

end Libvalkey
