import Libvalkey.Async.Commands
import Libvalkey.Foundation.Buffer

/-! # Arguments as positions

`nextArgument` at the level of its pointers: which bytes of a command are read, by the loops
over its arguments and by what looks at its name. -/

namespace Libvalkey

open Buffer

/-! ## One argument -/

/-- The loop of `parseBulkLen` up to `end`. The first argument of the recursion bounds its
rounds. -/
def parseBulkDigitsAt (cmd : Bytes) (stop : Nat) :
    Nat → Nat → Nat → Except OutOfBounds (Option (Nat × Nat))
  | 0, acc, p => return some (acc, p)
  | rounds + 1, acc, p => do
      if ¬p < stop then return some (acc, p)
      let byte ← read cmd p
      if Decimal.isDigit byte then
        let next := acc * 10 + Decimal.digitValue byte
        if next > maxBulkLen then return none
        else parseBulkDigitsAt cmd stop rounds next (p + 1)
      else return some (acc, p)

def parseBulkLenAt (cmd : Bytes) (p stop : Nat) : Except OutOfBounds (Option (Nat × Nat)) := do
  if stop = p then return none
  if Decimal.isDigit (← read cmd p) then parseBulkDigitsAt cmd stop (stop - p) 0 p
  else return none

/-- `*str`, `*strlen` and the pointer that is returned. Where `*str` is NULL so is the
pointer, and there is no such value. -/
structure ArgumentSlice where
  slice : Slice
  next : Option Nat
  deriving DecidableEq, Repr

/-- The first `$` of the buffer. -/
def findBulk (cmd : Bytes) (buf buflen : Nat) : Except OutOfBounds (Option Nat) := do
  if (← read cmd buf) ≠ '$'.toUInt8 then find cmd (· == '$'.toUInt8) buf buflen
  else return some buf

/-- `nextArgument` for a buffer in a command. -/
def nextArgumentAt (cmd : Bytes) (buf : Option Nat) (buflen : Nat) :
    Except OutOfBounds (Option ArgumentSlice) := do
  match buf with
  | none => return none
  | some buf =>
      if buflen = 0 then return none
      match ← findBulk cmd buf buflen with
      | none => return none
      | some p =>
          match ← parseBulkLenAt cmd (p + 1) (buf + buflen) with
          | none => return none
          | some (len, p) =>
              let stop := p + 2 + len + 2
              if stop - buf > buflen then return none
              if (← read cmd p) ≠ CR then return none
              if (← read cmd (p + (len + 2))) ≠ CR then return none
              return some ⟨⟨p + 2, len⟩, if stop - buf = buflen then none else some stop⟩

/-! ## The loops -/

/-- `len - (p - cmd)`. What the subtraction of NULL gives is not looked at. -/
def remaining (cmd : Bytes) (p : Option Nat) : Nat := cmd.length - p.getD 0

/-- `while ((p = nextArgument(p, len - (p - cmd), &astr, &alen)) != NULL || astr != NULL)`,
with the copies of the arguments. There is no result if the rounds do not suffice. -/
def argumentsFromAt (cmd : Bytes) : Nat → Option Nat → Except OutOfBounds (Option (List Bytes))
  | 0, _ => return none
  | rounds + 1, p => do
      match ← nextArgumentAt cmd p (remaining cmd p) with
      | none => return some []
      | some argument =>
          let arg ← readSlice cmd argument.slice
          return (← argumentsFromAt cmd rounds argument.next).map (arg :: ·)

/-- Every round takes up some of the command, and there is one at its end. -/
def argumentsAt (cmd : Bytes) (p : Option Nat) : Except OutOfBounds (Option (List Bytes)) :=
  argumentsFromAt cmd (cmd.length + 2) p

/-- The channels that `valkeySsubscribeCallback` goes over. -/
def ssubscribeChannels (cmd : Bytes) : Except OutOfBounds (Option (List Bytes)) := do
  let first ← nextArgumentAt cmd (some 0) cmd.length
  argumentsAt cmd (first.bind (·.next))

/-! ## The name of a command -/

/-- `strncasecmp` with a text, which is read as far as it is the same. -/
def startsIgnoringCaseAt (cmd : Bytes) (p : Nat) : Bytes → Except OutOfBounds Bool
  | [] => return true
  | byte :: text => do
      if tolower (← read cmd p) ≠ byte then return false
      startsIgnoringCaseAt cmd (p + 1) text

def valkeyIsShardedVariantAt (cmd : Bytes) (cstr : Nat) : Except OutOfBounds Bool := do
  if ← startsIgnoringCaseAt cmd cstr (ascii "sm") then return true
  if ← startsIgnoringCaseAt cmd cstr (ascii "ss") then return true
  startsIgnoringCaseAt cmd cstr (ascii "sun")

/-- What `valkeyAsyncAppendCmdLen` finds in a command: its kind, the dictionary it is about
and the channels that it goes over. -/
structure ScannedCommand where
  kind : CommandKind
  variant : Variant
  channels : List Bytes
  deriving DecidableEq, Repr

/-- `hasnext` -/
def hasNextAt (cmd : Bytes) : Option Nat → Except OutOfBounds Bool
  | none => return false
  | some p => return (← read cmd p) == '$'.toUInt8

/-- The comparisons with the name. -/
def commandKindAt (cmd : Bytes) (hasnext : Bool) (cstr : Nat) : Except OutOfBounds CommandKind := do
  if ← (if hasnext then startsIgnoringCaseAt cmd cstr (ascii "subscribe\r\n") else return false) then
    return .subscribe
  if ← startsIgnoringCaseAt cmd cstr (ascii "unsubscribe\r\n") then return .unsubscribe
  if ← startsIgnoringCaseAt cmd cstr (ascii "monitor\r\n") then return .monitor
  return .regular

/-- The reads of `valkeyAsyncAppendCmdLen` on a connection that is subscribed: otherwise it does
not go over the channels of an unsubscription. There is nothing for an empty command. -/
def scanCommand (cmd : Bytes) : Except OutOfBounds (Option ScannedCommand) := do
  match ← nextArgumentAt cmd (some 0) cmd.length with
  | none => return none
  | some first =>
      let cstr := first.slice.start
      let hasnext ← hasNextAt cmd first.next
      let pvariant := tolower (← read cmd cstr) == 'p'.toUInt8
      let svariant ← valkeyIsShardedVariantAt cmd cstr
      let hasprefix := if svariant || pvariant then 1 else 0
      let kind ← commandKindAt cmd hasnext (cstr + hasprefix)
      let variant := if pvariant then .pattern else if svariant then .sharded else .channel
      if hasnext ∧ (kind = .subscribe ∨ kind = .unsubscribe) then
        return (← argumentsAt cmd first.next).map fun channels => ⟨kind, variant, channels⟩
      else return some ⟨kind, variant, []⟩

/-! ## One argument is the one of the buffer -/

section Argument

variable {cmd : Bytes} {p : Nat}

theorem parseBulkDigitsAt_eq (acc : Nat) (inside : p ≤ cmd.length) :
    ∃ parsed, parseBulkDigitsAt cmd cmd.length (cmd.length - p) acc p = .ok parsed ∧
      parseBulkDigits acc (cmd.drop p) = parsed.map (fun found => (found.1, cmd.drop found.2)) ∧
      ∀ found ∈ parsed, p ≤ found.2 ∧ found.2 ≤ cmd.length := by
  generalize rounds : cmd.length - p = count
  induction count generalizing p acc with
  | zero =>
      have atEnd : cmd.drop p = [] := List.drop_of_length_le (by omega)
      exact ⟨some (acc, p), rfl, by simp [atEnd, parseBulkDigits], by simp [inside]⟩
  | succ count induction =>
      have more : p < cmd.length := by omega
      have next : cmd.drop p = cmd[p] :: cmd.drop (p + 1) := (List.getElem_cons_drop more).symm
      rw [parseBulkDigitsAt, if_neg (not_not.mpr more), read_of_lt more, next, parseBulkDigits]
      simp only [ok_bind]
      split
      · split
        · exact ⟨none, rfl, rfl, by simp⟩
        · obtain ⟨parsed, result, text, bounds⟩ :=
            induction (acc * 10 + Decimal.digitValue cmd[p]) more (by omega)
          refine ⟨parsed, result, text, fun found member => ?_⟩
          have bound := bounds found member
          omega
      · exact ⟨some (acc, p), rfl, by rw [Option.map_some, next], by simp [inside]⟩

theorem parseBulkLenAt_eq (inside : p ≤ cmd.length) :
    ∃ parsed, parseBulkLenAt cmd p cmd.length = .ok parsed ∧
      parseBulkLen (cmd.drop p) = parsed.map (fun found => (found.1, cmd.drop found.2)) ∧
      ∀ found ∈ parsed, p ≤ found.2 ∧ found.2 ≤ cmd.length := by
  unfold parseBulkLenAt
  by_cases atEnd : cmd.length = p
  · rw [if_pos atEnd, List.drop_of_length_le (by omega)]
    exact ⟨none, rfl, rfl, by simp⟩
  · have more : p < cmd.length := by omega
    have next : cmd.drop p = cmd[p] :: cmd.drop (p + 1) := (List.getElem_cons_drop more).symm
    rw [if_neg atEnd, read_of_lt more, next, parseBulkLen]
    simp only [ok_bind]
    split
    · rw [← next]
      exact parseBulkDigitsAt_eq 0 inside
    · exact ⟨none, rfl, rfl, by simp⟩

theorem findBulk_eq (more : p < cmd.length) :
    ∃ found, findBulk cmd p (cmd.length - p) = .ok found ∧
      match found with
      | none => (cmd.drop p).dropWhile (· != '$'.toUInt8) = []
      | some first => p ≤ first ∧ first < cmd.length ∧
          (cmd.drop p).dropWhile (· != '$'.toUInt8) = cmd.drop first := by
  unfold findBulk
  rw [read_of_lt more, ok_bind]
  by_cases here : cmd[p] = '$'.toUInt8
  · have next : cmd.drop p = cmd[p] :: cmd.drop (p + 1) := (List.getElem_cons_drop more).symm
    refine ⟨some p, by simp [here], Nat.le_refl _, more, ?_⟩
    rw [next, List.dropWhile_cons, if_neg (by simp [here])]
  · rw [if_pos here]
    exact find_eq _ (Nat.le_of_lt more)

/-- An argument at its positions. -/
structure ArgumentAt (cmd : Bytes) (p : Nat) (argument : ArgumentSlice) : Prop where
  text : nextArgument (cmd.drop p) =
    some ⟨cmd.drop argument.slice.start, argument.slice.len, argument.next.map fun q => cmd.drop q⟩
  start : p < argument.slice.start
  ends : cmd[argument.slice.start + argument.slice.len]? = some CR
  fits : argument.slice.start + argument.slice.len + 2 ≤ cmd.length
  next : ∀ q ∈ argument.next, q = argument.slice.start + argument.slice.len + 2 ∧ q < cmd.length

/-- The separators of an argument whose length has been read. -/
theorem nextArgument_of_length {len q : Nat} {text : Bytes}
    (bulk : text.dropWhile (· != '$'.toUInt8) = '$'.toUInt8 :: cmd.drop p)
    (length : parseBulkLen (cmd.drop p) = some (len, cmd.drop q)) :
    nextArgument text =
      if q + (len + 4) ≤ cmd.length ∧ cmd[q]? = some CR ∧ cmd[q + (len + 2)]? = some CR then
        some ⟨cmd.drop (q + 2), len,
          if q + (len + 4) = cmd.length then none else some (cmd.drop (q + (len + 4)))⟩
      else none := by
  unfold nextArgument
  rw [bulk]
  dsimp only
  rw [length]
  simp only [List.length_drop, List.head?_drop, List.getElem?_drop, List.drop_drop]
  by_cases fits : q + (len + 4) ≤ cmd.length
  · have enough : ¬cmd.length - q < len + 4 := by omega
    have last : (cmd.length - q = len + 4) ↔ q + (len + 4) = cmd.length := by omega
    by_cases first : cmd[q]? = some CR <;> by_cases second : cmd[q + (len + 2)]? = some CR <;>
      simp [fits, enough, first, second, last]
  · have short : cmd.length - q < len + 4 := by omega
    rw [if_pos (.inl short), if_neg (fun whole => fits whole.1)]

/-- The pointers that are set for an argument. -/
theorem argumentAt_of_length {len q : Nat} (lower : p ≤ q) (fits : q + (len + 4) ≤ cmd.length)
    (ends : cmd[q + (len + 2)]? = some CR)
    (whole : nextArgument (cmd.drop p) = some ⟨cmd.drop (q + 2), len,
      if q + (len + 4) = cmd.length then none else some (cmd.drop (q + (len + 4)))⟩) :
    ArgumentAt cmd p ⟨⟨q + 2, len⟩,
      if q + 2 + len + 2 - p = cmd.length - p then none else some (q + 2 + len + 2)⟩ := by
  have position : q + 2 + len + 2 = q + (len + 4) := by omega
  have last : q + (len + 4) - p = cmd.length - p ↔ q + (len + 4) = cmd.length := by omega
  constructor <;> dsimp only
  · rw [whole, position]
    by_cases ended : q + (len + 4) = cmd.length <;> simp [last, ended]
  · omega
  · rw [Nat.add_right_comm, Nat.add_assoc, ends]
  · omega
  · intro next member
    rw [position] at member
    split at member
    · cases member
    · obtain rfl := Option.some.inj member
      omega

theorem nextArgumentAt_eq (inside : p ≤ cmd.length) :
    ∃ found, nextArgumentAt cmd (some p) (cmd.length - p) = .ok found ∧
      match found with
      | none => nextArgument (cmd.drop p) = none
      | some argument => ArgumentAt cmd p argument := by
  unfold nextArgumentAt
  dsimp only
  by_cases empty : cmd.length - p = 0
  · rw [if_pos empty, List.drop_of_length_le (by omega)]
    exact ⟨none, rfl, rfl⟩
  · have more : p < cmd.length := by omega
    obtain ⟨bulk, bulkResult, bulkText⟩ := findBulk_eq more
    rw [if_neg empty, bulkResult, ok_bind]
    cases bulk with
    | none => exact ⟨none, rfl, by rw [nextArgument, bulkText]⟩
    | some first =>
        obtain ⟨lower, upper, rest⟩ := bulkText
        have stop : p + (cmd.length - p) = cmd.length := by omega
        obtain ⟨parsed, lenResult, lenText, bounds⟩ := parseBulkLenAt_eq (Nat.succ_le_of_lt upper)
        have marked : cmd[first] = '$'.toUInt8 := by
          have stops := List.head?_dropWhile_not (· != '$'.toUInt8) (cmd.drop p)
          rw [rest, List.head?_drop, List.getElem?_eq_getElem upper] at stops
          simpa using stops
        have bulk : (cmd.drop p).dropWhile (· != '$'.toUInt8) =
            '$'.toUInt8 :: cmd.drop (first + 1) := by
          rw [rest, ← marked, List.getElem_cons_drop]
        dsimp only
        rw [stop, lenResult, ok_bind]
        cases parsed with
        | none =>
            refine ⟨none, rfl, ?_⟩
            unfold nextArgument
            rw [bulk]
            dsimp only
            rw [lenText]
            rfl
        | some found =>
            obtain ⟨len, q⟩ := found
            obtain ⟨lowerToo, upperToo⟩ := bounds _ rfl
            have whole := nextArgument_of_length bulk lenText
            dsimp only
            by_cases fits : q + (len + 4) ≤ cmd.length
            · have first : q < cmd.length := by omega
              have second : q + (len + 2) < cmd.length := by omega
              rw [if_neg (by omega), read_of_lt first, ok_bind, read_of_lt second]
              rw [List.getElem?_eq_getElem first, List.getElem?_eq_getElem second] at whole
              by_cases startsCR : cmd[q] = CR
              · by_cases endsCR : cmd[q + (len + 2)] = CR
                · rw [if_pos ⟨fits, by rw [startsCR], by rw [endsCR]⟩] at whole
                  refine ⟨some ⟨⟨q + 2, len⟩,
                    if q + 2 + len + 2 - p = cmd.length - p then none else some (q + 2 + len + 2)⟩,
                    by simp [startsCR, endsCR], ?_⟩
                  exact argumentAt_of_length (by omega) fits
                    (by rw [List.getElem?_eq_getElem second, endsCR]) whole
                · rw [if_neg (by simp [endsCR])] at whole
                  exact ⟨none, by simp [startsCR, endsCR], whole⟩
              · rw [if_neg (by simp [startsCR])] at whole
                exact ⟨none, by simp [startsCR], whole⟩
            · rw [if_neg (fun both => fits both.1)] at whole
              rw [if_pos (by omega)]
              exact ⟨none, rfl, whole⟩

end Argument

/-! ## The loops stop at the end -/

section Loop

variable {cmd : Bytes} {p : Nat}

/-- After the last argument the loop is left. -/
theorem argumentsFromAt_none {rounds : Nat} (more : 0 < rounds) :
    argumentsFromAt cmd rounds none = .ok (some []) := by
  obtain ⟨rounds, rfl⟩ := Nat.exists_eq_succ_of_ne_zero (Nat.ne_of_gt more)
  rfl

theorem argumentsFrom_none (fuel : Nat) : argumentsFrom fuel none = [] := by
  cases fuel <;> rfl

/-- The loop takes the arguments out of the command one by one. -/
theorem argumentsFromAt_eq (inside : p ≤ cmd.length) {rounds fuel : Nat}
    (enough : cmd.length - p + 1 < rounds) (enoughToo : cmd.length - p ≤ fuel) :
    argumentsFromAt cmd rounds (some p) = .ok (some (argumentsFrom fuel (some (cmd.drop p)))) := by
  induction fuel generalizing p rounds with
  | zero =>
      obtain ⟨rounds, rfl⟩ := Nat.exists_eq_succ_of_ne_zero (show rounds ≠ 0 by omega)
      have empty : cmd.length - p = 0 := by omega
      rw [argumentsFromAt, remaining, Option.getD_some, empty]
      rfl
  | succ fuel induction =>
      obtain ⟨rounds, rfl⟩ := Nat.exists_eq_succ_of_ne_zero (show rounds ≠ 0 by omega)
      obtain ⟨found, result, argumentAt⟩ := nextArgumentAt_eq inside
      rw [argumentsFromAt, remaining, Option.getD_some, result, ok_bind, argumentsFrom]
      cases found with
      | none =>
          rw [argumentAt]
          rfl
      | some argument =>
          have fits := argumentAt.fits
          have copied : argument.slice.Inside cmd := by
            unfold Slice.Inside
            omega
          rw [argumentAt.text]
          dsimp only
          rw [readSlice_of_inside copied, ok_bind]
          have later : argumentsFromAt cmd rounds argument.next =
              .ok (some (argumentsFrom fuel (argument.next.map fun q => cmd.drop q))) := by
            cases next : argument.next with
            | none =>
                rw [argumentsFromAt_none (by omega), Option.map_none, argumentsFrom_none]
            | some q =>
                have start := argumentAt.start
                obtain ⟨rfl, bound⟩ := argumentAt.next q next
                exact induction (by omega) (by omega) (by omega)
          rw [later]
          rfl

theorem argumentsAt_eq {p : Option Nat} (inside : ∀ q ∈ p, q ≤ cmd.length) :
    argumentsAt cmd p = .ok (some (argumentsOf (p.map fun q => cmd.drop q))) := by
  cases p with
  | none => exact argumentsFromAt_none (by omega)
  | some q =>
      refine argumentsFromAt_eq (inside q rfl) (by omega) ?_
      simp

theorem ssubscribeChannels_eq (cmd : Bytes) : ssubscribeChannels cmd =
    .ok (some (argumentsOf ((nextArgument cmd).bind (·.next)))) := by
  obtain ⟨found, result, argumentAt⟩ := nextArgumentAt_eq (Nat.zero_le cmd.length)
  rw [Nat.sub_zero] at result
  rw [ssubscribeChannels, result, ok_bind]
  cases found with
  | none =>
      rw [List.drop_zero] at argumentAt
      rw [argumentAt]
      exact argumentsAt_eq (by simp)
  | some first =>
      have text := argumentAt.text
      rw [List.drop_zero] at text
      rw [text]
      exact argumentsAt_eq fun q next => Nat.le_of_lt (argumentAt.next q next).2

end Loop

/-! ## The comparisons stop at the name -/

section Name

variable {cmd : Bytes} {p stop : Nat}

/-- The place behind the name: a CR that another byte follows. -/
structure NameEnds (cmd : Bytes) (p stop : Nat) : Prop where
  reached : p ≤ stop
  ends : cmd[stop]? = some CR
  more : stop + 1 < cmd.length

theorem startsIgnoringCase_cons (byte other : UInt8) (beginning text : Bytes) :
    startsIgnoringCase (byte :: beginning) (other :: text) =
      (tolower other == byte && startsIgnoringCase beginning text) := by
  simp [startsIgnoringCase]

theorem NameEnds.inside (ends : NameEnds cmd p stop) : p < cmd.length := by
  have := ends.reached
  have := ends.more
  omega

/-- A byte of the name that is not a CR is followed by another one. -/
theorem NameEnds.next (ends : NameEnds cmd p stop) {byte : UInt8} (notCR : byte ≠ CR)
    (same : cmd[p]?.map tolower = some byte) : NameEnds cmd (p + 1) stop := by
  have different : p ≠ stop := by
    rintro rfl
    rw [ends.ends] at same
    exact notCR (Option.some.inj same).symm
  have reached := ends.reached
  exact ⟨by omega, ends.ends, ends.more⟩

/-- A round of a comparison. -/
theorem startsIgnoringCaseAt_cons (inside : p < cmd.length) {byte : UInt8} {text : Bytes}
    (later : tolower cmd[p] = byte → startsIgnoringCaseAt cmd (p + 1) text =
      .ok (startsIgnoringCase text (cmd.drop (p + 1)))) :
    startsIgnoringCaseAt cmd p (byte :: text) =
      .ok (startsIgnoringCase (byte :: text) (cmd.drop p)) := by
  rw [startsIgnoringCaseAt, read_of_lt inside, ok_bind, ← List.getElem_cons_drop inside,
    startsIgnoringCase_cons]
  by_cases same : tolower cmd[p] = byte
  · simp [same, later same]
  · simp [same]

theorem startsIgnoringCaseAt_nil : startsIgnoringCaseAt cmd p [] =
    .ok (startsIgnoringCase [] (cmd.drop p)) := by
  simp [startsIgnoringCaseAt, startsIgnoringCase]

/-- A comparison with a word, or with a word and a newline, stays inside. -/
theorem startsIgnoringCaseAt_eq {newline : Bytes} (either : newline = [] ∨ newline = [CR, LF])
    {word : Bytes} (noCR : CR ∉ word) (ends : NameEnds cmd p stop) :
    startsIgnoringCaseAt cmd p (word ++ newline) =
      .ok (startsIgnoringCase (word ++ newline) (cmd.drop p)) := by
  induction word generalizing p with
  | nil =>
      rcases either with rfl | rfl
      · exact startsIgnoringCaseAt_nil
      · have reached := ends.reached
        have more := ends.more
        exact startsIgnoringCaseAt_cons ends.inside fun _ =>
          startsIgnoringCaseAt_cons (by omega) fun _ => startsIgnoringCaseAt_nil
  | cons byte word induction =>
      rw [List.mem_cons, not_or] at noCR
      refine startsIgnoringCaseAt_cons ends.inside fun same =>
        induction noCR.2 (ends.next (Ne.symm noCR.1) ?_)
      rw [List.getElem?_eq_getElem ends.inside, Option.map_some, same]

theorem valkeyIsShardedVariantAt_eq (ends : NameEnds cmd p stop) :
    valkeyIsShardedVariantAt cmd p = .ok (valkeyIsShardedVariant (cmd.drop p)) := by
  have compared {word : Bytes} (noCR : CR ∉ word) : startsIgnoringCaseAt cmd p word =
      .ok (startsIgnoringCase word (cmd.drop p)) := by
    simpa using startsIgnoringCaseAt_eq (.inl rfl) noCR ends
  rw [valkeyIsShardedVariantAt, valkeyIsShardedVariant, compared (by decide),
    compared (by decide), compared (by decide)]
  simp only [ok_bind]
  cases startsIgnoringCase (ascii "sm") (cmd.drop p) <;>
    cases startsIgnoringCase (ascii "ss") (cmd.drop p) <;> rfl

/-- The first byte of a name with a prefix is not a CR. -/
theorem NameEnds.skip (ends : NameEnds cmd p stop) :
    NameEnds cmd (p + prefixLength (cmd.drop p)) stop := by
  have inside := ends.inside
  have next : cmd.drop p = cmd[p] :: cmd.drop (p + 1) := (List.getElem_cons_drop inside).symm
  unfold prefixLength
  split
  · rename_i hasPrefix
    have known : cmd[p]?.map tolower = some (tolower cmd[p]) := by
      rw [List.getElem?_eq_getElem inside, Option.map_some]
    have first : tolower cmd[p] = 's'.toUInt8 ∨ tolower cmd[p] = 'p'.toUInt8 := by
      rw [next] at hasPrefix
      have sm : ascii "sm" = ['s'.toUInt8, 'm'.toUInt8] := by decide
      have ss : ascii "ss" = ['s'.toUInt8, 's'.toUInt8] := by decide
      have sun : ascii "sun" = ['s'.toUInt8, 'u'.toUInt8, 'n'.toUInt8] := by decide
      rw [valkeyIsShardedVariant, sm, ss, sun, startsIgnoringCase_cons, startsIgnoringCase_cons,
        startsIgnoringCase_cons, isPatternVariant] at hasPrefix
      simp only [Bool.or_eq_true, Bool.and_eq_true, beq_iff_eq, List.head?_cons, Option.map_some,
        Option.some.injEq] at hasPrefix
      tauto
    rcases first with sharded | pattern
    · exact ends.next (by decide) (sharded ▸ known)
    · exact ends.next (by decide) (pattern ▸ known)
  · exact ends

theorem commandKindAt_eq (ends : NameEnds cmd p stop) {first : Argument}
    (text : first.text = cmd.drop p) :
    commandKindAt cmd first.hasNext (p + prefixLength (cmd.drop p)) = .ok (commandKind first) := by
  rw [commandKind, text, List.drop_drop]
  replace ends := ends.skip
  generalize p + prefixLength (cmd.drop p) = p at ends ⊢
  have compared {word : Bytes} (noCR : CR ∉ word) :
      startsIgnoringCaseAt cmd p (word ++ [CR, LF]) =
        .ok (startsIgnoringCase (word ++ [CR, LF]) (cmd.drop p)) :=
    startsIgnoringCaseAt_eq (.inr rfl) noCR ends
  have subscribe : ascii "subscribe\r\n" = ascii "subscribe" ++ [CR, LF] := by decide
  have unsubscribe : ascii "unsubscribe\r\n" = ascii "unsubscribe" ++ [CR, LF] := by decide
  have monitor : ascii "monitor\r\n" = ascii "monitor" ++ [CR, LF] := by decide
  rw [commandKindAt, subscribe, unsubscribe, monitor, compared (by decide), compared (by decide),
    compared (by decide)]
  cases first.hasNext <;> cases startsIgnoringCase (ascii "subscribe" ++ [CR, LF]) (cmd.drop p) <;>
    cases startsIgnoringCase (ascii "unsubscribe" ++ [CR, LF]) (cmd.drop p) <;>
    cases startsIgnoringCase (ascii "monitor" ++ [CR, LF]) (cmd.drop p) <;> rfl

end Name

/-- What is found in a command. -/
def Argument.scanned (first : Argument) : ScannedCommand where
  kind := commandKind first
  variant := variantOf first.text
  channels :=
    if first.hasNext ∧ (commandKind first = .subscribe ∨ commandKind first = .unsubscribe) then
      argumentsOf first.next
    else []

theorem ArgumentAt.nameEnds {cmd : Bytes} {p : Nat} {argument : ArgumentSlice}
    (at_ : ArgumentAt cmd p argument) :
    NameEnds cmd argument.slice.start (argument.slice.start + argument.slice.len) where
  reached := Nat.le_add_right _ _
  ends := at_.ends
  more := by
    have fits := at_.fits
    omega

/-- Whatever the bytes of a command, what is read of it is inside. -/
theorem scanCommand_eq (cmd : Bytes) :
    scanCommand cmd = .ok ((nextArgument cmd).map Argument.scanned) := by
  obtain ⟨found, result, argumentAt⟩ := nextArgumentAt_eq (Nat.zero_le cmd.length)
  rw [Nat.sub_zero] at result
  rw [scanCommand, result, ok_bind]
  cases found with
  | none =>
      rw [List.drop_zero] at argumentAt
      rw [argumentAt]
      rfl
  | some first =>
      have ends := argumentAt.nameEnds
      have text := argumentAt.text
      rw [List.drop_zero] at text
      have hasnext : hasNextAt cmd first.next =
          .ok (Argument.hasNext ⟨cmd.drop first.slice.start, first.slice.len,
            first.next.map fun q => cmd.drop q⟩) := by
        cases next : first.next with
        | none => rfl
        | some q =>
            obtain ⟨_, bound⟩ := argumentAt.next q next
            simp [hasNextAt, read_of_lt bound, Argument.hasNext, List.getElem?_eq_getElem bound]
      have inside := ends.inside
      have pattern : isPatternVariant (cmd.drop first.slice.start) =
          (tolower cmd[first.slice.start] == 'p'.toUInt8) := by
        simp [isPatternVariant, List.getElem?_eq_getElem inside]
      have channels : argumentsAt cmd first.next =
          .ok (some (argumentsOf (first.next.map fun q => cmd.drop q))) :=
        argumentsAt_eq fun q next => Nat.le_of_lt (argumentAt.next q next).2
      dsimp only
      rw [hasnext, ok_bind, read_of_lt inside, ok_bind, valkeyIsShardedVariantAt_eq ends,
        ok_bind, ← pattern, ← prefixLength, commandKindAt_eq ends rfl, ok_bind, channels, ok_bind,
        ← variantOf, text]
      simp only [Option.map_some, Argument.scanned]
      split <;> rfl

end Libvalkey
