import Libvalkey.Command.Routing
import Libvalkey.Command.SliceBounds

/-! # The key of a stream command

The first key of XREAD and XREADGROUP stands behind the keyword STREAMS. The search for
the keyword starts one argument too late. -/

namespace Libvalkey

open Buffer

/-! ## Arguments of an encoding -/

/-- The slice of an argument whose bulk string starts at a position. -/
def bulkSlice (p : Nat) (arg : Bytes) : Slice :=
  ⟨p + (Decimal.ofNat arg.length).length + 3, arg.length⟩

theorem length_formatBulk (arg : Bytes) :
    (formatBulk arg).length = (Decimal.ofNat arg.length).length + arg.length + 5 := by
  simp only [formatBulk, List.length_append, List.length_cons, List.length_nil]
  omega

theorem formatBulk_eq (arg rest : Bytes) :
    formatBulk arg ++ rest = bulkText (Decimal.ofNat arg.length) arg rest := by
  simp [formatBulk, bulkText, withCount]

/-- The rest of a buffer from a position on. -/
structure RestAt (buf : Bytes) (p : Nat) (text : Bytes) : Prop where
  inside : p ≤ buf.length
  text : buf.drop p = text

section Format

variable {buf rest arg : Bytes} {p : Nat}

theorem valkey_parse_bulk_at_format (small : arg.length < 2 ^ 32)
    (here : RestAt buf p (formatBulk arg ++ rest)) :
    valkey_parse_bulk_at buf p =
        .ok ⟨some (bulkSlice p arg), some (p + (formatBulk arg).length)⟩ ∧
      RestAt buf (p + (formatBulk arg).length) rest := by
  obtain ⟨⟨slice, next⟩, result, bulkAt⟩ := valkey_parse_bulk_at_eq buf p
  have parsed := bulkAt.text
  rw [here.text, valkey_parse_bulk_format small] at parsed
  obtain ⟨slice, rfl, pair⟩ := Option.map_eq_some_iff.mp parsed.symm
  obtain ⟨contents, after⟩ := Prod.mk.inj pair
  obtain ⟨q, rfl, rest⟩ := Option.map_eq_some_iff.mp after
  obtain ⟨digits, all, counted, len⟩ := bulkAt.counted slice rfl
  rw [here.text, formatBulk_eq] at counted
  obtain ⟨rfl, payload⟩ := withCount_inj (Decimal.isDigit_of_mem_ofNat _) all counted
  obtain ⟨_, same, position, bound⟩ := bulkAt.next q rfl
  obtain rfl := Option.some.inj same
  have startInside := (bulkAt.start slice rfl).2
  have inside := here.inside
  rw [Decimal.accumulate_ofNat, Nat.mod_eq_of_lt small] at len
  have whole := congrArg List.length here.text
  have tail := congrArg List.length payload
  simp only [List.length_drop, List.length_append, List.length_cons,
    length_formatBulk] at whole tail
  have start : slice.start = p + (Decimal.ofNat arg.length).length + 3 := by omega
  have same : slice = bulkSlice p arg := by rw [bulkSlice, ← start, ← len]
  have next : q = p + (formatBulk arg).length := by
    rw [length_formatBulk]
    omega
  subst same next
  exact ⟨result, bound, rest⟩

theorem bulkSlice_contents (here : RestAt buf p (formatBulk arg ++ rest)) :
    (bulkSlice p arg).Inside buf ∧ (bulkSlice p arg).contents buf = arg := by
  have inside := here.inside
  have whole := congrArg List.length here.text
  simp only [List.length_drop, List.length_append, length_formatBulk] at whole
  refine ⟨?_, ?_⟩
  · simp only [Slice.Inside, bulkSlice]
    omega
  · have text : formatBulk arg ++ rest =
        ('$'.toUInt8 :: Decimal.ofNat arg.length ++ [CR, LF]) ++ (arg ++ CR :: LF :: rest) := by
      simp [formatBulk]
    have front : ('$'.toUInt8 :: Decimal.ofNat arg.length ++ [CR, LF]).length =
        (Decimal.ofNat arg.length).length + 3 := by simp
    rw [Slice.contents, bulkSlice]
    dsimp only
    rw [Nat.add_assoc, ← List.drop_drop, here.text, text, ← front, List.drop_left, List.take_left]

/-- One round of the search. -/
theorem keyAfterKeywordAt_format (small : arg.length < 2 ^ 32)
    (here : RestAt buf p (formatBulk arg ++ rest)) (keyword : Bytes)
    (startfrom argidx count : Nat) :
    keyAfterKeywordAt buf keyword startfrom argidx p (count + 1) =
      if argidx < startfrom ∨ sameIgnoringCase keyword arg = false then
        keyAfterKeywordAt buf keyword startfrom (argidx + 1) (p + (formatBulk arg).length) count
      else
        (do return (← parseBulksAt buf (bulkSlice p arg) (p + (formatBulk arg).length) 1).map (·.1)) := by
  obtain ⟨inside, contents⟩ := bulkSlice_contents here
  rw [keyAfterKeywordAt, (valkey_parse_bulk_at_format small here).1, ok_bind]
  dsimp only
  rw [readSlice_of_inside inside, contents, ok_bind]
  by_cases early : argidx < startfrom
  · simp [early]
  · by_cases found : sameIgnoringCase keyword arg <;> simp [early, found]

/-- Arguments that are not the keyword, or that come too early for it, are skipped. -/
theorem keyAfterKeywordAt_skip {keyword : Bytes} {startfrom argidx : Nat} {args : List Bytes}
    (small : ∀ arg ∈ args, arg.length < 2 ^ 32)
    (other : ∀ i arg, args[i]? = some arg →
      argidx + i < startfrom ∨ sameIgnoringCase keyword arg = false)
    (here : RestAt buf p (args.flatMap formatBulk ++ rest)) (count : Nat) :
    keyAfterKeywordAt buf keyword startfrom argidx p (args.length + count) =
        keyAfterKeywordAt buf keyword startfrom (argidx + args.length)
          (p + (args.flatMap formatBulk).length) count ∧
      RestAt buf (p + (args.flatMap formatBulk).length) rest := by
  induction args generalizing p argidx with
  | nil => simpa using here
  | cons arg args induction =>
      rw [List.flatMap_cons, List.append_assoc] at here
      have argSmall := small arg List.mem_cons_self
      have now : argidx < startfrom ∨ sameIgnoringCase keyword arg = false := by
        simpa using other 0 arg rfl
      have later (i : Nat) (arg : Bytes) (known : args[i]? = some arg) :
          argidx + 1 + i < startfrom ∨ sameIgnoringCase keyword arg = false := by
        rw [show argidx + 1 + i = argidx + (i + 1) by omega]
        exact other (i + 1) arg (by simpa using known)
      have next := (valkey_parse_bulk_at_format argSmall here).2
      have step := keyAfterKeywordAt_format argSmall here keyword startfrom argidx
        (args.length + count)
      rw [if_pos now] at step
      have rounds : (arg :: args).length + count = args.length + count + 1 := by
        rw [List.length_cons]
        omega
      have position : p + ((arg :: args).flatMap formatBulk).length =
          p + (formatBulk arg).length + (args.flatMap formatBulk).length := by
        rw [List.flatMap_cons, List.length_append]
        omega
      have index : argidx + (arg :: args).length = argidx + 1 + args.length := by
        rw [List.length_cons]
        omega
      rw [rounds, position, index, step]
      exact induction (fun arg member => small arg (List.mem_cons_of_mem _ member)) later next

/-- The first key follows the keyword. -/
theorem keyAfterKeywordAt_found {keyword word key : Bytes} {startfrom argidx : Nat}
    (wordSmall : word.length < 2 ^ 32) (keySmall : key.length < 2 ^ 32)
    (reached : startfrom ≤ argidx) (matches_ : sameIgnoringCase keyword word = true)
    (here : RestAt buf p (formatBulk word ++ (formatBulk key ++ rest))) (count : Nat) :
    keyAfterKeywordAt buf keyword startfrom argidx p (count + 1) =
      .ok (some (bulkSlice (p + (formatBulk word).length) key)) := by
  have next := (valkey_parse_bulk_at_format wordSmall here).2
  rw [keyAfterKeywordAt_format wordSmall here, if_neg (by simp [matches_, reached]), parseBulksAt,
    (valkey_parse_bulk_at_format keySmall next).1]
  rfl

theorem RestAt.position {text : Bytes} (here : RestAt buf p text) :
    p = buf.length - text.length := by
  have whole := congrArg List.length here.text
  have inside := here.inside
  rw [List.length_drop] at whole
  omega

/-- A key that is found stands behind the argument at which the search starts. -/
theorem keyAfterKeywordAt_behind {keyword : Bytes} {startfrom argidx count : Nat} {slice : Slice}
    (found : keyAfterKeywordAt buf keyword startfrom argidx p count = .ok (some slice)) :
    ∃ first next, valkey_parse_bulk_at buf p = .ok ⟨some first, some next⟩ ∧
      next < slice.start := by
  induction count generalizing argidx p with
  | zero => cases found
  | succ count induction =>
      obtain ⟨bulk, result, bulkAt⟩ := valkey_parse_bulk_at_eq buf p
      rw [keyAfterKeywordAt, result, ok_bind] at found
      obtain ⟨start, rest⟩ := bulk
      cases start with
      | none => cases found
      | some first =>
          cases rest with
          | none => cases found
          | some next =>
              refine ⟨first, next, result, ?_⟩
              obtain ⟨⟨second, after⟩, secondResult, secondAt⟩ := valkey_parse_bulk_at_eq buf next
              have later (found : keyAfterKeywordAt buf keyword startfrom (argidx + 1) next count =
                  .ok (some slice)) : next < slice.start := by
                obtain ⟨other, otherNext, again, behind⟩ := induction found
                rw [secondResult] at again
                obtain ⟨rfl, rfl⟩ := BulkSlice.mk.inj (Except.ok.inj again)
                obtain ⟨_, same, position, _⟩ := secondAt.next otherNext rfl
                obtain rfl := Option.some.inj same
                have start := (secondAt.start other rfl).1
                omega
              simp only [readSlice_of_inside bulkAt.inside, ok_bind] at found
              split at found
              · exact later found
              · split at found
                · rw [parseBulksAt, secondResult, ok_bind] at found
                  cases second with
                  | none => cases found
                  | some key =>
                      cases after with
                      | none => cases found
                      | some q =>
                          have same : key = slice := Option.some.inj (Except.ok.inj found)
                          exact same ▸ (secondAt.start key rfl).1
                · exact later found

end Format

theorem parseHeaderAt_format {argv : List Bytes} (notEmpty : argv ≠ [])
    (small : argv.length < 2 ^ 32) :
    ∃ p, parseHeaderAt (valkeyFormatCommandArgv argv) = .ok (some (argv.length, p)) ∧
      RestAt (valkeyFormatCommandArgv argv) p (argv.flatMap formatBulk) := by
  have bytes : valkeyFormatCommandArgv argv ≠ [] := by simp [valkeyFormatCommandArgv]
  obtain ⟨header, result, parsed, bound⟩ := parseHeaderAt_eq bytes
  rw [parseHeader_format notEmpty small] at parsed
  obtain ⟨⟨count, p⟩, rfl, same⟩ := Option.map_eq_some_iff.mp parsed.symm
  obtain ⟨rfl, text⟩ := Prod.mk.inj same
  exact ⟨p, result, bound _ rfl, text⟩

/-- A bulk string takes six bytes at least. -/
theorem six_argc_le_format (argv : List Bytes) :
    6 * argv.length ≤ (valkeyFormatCommandArgv argv).length := by
  have body : 6 * argv.length ≤ (argv.flatMap formatBulk).length := by
    induction argv with
    | nil => exact Nat.le_refl _
    | cons arg argv induction =>
        have digits := List.length_pos_of_ne_nil (Decimal.ofNat_ne_nil arg.length)
        rw [List.flatMap_cons, List.length_append, List.length_cons, length_formatBulk]
        omega
  simp only [valkeyFormatCommandArgv, List.length_append, List.length_cons]
  omega

/-- The first two arguments of an encoding are looked up. -/
theorem valkey_parse_cmd_at_format {arg0 arg1 : Bytes} {rest : List Bytes}
    (fits : (valkeyFormatCommandArgv (arg0 :: arg1 :: rest)).length < 2 ^ 32) (allocated : Bool) :
    ∃ first second p,
      valkey_parse_cmd_at allocated (valkeyFormatCommandArgv (arg0 :: arg1 :: rest)) =
          parseArgumentsAt allocated (valkeyFormatCommandArgv (arg0 :: arg1 :: rest))
            (rest.length + 2) first (some second) p ∧
        readSlice (valkeyFormatCommandArgv (arg0 :: arg1 :: rest)) first = .ok arg0 ∧
        readSlice (valkeyFormatCommandArgv (arg0 :: arg1 :: rest)) second = .ok arg1 ∧
        RestAt (valkeyFormatCommandArgv (arg0 :: arg1 :: rest)) p (rest.flatMap formatBulk) := by
  have counted := six_argc_le_format (arg0 :: arg1 :: rest)
  have count : (arg0 :: arg1 :: rest).length = rest.length + 2 := rfl
  have small (arg : Bytes) (member : arg ∈ arg0 :: arg1 :: rest) : arg.length < 2 ^ 32 := by
    have := length_le_format member
    omega
  obtain ⟨p, header, start⟩ :=
    parseHeaderAt_format (List.cons_ne_nil arg0 (arg1 :: rest)) (by omega)
  rw [List.flatMap_cons] at start
  obtain ⟨first, next⟩ := valkey_parse_bulk_at_format (small arg0 (by simp)) start
  rw [List.flatMap_cons] at next
  obtain ⟨second, last⟩ := valkey_parse_bulk_at_format (small arg1 (by simp)) next
  obtain ⟨firstInside, firstContents⟩ := bulkSlice_contents start
  obtain ⟨secondInside, secondContents⟩ := bulkSlice_contents next
  refine ⟨bulkSlice p arg0, bulkSlice (p + (formatBulk arg0).length) arg1, _, ?_, ?_, ?_, last⟩
  · rw [valkey_parse_cmd_at, header, ok_bind]
    simp only [count, first, second, ok_bind]
    rw [if_pos (by omega)]
  · rw [readSlice_of_inside firstInside, firstContents]
  · rw [readSlice_of_inside secondInside, secondContents]

/-! ## Stream commands -/

/-- A keyword in any letter case. -/
structure Word (upper : String) where
  bytes : Bytes
  spelled : to_upper bytes = ascii upper

/-- The text of an integer. -/
structure IntegerText where
  negative : Bool
  digits : Bytes
  all : AllDigits digits
  given : digits ≠ []

def IntegerText.bytes (number : IntegerText) : Bytes :=
  (if number.negative then ascii "-" else []) ++ number.digits

theorem Word.sameIgnoringCase {upper : String} (word : Word upper) (text : Bytes) :
    sameIgnoringCase text word.bytes = (strncmp (to_upper text) (ascii upper) == .eq) := by
  rw [Libvalkey.sameIgnoringCase, word.spelled]

/-- A text that starts below `S` is not taken for the keyword. -/
theorem sameIgnoringCase_streams {byte : UInt8} (below : toUpperByte byte < 'S'.toUInt8)
    (rest : Bytes) : sameIgnoringCase (ascii "STREAMS") (byte :: rest) = false := by
  have text : to_upper (ascii "STREAMS") = 'S'.toUInt8 :: ascii "TREAMS" := by decide
  have notLess : ¬('S'.toUInt8 < toUpperByte byte) := UInt8.lt_asymm below
  rw [sameIgnoringCase, text, to_upper, List.map_cons, strncmp, if_neg notLess, if_pos below]
  rfl

theorem IntegerText.not_streams (number : IntegerText) :
    sameIgnoringCase (ascii "STREAMS") number.bytes = false := by
  obtain ⟨negative, digits, all, given⟩ := number
  obtain ⟨byte, rest, rfl⟩ := List.exists_cons_of_ne_nil given
  cases negative with
  | true => exact sameIgnoringCase_streams (by decide) _
  | false =>
      have digit : Decimal.isDigit byte = true := all byte List.mem_cons_self
      have bounds := (Decimal.isDigit_iff byte).mp digit
      refine sameIgnoringCase_streams ?_ rest
      have notLower : ¬('a'.toUInt8 ≤ byte ∧ byte ≤ 'z'.toUInt8) := fun lower => by
        have : (97 : Nat) ≤ byte.toNat := UInt8.le_iff_toNat_le.mp lower.1
        omega
      rw [toUpperByte, if_neg notLower, UInt8.lt_iff_toNat_lt]
      exact lt_of_le_of_lt bounds.2 (by decide)

/-- The command and its arguments in front of the options. -/
inductive StreamsHead
  | xread (name : Word "XREAD")
  | xreadgroup (name : Word "XREADGROUP") (keyword : Word "GROUP") (group consumer : Bytes)

namespace StreamsHead

def grouped : StreamsHead → Bool
  | .xread _ => false
  | .xreadgroup _ _ _ _ => true

def name : StreamsHead → Bytes
  | .xread name => name.bytes
  | .xreadgroup name _ _ _ => name.bytes

/-- The arguments between the name and the options. -/
def args : StreamsHead → List Bytes
  | .xread _ => []
  | .xreadgroup _ keyword group consumer => [keyword.bytes, group, consumer]

/-- The entry in the table. -/
def entry : StreamsHead → CmdDef
  | .xread _ => COMMAND .xread "XREAD" none (-4) .unknown 0
  | .xreadgroup _ _ _ _ => COMMAND .xreadgroup "XREADGROUP" none (-7) .unknown 0

variable (head : StreamsHead)

theorem lookup (arg1 : Option Bytes) : valkey_lookup_cmd head.name arg1 = some head.entry := by
  have listed : head.entry ∈ serverCommands ∧ ¬head.entry.Misplaced := by
    cases head with
    | xread name =>
        exact (by decide +kernel :
          COMMAND .xread "XREAD" none (-4) .unknown 0 ∈ serverCommands ∧
            ¬(COMMAND .xread "XREAD" none (-4) .unknown 0).Misplaced)
    | xreadgroup name keyword group consumer =>
        exact (by decide +kernel :
          COMMAND .xreadgroup "XREADGROUP" none (-7) .unknown 0 ∈ serverCommands ∧
            ¬(COMMAND .xreadgroup "XREADGROUP" none (-7) .unknown 0).Misplaced)
  have wellFormed := wellFormed_serverCommands head.entry listed.1
  have names : Names head.name arg1 head.entry := by
    cases head with
    | xread name => exact ⟨name.spelled, by simp [entry, COMMAND]⟩
    | xreadgroup name keyword group consumer => exact ⟨name.spelled, by simp [entry, COMMAND]⟩
  exact valkey_lookup_cmd_iff.mpr ⟨listed.1, listed.2, ((names_iff wellFormed).mp names).1⟩

/-- The search for the keyword starts behind the argument that could be the first option. -/
theorem findKeyAt_eq {buf : Bytes} {count : Nat} (small : count < 2 ^ 31) (arg1 : Slice) (p : Nat) :
    findKeyAt buf head.entry count arg1 p =
      (do return (← keyAfterKeywordAt buf (ascii "STREAMS") (head.args.length + 1) 1 p
        (count - 2)).map some) := by
  have rounds : ((count : Int) - 2).toNat = count - 2 := by omega
  rw [findKeyAt, toInt32_of_small small, rounds]
  cases head <;> rfl

/-- The parser reports what the search finds. -/
theorem reports_iff {arg1 : Bytes} {rest : List Bytes}
    (fits : (valkeyFormatCommandArgv (head.name :: arg1 :: rest)).length < 2 ^ 32)
    (enough : head.args.length + 2 ≤ rest.length) (allocated : Bool) :
    ∃ p, RestAt (valkeyFormatCommandArgv (head.name :: arg1 :: rest)) p (rest.flatMap formatBulk) ∧
      ∀ key, (∃ run,
          valkey_parse_cmd_at allocated (valkeyFormatCommandArgv (head.name :: arg1 :: rest)) =
            .ok run ∧ run.result = .ok (some key)) ↔
        keyAfterKeywordAt (valkeyFormatCommandArgv (head.name :: arg1 :: rest)) (ascii "STREAMS")
          (head.args.length + 1) 1 p rest.length = .ok (some key) := by
  obtain ⟨first, second, p, parsed, name, subname, here⟩ :=
    valkey_parse_cmd_at_format fits allocated
  refine ⟨p, here, fun key => ?_⟩
  have counted := six_argc_le_format (head.name :: arg1 :: rest)
  have small : rest.length + 2 < 2 ^ 31 := by
    have : (head.name :: arg1 :: rest).length = rest.length + 2 := rfl
    omega
  have arity : arityHolds head.entry (rest.length + 2) = true := by
    refine arityHolds_of_met ?_ small
    cases head <;> simp_all [entry, args, COMMAND, CmdDef.ArityMet] <;> omega
  have unknown : head.entry.firstkeymethod = .unknown := by cases head <;> rfl
  obtain ⟨found, search, _⟩ := keyAfterKeywordAt_eq
    (valkeyFormatCommandArgv (head.name :: arg1 :: rest)) (ascii "STREAMS")
    (head.args.length + 1) 1 p rest.length
  have subnames : (some second).mapM
      (readSlice (valkeyFormatCommandArgv (head.name :: arg1 :: rest))) = .ok (some arg1) := by
    rw [Option.mapM_some, subname]
    rfl
  rw [parsed, parseArgumentsAt, name, ok_bind, subnames, ok_bind, lookup]
  simp only [arity, unknown, findKeyAt_eq head small, Nat.add_sub_cancel, search]
  cases found with
  | none => cases allocated <;> simp [CmdSlices.error]
  | some found => simp

end StreamsHead

/-- An option. `NOACK` belongs to consumer groups. -/
inductive StreamsOption : Bool → Type
  | count {grouped : Bool} (keyword : Word "COUNT") (n : IntegerText) : StreamsOption grouped
  | block {grouped : Bool} (keyword : Word "BLOCK") (ms : IntegerText) : StreamsOption grouped
  | noack (keyword : Word "NOACK") : StreamsOption true

namespace StreamsOption

variable {grouped : Bool} (option : StreamsOption grouped)

def argv {grouped : Bool} : StreamsOption grouped → List Bytes
  | .count keyword n => [keyword.bytes, n.bytes]
  | .block keyword ms => [keyword.bytes, ms.bytes]
  | .noack keyword => [keyword.bytes]

theorem argv_ne_nil : option.argv ≠ [] := by
  cases option <;> simp [argv]

/-- Neither the name of an option nor its value is taken for the keyword. -/
theorem not_streams : ∀ arg ∈ option.argv, sameIgnoringCase (ascii "STREAMS") arg = false := by
  intro arg member
  have noWord {upper : String} (word : Word upper)
      (different : (strncmp (to_upper (ascii "STREAMS")) (ascii upper) == .eq) = false) :
      sameIgnoringCase (ascii "STREAMS") word.bytes = false := by
    rw [word.sameIgnoringCase, different]
  cases option with
  | count keyword n =>
      rcases List.mem_pair.mp member with rfl | rfl
      · exact noWord keyword (by decide)
      · exact n.not_streams
  | block keyword ms =>
      rcases List.mem_pair.mp member with rfl | rfl
      · exact noWord keyword (by decide)
      · exact ms.not_streams
  | noack keyword =>
      obtain rfl := List.mem_singleton.mp member
      exact noWord keyword (by decide)

end StreamsOption

/-- `XREAD` or `XREADGROUP` with any options in any order, and as many ids as keys. -/
structure StreamsCommand where
  head : StreamsHead
  options : List (StreamsOption head.grouped)
  streams : Word "STREAMS"
  key : Bytes
  keys : List Bytes
  ids : List Bytes
  paired : ids.length = keys.length + 1

namespace StreamsCommand

variable (command : StreamsCommand)

/-- The arguments between the name and the keyword `STREAMS`. -/
def words : List Bytes := command.head.args ++ command.options.flatMap (·.argv)

/-- The first key and what follows it. -/
def streamArgs : List Bytes := command.key :: (command.keys ++ command.ids)

def argv : List Bytes :=
  command.head.name :: command.words ++ command.streams.bytes :: command.streamArgs

/-- Where the bulk string of the first key starts in the encoding. -/
def keyPosition : Nat :=
  (valkeyFormatCommandArgv command.argv).length - (command.streamArgs.flatMap formatBulk).length

/-- The argument after the keyword `STREAMS`, as a slice of the encoding. -/
def keySlice : Slice := bulkSlice command.keyPosition command.key

/-- The parser reports the argument after the keyword. -/
def ReportsKey (allocated : Bool) : Prop :=
  ∃ run, valkey_parse_cmd_at allocated (valkeyFormatCommandArgv command.argv) = .ok run ∧
    run.result = .ok (some command.keySlice)

theorem argv_of_options (given : command.options ≠ []) : ∃ arg1 middle,
    command.argv = command.head.name :: arg1 ::
      (middle ++ command.streams.bytes :: command.streamArgs) ∧
    command.words = arg1 :: middle ∧ command.head.args.length ≤ middle.length := by
  obtain ⟨option, options, known⟩ := List.exists_cons_of_ne_nil given
  have optionArgs := List.length_pos_of_ne_nil option.argv_ne_nil
  have longer : command.head.args.length < command.words.length := by
    rw [words, known, List.flatMap_cons]
    simp only [List.length_append]
    omega
  obtain ⟨arg1, middle, split⟩ :=
    List.exists_cons_of_ne_nil (List.ne_nil_of_length_pos (Nat.zero_lt_of_lt longer))
  refine ⟨arg1, middle, by rw [argv, split]; rfl, split, ?_⟩
  rw [split, List.length_cons] at longer
  omega

/-- The words behind the second argument are skipped. -/
theorem words_skipped {arg1 : Bytes} {middle : List Bytes} (split : command.words = arg1 :: middle)
    (i : Nat) (arg : Bytes) (known : middle[i]? = some arg) :
    1 + i < command.head.args.length + 1 ∨ sameIgnoringCase (ascii "STREAMS") arg = false := by
  have word : command.words[i + 1]? = some arg := by rw [split, List.getElem?_cons_succ, known]
  by_cases early : i + 1 < command.head.args.length
  · left
    omega
  · right
    rw [words, List.getElem?_append_right (Nat.le_of_not_lt early)] at word
    obtain ⟨option, _, member⟩ := List.mem_flatMap.mp (List.mem_of_getElem? word)
    exact option.not_streams arg member

theorem length_streamArgs : 2 ≤ command.streamArgs.length := by
  rw [streamArgs, List.length_cons, List.length_append, command.paired]
  omega

theorem format_streamArgs : command.streamArgs.flatMap formatBulk =
    formatBulk command.key ++ (command.keys ++ command.ids).flatMap formatBulk := by
  rw [streamArgs, List.flatMap_cons]

theorem keyPosition_of_restAt {p : Nat}
    (here : RestAt (valkeyFormatCommandArgv command.argv) p
      (command.streamArgs.flatMap formatBulk)) : command.keyPosition = p :=
  here.position.symm

/-- The length of the encoding is kept in a `uint32_t`. -/
def Fits : Prop := (valkeyFormatCommandArgv command.argv).length < 2 ^ 32

instance : Decidable command.Fits := inferInstanceAs (Decidable (_ < _))

variable {command}

theorem Fits.small (fits : command.Fits) (arg : Bytes) (member : arg ∈ command.argv) :
    arg.length < 2 ^ 32 :=
  lt_of_le_of_lt (length_le_format member) fits

theorem reportsKey_of_options (fits : command.Fits) (given : command.options ≠ [])
    (allocated : Bool) : command.ReportsKey allocated := by
  obtain ⟨arg1, middle, whole, split, longer⟩ := command.argv_of_options given
  have small := fits.small
  have position (p : Nat) := command.keyPosition_of_restAt (p := p)
  have args := command.length_streamArgs
  unfold Fits at fits
  unfold ReportsKey
  rw [whole] at fits small position ⊢
  obtain ⟨p, here, reports⟩ := command.head.reports_iff fits
    (by simp only [List.length_append, List.length_cons]; omega) allocated
  rw [reports]
  rw [List.flatMap_append, List.flatMap_cons] at here
  have rounds : (middle ++ command.streams.bytes :: command.streamArgs).length =
      middle.length + (command.streamArgs.length + 1) := by simp
  obtain ⟨skipped, keyword⟩ :=
    keyAfterKeywordAt_skip (fun arg member => small arg (by simp [member]))
    (command.words_skipped split) here (command.streamArgs.length + 1)
  have key := (valkey_parse_bulk_at_format (small command.streams.bytes (by simp)) keyword).2
  rw [format_streamArgs] at keyword
  have reached : command.head.args.length + 1 ≤ 1 + middle.length := by omega
  have same : sameIgnoringCase (ascii "STREAMS") command.streams.bytes = true := by
    rw [command.streams.sameIgnoringCase]
    decide
  rw [rounds, skipped, keyAfterKeywordAt_found (small command.streams.bytes (by simp))
    (small command.key (by simp [streamArgs])) reached same keyword, keySlice, position _ key]

/-- Without an option the keyword is skipped, and what is found lies behind the key. -/
theorem not_reportsKey (fits : command.Fits) (missing : command.options = []) (allocated : Bool) :
    ¬command.ReportsKey allocated := by
  obtain ⟨arg1, skipped, split⟩ : ∃ arg1 skipped,
      command.head.args ++ [command.streams.bytes] = arg1 :: skipped :=
    List.exists_cons_of_ne_nil (by simp)
  have counted := congrArg List.length split
  rw [List.length_append, List.length_singleton, List.length_cons] at counted
  have whole : command.argv =
      command.head.name :: arg1 :: (skipped ++ command.streamArgs) := by
    rw [argv, words, missing, List.flatMap_nil, List.append_nil, List.cons_append,
      List.append_cons, split, List.cons_append]
  have small := fits.small
  have position (p : Nat) := command.keyPosition_of_restAt (p := p)
  have args := command.length_streamArgs
  unfold Fits at fits
  unfold ReportsKey
  rw [whole] at fits small position ⊢
  obtain ⟨p, here, reports⟩ := command.head.reports_iff fits
    (by simp only [List.length_append]; omega) allocated
  rw [reports]
  rw [List.flatMap_append] at here
  have early (i : Nat) (arg : Bytes) (known : skipped[i]? = some arg) :
      1 + i < command.head.args.length + 1 ∨ sameIgnoringCase (ascii "STREAMS") arg = false := by
    have inside := (List.getElem?_eq_some_iff.mp known).1
    left
    omega
  obtain ⟨start, key⟩ := keyAfterKeywordAt_skip (fun arg member => small arg (by simp [member]))
    early here command.streamArgs.length
  rw [List.length_append, start]
  intro found
  obtain ⟨first, next, bulk, behind⟩ := keyAfterKeywordAt_behind found
  rw [keySlice, position _ key, bulkSlice] at behind
  rw [format_streamArgs] at key
  rw [(valkey_parse_bulk_at_format (small command.key (by simp [streamArgs])) key).1] at bulk
  cases bulk
  rw [length_formatBulk] at behind
  dsimp only at behind
  omega

/-- The argument after the keyword is reported exactly if there is an option in front of
the keyword. -/
theorem reportsKey_iff (fits : command.Fits) (allocated : Bool) :
    command.ReportsKey allocated ↔ command.options ≠ [] :=
  ⟨fun reports missing => not_reportsKey fits missing allocated reports,
    fun given => reportsKey_of_options fits given allocated⟩

end StreamsCommand

/-- `XREAD COUNT 5 STREAMS k 0`, and `XREAD STREAMS k 0`. -/
def xreadStreams (counted : Bool) : StreamsCommand where
  head := .xread ⟨ascii "XREAD", by decide⟩
  options :=
    if counted then [.count ⟨ascii "count", by decide⟩ ⟨false, ascii "5", by decide, by decide⟩]
    else []
  streams := ⟨ascii "streams", by decide⟩
  key := ascii "k"
  keys := []
  ids := [ascii "0"]
  paired := rfl

theorem reportsKey_counted :
    (xreadStreams true).ReportsKey true ∧ ¬(xreadStreams false).ReportsKey true := by
  have fits (counted : Bool) : (xreadStreams counted).Fits := by
    cases counted <;> decide +kernel
  rw [StreamsCommand.reportsKey_iff (fits true), StreamsCommand.reportsKey_iff (fits false)]
  simp [xreadStreams]

/-- The key of `XREAD STREAMS k 0` is not found, nor is that of
`XREADGROUP GROUP g c STREAMS k >`. -/
theorem streams_key_missed :
    ¬(xreadStreams false).ReportsKey true ∧
      valkey_parse_cmd (valkeyFormatCommandArgv [ascii "XREADGROUP", ascii "GROUP", ascii "g",
        ascii "c", ascii "STREAMS", ascii "k", ascii ">"]) =
        .error (ascii "Failed to find keys of command XREADGROUP") := by
  have parsed : (valkey_parse_cmd_at true (valkeyFormatCommandArgv (xreadStreams false).argv)).map
      (·.result) = .ok .error := by decide +kernel
  refine ⟨?_, by decide +kernel⟩
  rintro ⟨run, result, reports⟩
  rw [result] at parsed
  cases reports.symm.trans (Except.ok.inj parsed)

end Libvalkey
