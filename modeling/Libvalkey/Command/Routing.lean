import Libvalkey.Command.BulkLengths
import Libvalkey.Command.Lookup
import Libvalkey.Reader.Resume

/-! # The key of a formatted command

What `valkey_parse_cmd` finds in a command that `valkeyFormatCommandArgv` has
formatted, whatever bytes the arguments contain. -/

namespace Libvalkey

/-! ## Formatting and parsing -/

theorem parseUint32_ofNat {value : Nat} (small : value < 2 ^ 32) (rest : Bytes) :
    parseUint32 0 (Decimal.ofNat value ++ CR :: rest) = (value, CR :: rest) := by
  have parsed := parseUint32_CR (Decimal.isDigit_of_mem_ofNat value) rest
  rwa [Decimal.accumulate_ofNat, Nat.mod_eq_of_lt small] at parsed

@[simp] theorem skipCRLF_newline (rest : Bytes) : skipCRLF (CR :: LF :: rest) = some rest := by
  simp [skipCRLF]

theorem valkey_parse_bulk_format {arg : Bytes} (small : arg.length < 2 ^ 32) (rest : Bytes) :
    valkey_parse_bulk (formatBulk arg ++ rest) = some (arg, some rest) := by
  have text : formatBulk arg ++ rest = '$'.toUInt8 ::
      (Decimal.ofNat arg.length ++ CR :: (LF :: (arg ++ CR :: LF :: rest))) := by
    simp [formatBulk]
  rw [text, valkey_parse_bulk, if_neg (fun different => different rfl)]
  rw [parseUint32_ofNat small]
  simp

theorem parseHeader_format {argv : List Bytes} (notEmpty : argv ≠ [])
    (small : argv.length < 2 ^ 32) :
    parseHeader (valkeyFormatCommandArgv argv) = some (argv.length, argv.flatMap formatBulk) := by
  have text : valkeyFormatCommandArgv argv = '*'.toUInt8 ::
      (Decimal.ofNat argv.length ++ CR :: (LF :: argv.flatMap formatBulk)) := by
    simp [valkeyFormatCommandArgv]
  rw [text, parseHeader, if_neg (fun different => different rfl)]
  rw [parseUint32_ofNat small]
  simp [List.length_eq_zero_iff, notEmpty]

/-- The arguments that follow are parsed one by one, as long as there are any. -/
theorem parseBulks_format (arg : Bytes) (args : List Bytes)
    (small : ∀ arg ∈ args, arg.length < 2 ^ 32) (count : Nat) :
    parseBulks arg (args.flatMap formatBulk) count =
      (arg :: args)[count]?.map fun last => (last, (args.drop count).flatMap formatBulk) := by
  induction args generalizing arg count with
  | nil =>
      cases count with
      | zero => rfl
      | succ count => rfl
  | cons next args induction =>
      cases count with
      | zero => rfl
      | succ count =>
          rw [List.flatMap_cons, parseBulks,
            valkey_parse_bulk_format (small next List.mem_cons_self)]
          exact induction next (fun arg member => small arg (List.mem_cons_of_mem _ member)) count

/-! ## The key -/

/-- The number of arguments is as the entry wants it. -/
def CmdDef.ArityMet (entry : CmdDef) (count : Nat) : Prop :=
  if entry.arity ≥ 0 then (count : Int) = entry.arity else -entry.arity ≤ count

/-- A command of an entry, in any letter case, whose encoding fits an `int`. -/
structure CommandOf (entry : CmdDef) (argv : List Bytes) : Prop where
  listed : entry ∈ serverCommands
  keyed : entry.Keyed
  notEmpty : argv ≠ []
  names : Names (argv.getD 0 []) argv[1]? entry
  arity : entry.ArityMet argv.length
  fits : (valkeyFormatCommandArgv argv).length < 2 ^ 31

def CmdParseResult.IsError (result : CmdParseResult) : Prop := ∃ errstr, result = .error errstr

/-- The result is an error if an argument is missing, and its bytes as the key otherwise. -/
def ReportsKey (key : Option Bytes) (result : CmdParseResult) : Prop :=
  match key with
  | some key => result = .ok (some key)
  | none => result.IsError

/-- The result reports the first key as the rule of the entry tells it. -/
def RoutesBy (entry : CmdDef) (argv : List Bytes) (result : CmdParseResult) : Prop :=
  match entry.firstkeymethod with
  | .index =>
      if entry.type = .migrate ∧ argv[entry.firstkeypos]? = some [] then result.IsError
      else ReportsKey argv[entry.firstkeypos]? result
  | .keynum =>
      match argv[entry.firstkeypos]? with
      | none => result.IsError
      | some numkeys =>
          if numkeys = ascii "0" then result = .ok none
          else numkeys ≠ [] → ReportsKey argv[entry.firstkeypos + 1]? result
  | _ => True

/-- The number of keys is a text of several bytes, the first two of which are '0' and NUL. -/
def ZeroThenNul (entry : CmdDef) (argv : List Bytes) : Prop :=
  entry.firstkeymethod = .keynum ∧
    ∃ rest, argv[entry.firstkeypos]? = some ('0'.toUInt8 :: 0 :: rest)

theorem length_le_format {argv : List Bytes} {arg : Bytes} (member : arg ∈ argv) :
    arg.length ≤ (valkeyFormatCommandArgv argv).length := by
  have whole : formatBulk arg <:+: argv.flatMap formatBulk := by
    rw [List.flatMap_def]
    exact List.infix_of_mem_flatten (List.mem_map_of_mem member)
  have bulk : arg.length ≤ (formatBulk arg).length := by
    simp only [formatBulk, List.length_append, List.length_cons]
    omega
  have body := whole.length_le
  simp only [valkeyFormatCommandArgv, List.length_append, List.length_cons]
  omega

theorem argc_le_format (argv : List Bytes) :
    argv.length ≤ (valkeyFormatCommandArgv argv).length := by
  have body : argv.length ≤ (argv.flatMap formatBulk).length := by
    induction argv with
    | nil => exact Nat.le_refl _
    | cons arg argv induction =>
        have bulk : 1 ≤ (formatBulk arg).length := by simp [formatBulk]
        rw [List.flatMap_cons, List.length_append, List.length_cons]
        omega
  simp only [valkeyFormatCommandArgv, List.length_append, List.length_cons]
  omega

theorem arityHolds_of_met {entry : CmdDef} {count : Nat} (met : entry.ArityMet count)
    (small : count < 2 ^ 31) : arityHolds entry count = true := by
  unfold arityHolds
  unfold CmdDef.ArityMet at met
  rw [toInt32_of_small small]
  split at met
  · rename_i exactly
    simpa [exactly] using met
  · rename_i least
    simpa [least] using met

/-- What the parser relies on in an entry with a key. -/
structure CmdDef.Located (entry : CmdDef) : Prop where
  afterName : 1 ≤ entry.firstkeypos
  migrate : entry.type = .migrate → entry.firstkeypos = 3

theorem located_serverCommands : ∀ entry ∈ serverCommands, entry.Keyed → entry.Located := by
  have located : ∀ entry ∈ serverCommands, entry.Keyed →
      1 ≤ entry.firstkeypos ∧ (entry.type = .migrate → entry.firstkeypos = 3) := by decide +kernel
  exact fun entry member keyed => ⟨(located entry member keyed).1, (located entry member keyed).2⟩

section Routing

variable {entry : CmdDef} {argv : List Bytes}

/-- What the parser makes of the search for the key. -/
def keyResult (failed : CmdParseResult) (key : Option (Option Bytes)) : CmdParseResult :=
  match key with
  | none => failed
  | some key => .ok key

theorem isError_keyResult_none {errstr : Bytes} : (keyResult (.error errstr) none).IsError :=
  ⟨errstr, rfl⟩

theorem reportsKey_keyResult (errstr : Bytes) (key : Option Bytes) :
    ReportsKey key (keyResult (.error errstr) (key.map some)) := by
  cases key with
  | none => exact ⟨errstr, rfl⟩
  | some key => rfl

theorem not_reportsKey_none (key : Option Bytes) : ¬ReportsKey key (.ok none) := by
  cases key with
  | none => exact fun ⟨_, equal⟩ => nomatch equal
  | some key => exact fun equal => nomatch equal

/-- After the first two arguments the parser looks for the key. -/
theorem valkey_parse_cmd_format {arg0 arg1 : Bytes} {rest : List Bytes}
    (command : CommandOf entry (arg0 :: arg1 :: rest)) :
    valkey_parse_cmd (valkeyFormatCommandArgv (arg0 :: arg1 :: rest)) =
      keyResult (.error (parseError (some entry) (some arg0) (some arg1)))
        (findKey entry (rest.length + 2) arg1 (rest.flatMap formatBulk)) := by
  have bounded : ∀ arg ∈ arg0 :: arg1 :: rest, arg.length < 2 ^ 32 := fun arg member =>
    Nat.lt_of_le_of_lt (length_le_format member) (Nat.lt_trans command.fits (by decide))
  have short := Nat.lt_of_le_of_lt (argc_le_format _) command.fits
  have found : valkey_lookup_cmd arg0 (some arg1) = some entry :=
    valkey_lookup_cmd_eq command.listed command.keyed command.names
  have arity : arityHolds entry (rest.length + 2) = true := arityHolds_of_met command.arity short
  have hasKey : entry.firstkeymethod ≠ .none := by
    rcases command.keyed with index | keynum <;> simp [*]
  unfold valkey_parse_cmd
  rw [parseHeader_format command.notEmpty (Nat.lt_trans short (by decide))]
  dsimp only
  rw [List.flatMap_cons, valkey_parse_bulk_format (bounded arg0 (by simp))]
  dsimp only
  rw [if_pos (by simp), List.flatMap_cons, valkey_parse_bulk_format (bounded arg1 (by simp))]
  simp only [parseArguments, found, arity, hasKey, List.length_cons, not_true_eq_false, if_false]
  rfl

/-- A command with a key needs an argument. -/
theorem isError_parse_single {arg0 : Bytes} (command : CommandOf entry [arg0]) :
    (valkey_parse_cmd (valkeyFormatCommandArgv [arg0])).IsError := by
  have short := Nat.lt_of_le_of_lt (argc_le_format _) command.fits
  have bounded : arg0.length < 2 ^ 32 :=
    Nat.lt_of_le_of_lt (length_le_format (List.mem_singleton_self _))
      (Nat.lt_trans command.fits (by decide))
  have found : valkey_lookup_cmd arg0 none = some entry :=
    valkey_lookup_cmd_eq command.listed command.keyed command.names
  have arity : arityHolds entry 1 = true := arityHolds_of_met command.arity short
  have hasKey : entry.firstkeymethod ≠ .none := by
    rcases command.keyed with index | keynum <;> simp [*]
  unfold valkey_parse_cmd
  rw [parseHeader_format command.notEmpty (Nat.lt_trans short (by decide))]
  dsimp only
  rw [List.flatMap_cons, valkey_parse_bulk_format bounded]
  dsimp only
  rw [if_neg (by simp)]
  simp only [parseArguments, found, arity, hasKey, List.length_singleton, not_true_eq_false,
    if_false]
  exact ⟨_, rfl⟩

/-- The search for the key leads to the argument that the entry tells. -/
theorem parseBulks_argv {arg0 arg1 : Bytes} {rest : List Bytes}
    (command : CommandOf entry (arg0 :: arg1 :: rest)) :
    parseBulks arg1 (rest.flatMap formatBulk) (entry.firstkeypos - 1) =
      (arg0 :: arg1 :: rest)[entry.firstkeypos]?.map fun arg =>
        (arg, (rest.drop (entry.firstkeypos - 1)).flatMap formatBulk) := by
  have position := (located_serverCommands entry command.listed command.keyed).afterName
  have bounded : ∀ arg ∈ rest, arg.length < 2 ^ 32 := fun arg member =>
    Nat.lt_of_le_of_lt (length_le_format (by simp [member]))
      (Nat.lt_trans command.fits (by decide))
  rw [parseBulks_format arg1 rest bounded]
  obtain ⟨before, equal⟩ := Nat.exists_eq_add_of_le' position
  rw [equal]
  rfl

/-- The argument after the number of keys. -/
theorem parseBulks_next {arg0 arg1 : Bytes} {rest : List Bytes}
    (command : CommandOf entry (arg0 :: arg1 :: rest)) (numkeys : Bytes) :
    (parseBulks numkeys ((rest.drop (entry.firstkeypos - 1)).flatMap formatBulk) 1).map
        (fun key => some key.1) =
      (arg0 :: arg1 :: rest)[entry.firstkeypos + 1]?.map some := by
  have position := (located_serverCommands entry command.listed command.keyed).afterName
  have bounded : ∀ arg ∈ rest.drop (entry.firstkeypos - 1), arg.length < 2 ^ 32 :=
    fun arg member => Nat.lt_of_le_of_lt (length_le_format (by simp [List.mem_of_mem_drop member]))
      (Nat.lt_trans command.fits (by decide))
  rw [parseBulks_format numkeys _ bounded]
  obtain ⟨before, equal⟩ := Nat.exists_eq_add_of_le' position
  rw [equal, Option.map_map]
  simp [Function.comp_def]

/-- `strncmp("0", arg, arglen)` -/
theorem strncmp_zero (arg : Bytes) :
    strncmp (ascii "0") arg = .eq ↔
      arg = [] ∨ arg = ascii "0" ∨ ∃ rest, arg = '0'.toUInt8 :: 0 :: rest := by
  have zero : ascii "0" = ['0'.toUInt8] := rfl
  rw [zero]
  cases arg with
  | nil => simp [strncmp]
  | cons byte arg =>
      rw [strncmp]
      by_cases same : byte = '0'.toUInt8
      · subst same
        cases arg with
        | nil => simp [strncmp]
        | cons next rest =>
            by_cases ended : next = 0 <;> simp [strncmp, ended]
      · have different : byte < '0'.toUInt8 ∨ '0'.toUInt8 < byte := by
          rw [UInt8.lt_iff_toNat_lt, UInt8.lt_iff_toNat_lt]
          have := mt UInt8.toNat_inj.mp same
          omega
        rcases different with less | greater
        · simp [same, less, UInt8.lt_asymm less]
        · simp [same, greater]

theorem routesBy_index {arg0 arg1 : Bytes} {rest : List Bytes}
    (command : CommandOf entry (arg0 :: arg1 :: rest)) (index : entry.firstkeymethod = .index) :
    RoutesBy entry (arg0 :: arg1 :: rest)
      (valkey_parse_cmd (valkeyFormatCommandArgv (arg0 :: arg1 :: rest))) := by
  have migrate := (located_serverCommands entry command.listed command.keyed).migrate
  rw [valkey_parse_cmd_format command]
  simp only [RoutesBy, findKey, index, parseBulks_argv command]
  cases known : (arg0 :: arg1 :: rest)[entry.firstkeypos]? with
  | none => simpa using reportsKey_keyResult _ none
  | some key =>
      by_cases fails : entry.type = .migrate ∧ key = []
      · have position := migrate fails.1
        simpa [fails.1, fails.2, position] using isError_keyResult_none
      · have found : ¬(entry.type = .migrate ∧ key.length = 0 ∧ entry.firstkeypos = 3) :=
          fun both => fails ⟨both.1, List.length_eq_zero_iff.mp both.2.1⟩
        rw [if_neg (by simpa using fails)]
        simp only [Option.map_some, found, if_false]
        rfl

theorem routesBy_keynum_iff {arg0 arg1 : Bytes} {rest : List Bytes}
    (command : CommandOf entry (arg0 :: arg1 :: rest)) (keynum : entry.firstkeymethod = .keynum) :
    RoutesBy entry (arg0 :: arg1 :: rest)
        (valkey_parse_cmd (valkeyFormatCommandArgv (arg0 :: arg1 :: rest))) ↔
      ¬ZeroThenNul entry (arg0 :: arg1 :: rest) := by
  rw [valkey_parse_cmd_format command]
  have zero : ascii "0" = ['0'.toUInt8] := rfl
  simp only [RoutesBy, findKey, keynum, parseBulks_argv command, ZeroThenNul]
  cases known : (arg0 :: arg1 :: rest)[entry.firstkeypos]? with
  | none => simpa using isError_keyResult_none
  | some numkeys =>
      simp only [Option.map_some, Option.some.injEq, true_and]
      by_cases stops : strncmp (ascii "0") numkeys = .eq
      · rw [if_pos stops]
        rcases (strncmp_zero numkeys).mp stops with rfl | rfl | ⟨more, rfl⟩
        · exact iff_of_true (fun notEmpty => absurd rfl notEmpty) (by simp)
        · exact iff_of_true rfl fun ⟨more, same⟩ => nomatch (List.cons.inj (zero.symm.trans same)).2
        · refine iff_of_false (fun routes => ?_) (fun no => no ⟨more, rfl⟩)
          exact not_reportsKey_none _ (routes (by simp))
      · have other := mt (strncmp_zero numkeys).mpr stops
        simp only [not_or, not_exists] at other
        rw [if_neg stops, if_neg other.2.1, parseBulks_next command numkeys]
        exact iff_of_true (fun _ => reportsKey_keyResult _ _) fun ⟨more, same⟩ =>
          other.2.2 more same

/-- The result routes the command, unless the number of keys starts with '0' and NUL. -/
theorem valkey_parse_cmd_routes_iff (command : CommandOf entry argv) :
    RoutesBy entry argv (valkey_parse_cmd (valkeyFormatCommandArgv argv)) ↔
      ¬ZeroThenNul entry argv := by
  have position := (located_serverCommands entry command.listed command.keyed).afterName
  match argv, command with
  | [], command => exact absurd rfl command.notEmpty
  | [arg0], command =>
      have missing : [arg0][entry.firstkeypos]? = none :=
        List.getElem?_eq_none position
      have failed := isError_parse_single command
      rcases command.keyed with index | keynum
      · simp [RoutesBy, ZeroThenNul, index, missing, ReportsKey, failed]
      · simp [RoutesBy, ZeroThenNul, keynum, missing, failed]
  | arg0 :: arg1 :: rest, command =>
      rcases command.keyed with index | keynum
      · have other : ¬ZeroThenNul entry (arg0 :: arg1 :: rest) := by simp [ZeroThenNul, index]
        exact iff_of_true (routesBy_index command index) other
      · exact routesBy_keynum_iff command keynum

end Routing

/-! ## A script with keys -/

def evalEntry : CmdDef := COMMAND .other "EVAL" none (-3) .keynum 2

/-- A script with the texts of its number of keys and of its key. -/
def evalArgv (numkeys key : Bytes) : List Bytes := [ascii "eval", ascii "return 1", numkeys, key]

theorem commandOf_eval (numkeys key : Bytes)
    (fits : (valkeyFormatCommandArgv (evalArgv numkeys key)).length < 2 ^ 31) :
    CommandOf evalEntry (evalArgv numkeys key) where
  listed := by decide +kernel
  keyed := Or.inr rfl
  notEmpty := by simp [evalArgv]
  names := ⟨show to_upper (ascii "eval") = evalEntry.name by decide +kernel,
    fun _ member => nomatch member⟩
  arity := by simp [CmdDef.ArityMet, evalEntry, COMMAND, evalArgv]
  fits := fits

theorem valkey_parse_cmd_routes_eval :
    RoutesBy evalEntry (evalArgv (ascii "1") (ascii "k\r\n"))
      (valkey_parse_cmd (valkeyFormatCommandArgv (evalArgv (ascii "1") (ascii "k\r\n")))) :=
  (valkey_parse_cmd_routes_iff (commandOf_eval _ _ (by decide))).mpr fun ⟨_, _, starts⟩ =>
    nomatch (List.cons.inj (Option.some.inj starts)).2

/-- The number of keys is taken for a zero, and the key is not found. -/
theorem valkey_parse_cmd_drops_key :
    ∃ entry argv, CommandOf entry argv ∧
      ¬RoutesBy entry argv (valkey_parse_cmd (valkeyFormatCommandArgv argv)) := by
  refine ⟨evalEntry, evalArgv ['0'.toUInt8, 0, '1'.toUInt8] (ascii "k"),
    commandOf_eval _ _ (by decide), fun routes => ?_⟩
  have noKey : valkey_parse_cmd (valkeyFormatCommandArgv
      (evalArgv ['0'.toUInt8, 0, '1'.toUInt8] (ascii "k"))) = .ok none := by decide +kernel
  rw [noKey] at routes
  have reported : CmdParseResult.ok none = .ok (some (ascii "k")) := routes (by simp)
  exact nomatch reported

end Libvalkey
