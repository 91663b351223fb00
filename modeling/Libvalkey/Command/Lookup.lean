import Libvalkey.Command.Parse
import Libvalkey.Cluster.Texts
import Mathlib.Data.List.Pairwise

/-! # The order of the command table

The table is sorted by names and subcommands, but for `COMMANDLOG`, which stands
before `COMMAND`. The lookup compares what precedes a NUL in an argument, and it finds
every entry but those that the misplaced ones hide. -/

namespace Libvalkey

/-- A string without a NUL in it. -/
def NoNul (text : Bytes) : Prop := 0 ∉ text

instance (text : Bytes) : Decidable (NoNul text) := inferInstanceAs (Decidable (0 ∉ text))

/-- `strncmp` stops at a NUL of the text, as it does at the end of the name. -/
theorem compareName_cut {name : Bytes} (noNul : NoNul name) (text : Bytes) :
    compareName name text = compare name (cString text) := by
  induction text generalizing name with
  | nil =>
      cases name with
      | nil => rfl
      | cons char name => simp [compareName, strncmp, cString, List.compare_cons_nil]
  | cons byte text induction =>
      by_cases ended : byte = 0
      · cases name with
        | nil => simp [compareName, strncmp, cString, ended]
        | cons char name =>
            have notNul : char ≠ 0 := fun zero => noNul (zero ▸ List.mem_cons_self)
            have greater : 0 < char := by
              rw [UInt8.lt_iff_toNat_lt]
              exact Nat.pos_of_ne_zero fun zero => notNul (UInt8.toNat_inj.mp zero)
            simp [compareName, strncmp, cString, ended, UInt8.lt_asymm greater, greater,
              List.compare_cons_nil]
      · have cut : cString (byte :: text) = byte :: cString text := by simp [cString, ended]
        rw [cut]
        cases name with
        | nil =>
            rw [List.compare_nil_cons]
            simp only [compareName, strncmp, if_neg ended]
        | cons char name =>
            have restNoNul : NoNul name := fun member => noNul (List.mem_cons_of_mem _ member)
            have tail := induction restNoNul
            unfold compareName at tail ⊢
            rw [List.compare_cons_cons, ← tail, strncmp]
            have order : compare char byte =
                if char < byte then .lt else if char = byte then .eq else .gt := rfl
            rw [order]
            by_cases less : char < byte
            · simp [less]
            · by_cases same : char = byte
              · simp [same, UInt8.lt_irrefl]
              · have greater : byte < char := by
                  rw [UInt8.lt_iff_toNat_lt] at less ⊢
                  have := mt UInt8.toNat_inj.mp same
                  omega
                simp [less, same, greater]

/-- An entry stands before another one. -/
def CmdDef.precedes (left right : CmdDef) : Bool :=
  match compare left.name right.name with
  | .lt => true
  | .gt => false
  | .eq =>
      match left.subname, right.subname with
      | some leftSub, some rightSub => compare leftSub rightSub == .lt
      | _, _ => false

theorem CmdDef.precedes_iff {left right : CmdDef} :
    left.precedes right = true ↔ compare left.name right.name = .lt ∨
      left.name = right.name ∧ ∃ leftSub rightSub, left.subname = some leftSub ∧
        right.subname = some rightSub ∧ compare leftSub rightSub = .lt := by
  unfold precedes
  cases order : compare left.name right.name with
  | lt => simp
  | gt =>
      have different : left.name ≠ right.name := fun same => by simp [same] at order
      simp [different]
  | eq =>
      have same := Std.LawfulEqCmp.eq_of_compare order
      cases left.subname <;> cases right.subname <;> simp [same]

instance : Trans (fun left right : CmdDef => left.precedes right = true)
    (fun left right => left.precedes right = true)
    (fun left right => left.precedes right = true) where
  trans := by
    intro first second third before after
    rw [CmdDef.precedes_iff] at before after ⊢
    rcases before with less | ⟨same, firstSub, secondSub, firstKnown, secondKnown, less⟩
    · left
      rcases after with lessAgain | ⟨sameAgain, _⟩
      · exact Std.TransCmp.lt_trans less lessAgain
      · rwa [← sameAgain]
    · rcases after with lessAgain | ⟨sameAgain, left, right, leftKnown, rightKnown, lessAgain⟩
      · exact Or.inl (same ▸ lessAgain)
      · obtain rfl := Option.some.inj (secondKnown.symm.trans leftKnown)
        exact Or.inr ⟨same.trans sameAgain, firstSub, right, firstKnown, rightKnown,
          Std.TransCmp.lt_trans less lessAgain⟩

/-- A command with a key at a place that the table tells. -/
def CmdDef.Keyed (entry : CmdDef) : Prop :=
  entry.firstkeymethod = .index ∨ entry.firstkeymethod = .keynum

instance (entry : CmdDef) : Decidable entry.Keyed := inferInstanceAs (Decidable (_ ∨ _))

/-- Without the entries of one name the table is sorted. -/
theorem sorted_without (name : Bytes)
    (chain : (serverCommands.filter fun entry => entry.name != name).IsChain
      fun left right => left.precedes right = true) :
    serverCommands.Pairwise fun left right =>
      left.name ≠ name → right.name ≠ name → left.precedes right = true := by
  have pairwise := List.pairwise_filter.mp (List.isChain_iff_pairwise.mp chain)
  exact pairwise.imp fun before leftOther rightOther =>
    before (bne_iff_ne.mpr leftOther) (bne_iff_ne.mpr rightOther)

theorem sorted_around {wanted : CmdDef} (notContainer : wanted.name ≠ literal "COMMAND")
    (notLog : wanted.name ≠ literal "COMMANDLOG") :
    serverCommands.Pairwise fun left right =>
      (right = wanted → left.precedes wanted = true) ∧
        (left = wanted → wanted.precedes right = true) := by
  have withoutContainer : serverCommands.Pairwise _ :=
    sorted_without (literal "COMMAND") (by decide +kernel)
  have withoutLog : serverCommands.Pairwise _ :=
    sorted_without (literal "COMMANDLOG") (by decide +kernel)
  have names : literal "COMMAND" ≠ literal "COMMANDLOG" := by decide +kernel
  refine (withoutContainer.and withoutLog).imp fun {left right} ⟨container, log⟩ => ⟨?_, ?_⟩
  · rintro rfl
    by_cases same : left.name = literal "COMMAND"
    · exact log (same ▸ names) notLog
    · exact container same notContainer
  · rintro rfl
    by_cases same : right.name = literal "COMMAND"
    · exact log notLog (same ▸ names)
    · exact container notContainer same

/-- What the lookup relies on. -/
structure CmdDef.WellFormed (entry : CmdDef) : Prop where
  name : NoNul entry.name ∧ entry.name.length ≤ maxCommandLen
  subname : ∀ subname ∈ entry.subname,
    NoNul subname ∧ subname ≠ [] ∧ subname.length ≤ maxCommandLen

theorem wellFormed_serverCommands : ∀ entry ∈ serverCommands, entry.WellFormed := by
  have names : ∀ entry ∈ serverCommands,
      (NoNul entry.name ∧ entry.name.length ≤ maxCommandLen) ∧ ∀ subname ∈ entry.subname,
        NoNul subname ∧ subname ≠ [] ∧ subname.length ≤ maxCommandLen := by decide +kernel
  exact fun entry member => ⟨(names entry member).1, (names entry member).2⟩

/-- The first two arguments name a command, in any letter case. -/
structure Names (arg0 : Bytes) (arg1 : Option Bytes) (entry : CmdDef) : Prop where
  name : to_upper arg0 = entry.name
  subname : ∀ subname ∈ entry.subname, arg1.map to_upper = some subname

theorem Names.length {arg0 : Bytes} {arg1 : Option Bytes} {entry : CmdDef}
    (names : Names arg0 arg1 entry) : arg0.length = entry.name.length := by
  rw [← names.name, to_upper, List.length_map]

/-! ## What the comparison sees -/

/-- What is compared of the second argument with the subcommands. It is `none` where the
argument is missing, empty or too long. -/
def cutSubcommand (arg1 : Option Bytes) : Option Bytes :=
  arg1.bind fun arg1 =>
    if arg1.length = 0 ∨ arg1.length > maxCommandLen then none
    else some (cString (to_upper arg1))

/-- The comparison of an entry with a name and a subcommand. -/
def compareCut (name : Bytes) (subcommand : Option Bytes) (entry : CmdDef) : Option Ordering :=
  match compare entry.name name, entry.subname with
  | .eq, some subname => subcommand.map (compare subname)
  | order, _ => some order

theorem compareCommand_cut {entry : CmdDef} (wellFormed : entry.WellFormed) (arg0 : Bytes)
    (arg1 : Option Bytes) :
    compareCommand arg0 arg1 entry =
      compareCut (cString (to_upper arg0)) (cutSubcommand arg1) entry := by
  unfold compareCommand compareCut
  rw [compareName_cut wellFormed.name.1]
  cases compare entry.name (cString (to_upper arg0)) with
  | lt => rfl
  | gt => rfl
  | eq =>
      cases known : entry.subname with
      | none => rfl
      | some subname =>
          have noNul := (wellFormed.subname subname known).1
          cases arg1 with
          | none => rfl
          | some arg1 =>
              simp only [cutSubcommand, Option.bind_some]
              split
              · rfl
              · simp [compareName_cut noNul]

theorem valkey_lookup_cmd_cut (arg0 : Bytes) (arg1 : Option Bytes) :
    valkey_lookup_cmd arg0 arg1 =
      if arg0.length > maxCommandLen then none
      else BinarySearch.search serverCommands
        (compareCut (cString (to_upper arg0)) (cutSubcommand arg1)) := by
  have agree := BinarySearch.search_congr fun entry member =>
    compareCommand_cut (wellFormed_serverCommands entry member) arg0 arg1
  rw [valkey_lookup_cmd, agree]

/-- A name and a subcommand are those of an entry. -/
structure Denotes (name : Bytes) (subcommand : Option Bytes) (entry : CmdDef) : Prop where
  name : entry.name = name
  subname : ∀ subname ∈ entry.subname, subcommand = some subname

theorem compare_self_eq (text : Bytes) : compare text text = .eq := Std.ReflCmp.compare_self

theorem compareCut_eq_iff {name : Bytes} {subcommand : Option Bytes} {entry : CmdDef} :
    compareCut name subcommand entry = some .eq ↔ Denotes name subcommand entry := by
  unfold compareCut
  constructor
  · intro equal
    cases order : compare entry.name name with
    | lt => simp [order] at equal
    | gt => simp [order] at equal
    | eq =>
        refine ⟨Std.LawfulEqCmp.eq_of_compare order, fun subname known => ?_⟩
        rw [Option.mem_def.mp known, order] at equal
        obtain ⟨given, rfl, same⟩ := Option.map_eq_some_iff.mp equal
        exact congrArg some (Std.LawfulEqCmp.eq_of_compare same).symm
  · rintro ⟨rfl, subname⟩
    rw [compare_self_eq]
    cases known : entry.subname with
    | none => rfl
    | some subname' => simp [subname subname' known]

section Denoted

variable {wanted entry : CmdDef} {name : Bytes} {subcommand : Option Bytes}
  (denotes : Denotes name subcommand wanted)

include denotes

theorem compareCut_before (before : entry.precedes wanted = true) :
    compareCut name subcommand entry = some .lt := by
  unfold compareCut
  rw [← denotes.name]
  rcases CmdDef.precedes_iff.mp before with less | ⟨same, other, subname, otherKnown, known, less⟩
  · simp [less]
  · rw [same, compare_self_eq, otherKnown, denotes.subname subname known]
    exact congrArg some less

theorem compareCut_after (after : wanted.precedes entry = true) :
    compareCut name subcommand entry = some .gt := by
  unfold compareCut
  rw [← denotes.name]
  rcases CmdDef.precedes_iff.mp after with less | ⟨same, subname, other, known, otherKnown, less⟩
  · simp [Std.OrientedCmp.gt_of_lt less]
  · rw [← same, compare_self_eq, otherKnown, denotes.subname subname known]
    exact congrArg some (Std.OrientedCmp.gt_of_lt less)

end Denoted

/-! ## The misplaced entries -/

/-- The entries that the search passes by. -/
def CmdDef.Misplaced (entry : CmdDef) : Prop :=
  entry.name = literal "COMMAND" ∨
    entry.name = literal "COMMANDLOG" ∧
      (entry.subname = some (literal "LEN") ∨ entry.subname = some (literal "RESET"))

instance (entry : CmdDef) : Decidable entry.Misplaced := inferInstanceAs (Decidable (_ ∨ _))

/-- Whatever the subcommand, the search for the name `COMMAND` meets no entry of it. -/
theorem search_container (subcommand : Option Bytes) :
    BinarySearch.search serverCommands (compareCut (literal "COMMAND") subcommand) = none := by
  have missed : BinarySearch.search serverCommands
      (fun entry => some (compare entry.name (literal "COMMAND"))) = none := by decide +kernel
  refine BinarySearch.search_missed (by simp) (fun entry _ different => ?_) missed
  unfold compareCut
  cases order : compare entry.name (literal "COMMAND") with
  | lt => rfl
  | gt => rfl
  | eq => exact absurd (congrArg some order) different

/-- Of the entries of `COMMANDLOG` two are found. -/
theorem search_log : ∀ entry ∈ serverCommands, entry.name = literal "COMMANDLOG" →
    BinarySearch.search serverCommands (compareCut (literal "COMMANDLOG") entry.subname) =
      if entry.Misplaced then none else some entry := by
  decide +kernel

theorem subcommands_of_log : ∀ entry ∈ serverCommands, entry.name = literal "COMMANDLOG" →
    entry.subname ≠ none := by decide +kernel

theorem search_misplaced {entry : CmdDef} (member : entry ∈ serverCommands)
    (misplaced : entry.Misplaced) {name : Bytes} {subcommand : Option Bytes}
    (denotes : Denotes name subcommand entry) :
    BinarySearch.search serverCommands (compareCut name subcommand) = none := by
  have outcome := misplaced
  rcases misplaced with container | ⟨log, _⟩
  · rw [← denotes.name, container]
    exact search_container subcommand
  · obtain ⟨subname, known⟩ := Option.ne_none_iff_exists'.mp (subcommands_of_log entry member log)
    rw [← denotes.name, denotes.subname subname known, ← known, log, search_log entry member log,
      if_pos outcome]

theorem search_found {entry : CmdDef} (member : entry ∈ serverCommands)
    (wellPlaced : ¬entry.Misplaced) {name : Bytes} {subcommand : Option Bytes}
    (denotes : Denotes name subcommand entry) :
    BinarySearch.search serverCommands (compareCut name subcommand) = some entry := by
  by_cases log : entry.name = literal "COMMANDLOG"
  · obtain ⟨subname, known⟩ := Option.ne_none_iff_exists'.mp (subcommands_of_log entry member log)
    rw [← denotes.name, denotes.subname subname known, ← known, log, search_log entry member log,
      if_neg wellPlaced]
  · have notContainer : entry.name ≠ literal "COMMAND" := fun container =>
      wellPlaced (.inl container)
    apply BinarySearch.search_eq member (sorted_around notContainer log)
    · exact compareCut_eq_iff.mpr denotes
    · exact fun other before => compareCut_before denotes before
    · exact fun other after => compareCut_after denotes after

/-- The search finds the entry that a name and a subcommand denote, unless it is misplaced. -/
theorem search_iff {name : Bytes} {subcommand : Option Bytes} {entry : CmdDef} :
    BinarySearch.search serverCommands (compareCut name subcommand) = some entry ↔
      entry ∈ serverCommands ∧ ¬entry.Misplaced ∧ Denotes name subcommand entry := by
  constructor
  · intro found
    obtain ⟨member, equal⟩ := BinarySearch.search_sound found
    have denotes := compareCut_eq_iff.mp equal
    refine ⟨member, fun misplaced => ?_, denotes⟩
    rw [search_misplaced member misplaced denotes] at found
    cases found
  · rintro ⟨member, wellPlaced, denotes⟩
    exact search_found member wellPlaced denotes

/-! ## The lookup -/

/-- Up to the first NUL of each, and in any letter case, the first two arguments name a
command. -/
structure NamesUpToNul (arg0 : Bytes) (arg1 : Option Bytes) (entry : CmdDef) : Prop where
  short : arg0.length ≤ maxCommandLen
  name : cString (to_upper arg0) = entry.name
  subname : ∀ subname ∈ entry.subname,
    ∃ text, arg1 = some text ∧ text.length ≤ maxCommandLen ∧ cString (to_upper text) = subname

/-- An argument in which the lookup overlooks what follows a NUL. -/
def HasNul (arg0 : Bytes) (arg1 : Option Bytes) (entry : CmdDef) : Prop :=
  ¬NoNul arg0 ∨ entry.subname ≠ none ∧ ∃ text, arg1 = some text ∧ ¬NoNul text

theorem toUpperByte_eq_zero {byte : UInt8} : toUpperByte byte = 0 ↔ byte = 0 := by
  unfold toUpperByte
  split
  · rename_i lower
    have bounds : 97 ≤ byte.toNat := UInt8.le_iff_toNat_le.mp lower.1
    have difference : (byte - 32).toNat = byte.toNat - 32 :=
      UInt8.toNat_sub_of_le _ _ (UInt8.le_iff_toNat_le.mpr (Nat.le_trans (by decide) bounds))
    constructor
    · intro zero
      rw [zero] at difference
      have := show (0 : UInt8).toNat = 0 from rfl
      omega
    · rintro rfl
      exact absurd bounds (by decide)
  · rfl

theorem noNul_to_upper {text : Bytes} : NoNul (to_upper text) ↔ NoNul text := by
  simp [NoNul, to_upper, toUpperByte_eq_zero]

theorem length_to_upper (text : Bytes) : (to_upper text).length = text.length := by
  rw [to_upper, List.length_map]

theorem NamesUpToNul.denotes {arg0 : Bytes} {arg1 : Option Bytes} {entry : CmdDef}
    (wellFormed : entry.WellFormed) (names : NamesUpToNul arg0 arg1 entry) :
    Denotes (cString (to_upper arg0)) (cutSubcommand arg1) entry where
  name := names.name.symm
  subname := by
    intro subname known
    obtain ⟨text, rfl, short, cut⟩ := names.subname subname known
    have notEmpty := (wellFormed.subname subname known).2.1
    have given : text ≠ [] := fun empty => notEmpty (by
      rw [← cut, empty]
      rfl)
    simp [cutSubcommand, given, Nat.not_lt.mpr short, cut]

theorem Denotes.namesUpToNul {arg0 : Bytes} {arg1 : Option Bytes} {entry : CmdDef}
    (short : arg0.length ≤ maxCommandLen)
    (denotes : Denotes (cString (to_upper arg0)) (cutSubcommand arg1) entry) :
    NamesUpToNul arg0 arg1 entry where
  short := short
  name := denotes.name.symm
  subname := by
    intro subname known
    have given := denotes.subname subname known
    unfold cutSubcommand at given
    obtain ⟨text, rfl, cut⟩ := Option.bind_eq_some_iff.mp given
    split at cut
    · cases cut
    · rename_i fits
      exact ⟨text, rfl, by omega, Option.some.inj cut⟩

/-- What the lookup finds. -/
theorem valkey_lookup_cmd_iff {arg0 : Bytes} {arg1 : Option Bytes} {entry : CmdDef} :
    valkey_lookup_cmd arg0 arg1 = some entry ↔
      entry ∈ serverCommands ∧ ¬entry.Misplaced ∧ NamesUpToNul arg0 arg1 entry := by
  rw [valkey_lookup_cmd_cut]
  split
  · rename_i long
    simp only [reduceCtorEq, false_iff, not_and]
    exact fun _ _ names => absurd names.short (Nat.not_le.mpr long)
  · rename_i short
    rw [search_iff]
    constructor
    · rintro ⟨member, wellPlaced, denotes⟩
      exact ⟨member, wellPlaced, denotes.namesUpToNul (Nat.not_lt.mp short)⟩
    · rintro ⟨member, wellPlaced, names⟩
      exact ⟨member, wellPlaced, names.denotes (wellFormed_serverCommands entry member)⟩

/-- A command is named exactly if it is so up to the first NULs, and there are none. -/
theorem names_iff {arg0 : Bytes} {arg1 : Option Bytes} {entry : CmdDef}
    (wellFormed : entry.WellFormed) :
    Names arg0 arg1 entry ↔ NamesUpToNul arg0 arg1 entry ∧ ¬HasNul arg0 arg1 entry := by
  constructor
  · intro names
    have noNul : NoNul arg0 := noNul_to_upper.mp (names.name ▸ wellFormed.name.1)
    refine ⟨⟨names.length ▸ wellFormed.name.2, ?_, fun subname known => ?_⟩, ?_⟩
    · rw [cString_of_clean (noNul_to_upper.mpr noNul), names.name]
    · obtain ⟨text, rfl, upper⟩ := Option.map_eq_some_iff.mp (names.subname subname known)
      obtain ⟨textNoNul, _, short⟩ := wellFormed.subname subname known
      refine ⟨text, rfl, ?_, ?_⟩
      · rw [← length_to_upper, upper]
        exact short
      · rw [upper, cString_of_clean textNoNul]
    · rintro (nul | ⟨container, text, rfl, nul⟩)
      · exact nul noNul
      · obtain ⟨subname, known⟩ := Option.ne_none_iff_exists'.mp container
        have upper : to_upper text = subname := by simpa using names.subname subname known
        exact nul (noNul_to_upper.mp (upper ▸ (wellFormed.subname subname known).1))
  · rintro ⟨names, noNul⟩
    refine ⟨?_, fun subname known => ?_⟩
    · have arg0NoNul : NoNul arg0 := not_not.mp fun nul => noNul (.inl nul)
      rw [← names.name, cString_of_clean (noNul_to_upper.mpr arg0NoNul)]
    · obtain ⟨text, rfl, _, cut⟩ := names.subname subname known
      have textNoNul : NoNul text := not_not.mp fun nul =>
        noNul (.inr ⟨by simp [Option.mem_def.mp known], text, rfl, nul⟩)
      rw [Option.map_some, ← cut, cString_of_clean (noNul_to_upper.mpr textNoNul)]

theorem valkey_lookup_cmd_eq {wanted : CmdDef} (member : wanted ∈ serverCommands)
    (keyed : wanted.Keyed) {arg0 : Bytes} {arg1 : Option Bytes} (names : Names arg0 arg1 wanted) :
    valkey_lookup_cmd arg0 arg1 = some wanted := by
  have others : ∀ entry ∈ serverCommands, entry.Keyed → ¬entry.Misplaced := by decide +kernel
  have wellFormed := wellFormed_serverCommands wanted member
  exact valkey_lookup_cmd_iff.mpr
    ⟨member, others wanted member keyed, ((names_iff wellFormed).mp names).1⟩

/-- The lookup finds the entry that the arguments name, and nothing where there is none. -/
structure FindsNamed (arg0 : Bytes) (arg1 : Option Bytes) : Prop where
  found : ∀ entry, valkey_lookup_cmd arg0 arg1 = some entry ↔
    entry ∈ serverCommands ∧ Names arg0 arg1 entry
  missing : (∀ entry ∈ serverCommands, ¬Names arg0 arg1 entry) →
    valkey_lookup_cmd arg0 arg1 = none

/-- The arguments name no misplaced entry, and no other one where a NUL cuts them off. -/
def Findable (arg0 : Bytes) (arg1 : Option Bytes) : Prop :=
  ∀ entry ∈ serverCommands, NamesUpToNul arg0 arg1 entry →
    if entry.Misplaced then HasNul arg0 arg1 entry else ¬HasNul arg0 arg1 entry

theorem names_self {entry : CmdDef} (member : entry ∈ serverCommands) :
    Names entry.name entry.subname entry := by
  have upper : ∀ entry ∈ serverCommands,
      to_upper entry.name = entry.name ∧ entry.subname.map to_upper = entry.subname := by
    decide +kernel
  obtain ⟨name, subname⟩ := upper entry member
  exact ⟨name, fun _ known => subname.trans known⟩

theorem FindsNamed.findable {arg0 : Bytes} {arg1 : Option Bytes} (finds : FindsNamed arg0 arg1) :
    Findable arg0 arg1 := by
  intro entry member names
  have wellFormed := wellFormed_serverCommands entry member
  split
  · rename_i misplaced
    by_contra noNul
    have named := (names_iff wellFormed).mpr ⟨names, noNul⟩
    exact (valkey_lookup_cmd_iff.mp ((finds.found entry).mpr ⟨member, named⟩)).2.1 misplaced
  · rename_i wellPlaced
    have found := valkey_lookup_cmd_iff.mpr ⟨member, wellPlaced, names⟩
    exact ((names_iff wellFormed).mp ((finds.found entry).mp found).2).2

theorem Findable.findsNamed {arg0 : Bytes} {arg1 : Option Bytes} (findable : Findable arg0 arg1) :
    FindsNamed arg0 arg1 := by
  have found (entry : CmdDef) : valkey_lookup_cmd arg0 arg1 = some entry ↔
      entry ∈ serverCommands ∧ Names arg0 arg1 entry := by
    rw [valkey_lookup_cmd_iff]
    refine and_congr_right fun member => ?_
    rw [names_iff (wellFormed_serverCommands entry member), and_comm]
    refine and_congr_right fun names => ?_
    have condition := findable entry member names
    by_cases misplaced : entry.Misplaced
    · rw [if_pos misplaced] at condition
      simp [misplaced, condition]
    · rw [if_neg misplaced] at condition
      simp [misplaced, condition]
  refine ⟨found, fun unnamed => ?_⟩
  by_contra something
  obtain ⟨entry, known⟩ := Option.ne_none_iff_exists'.mp something
  obtain ⟨member, names⟩ := (found entry).mp known
  exact unnamed entry member names

/-- The lookup is a linear search exactly where the arguments name no misplaced entry and
no NUL cuts off the name of another one. An entry is found by its own name and subcommand
exactly if it is not misplaced. -/
theorem valkey_lookup_cmd_linear (arg0 : Bytes) (arg1 : Option Bytes) :
    (FindsNamed arg0 arg1 ↔ Findable arg0 arg1) ∧
      ∀ entry ∈ serverCommands,
        valkey_lookup_cmd entry.name entry.subname = some entry ↔ ¬entry.Misplaced := by
  refine ⟨⟨FindsNamed.findable, Findable.findsNamed⟩, fun entry member => ?_⟩
  have wellFormed := wellFormed_serverCommands entry member
  have names := ((names_iff wellFormed).mp (names_self member)).1
  rw [valkey_lookup_cmd_iff]
  exact ⟨fun found => found.2.1, fun wellPlaced => ⟨member, wellPlaced, names⟩⟩

/-- `COMMAND COUNT` is in the table and is not found, and `GET` is found where a NUL follows. -/
theorem valkey_lookup_cmd_misses :
    ¬FindsNamed (literal "COMMAND") (some (literal "COUNT")) ∧
      ¬FindsNamed (literal "GET" ++ [0, 120]) none := by
  constructor
  · intro finds
    have member : COMMAND .other "COMMAND" (some "COUNT") 2 .none 0 ∈ serverCommands := by
      decide +kernel
    have missed : valkey_lookup_cmd (literal "COMMAND") (some (literal "COUNT")) = none := by
      decide +kernel
    have found := (finds.found _).mpr ⟨member, names_self member⟩
    rw [missed] at found
    cases found
  · intro finds
    have found : valkey_lookup_cmd (literal "GET" ++ [0, 120]) none =
        some (COMMAND .other "GET" none 2 .index 1) := by decide +kernel
    have names := ((finds.found _).mp found).2.name
    exact absurd names (by decide +kernel)

end Libvalkey
