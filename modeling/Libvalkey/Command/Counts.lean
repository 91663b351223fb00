import Libvalkey.Command.SliceBounds
import Libvalkey.Reader.ChildIndex

/-! # Lengths and counts of a command

Where the lengths of bulk strings and the number of arguments are those that are written. -/

namespace Libvalkey

theorem parseHeader_eq_some {cmd p : Bytes} {rnarg : Nat}
    (parsed : parseHeader cmd = some (rnarg, p)) :
    ∃ digits, AllDigits digits ∧ cmd = withCount '*'.toUInt8 digits p ∧
      rnarg = Decimal.accumulate 0 digits % 2 ^ 32 ∧ rnarg ≠ 0 := by
  cases cmd with
  | nil => simp [parseHeader] at parsed
  | cons byte text =>
      obtain ⟨digits, rest, rfl, all, ends⟩ := exists_run text
      rw [parseHeader] at parsed
      split at parsed
      · cases parsed
      · rename_i marked
        have run := parseUint32_run (show 0 < 2 ^ 32 by decide) all ends
        simp only [run] at parsed
        cases newline : skipCRLF rest with
        | none => simp [newline] at parsed
        | some others =>
            have given : Decimal.accumulate 0 digits % 2 ^ 32 = rnarg ∧ others = p ∧ rnarg ≠ 0 := by
              rw [newline] at parsed
              dsimp only at parsed
              split at parsed
              · cases parsed
              · rename_i notZero
                obtain ⟨rfl, rfl⟩ := Prod.mk.inj (Option.some.inj parsed)
                exact ⟨rfl, rfl, notZero⟩
            obtain ⟨same, rfl, notZero⟩ := given
            refine ⟨digits, all, ?_, same.symm, notZero⟩
            rw [withCount, ← skipCRLF_eq_some.mp newline, not_not.mp marked]

theorem checkedCount_eq_some {cmd : Bytes} {count : Int} (checked : checkedCount cmd = some count) :
    ∃ rnarg p, parseHeader cmd = some (rnarg, p) ∧ count = toInt32 rnarg := by
  unfold checkedCount at checked
  cases parsed : parseHeader cmd with
  | none => simp [parsed] at checked
  | some header =>
      refine ⟨header.1, header.2, rfl, ?_⟩
      simp only [parsed] at checked
      split at checked
      · split at checked
        · split at checked
          · obtain ⟨_, _, rfl⟩ := Option.map_eq_some_iff.mp checked
            rfl
          · cases checked
        · obtain ⟨_, _, rfl⟩ := Option.map_eq_some_iff.mp checked
          rfl
      · cases checked

/-- The number of arguments in the check of the arity is the one that is written. -/
def CountExact (cmd : Bytes) : Prop :=
  ∀ allocated run count, valkey_parse_cmd_at allocated cmd = .ok run → run.counted = some count →
    ∃ digits rest, AllDigits digits ∧ digits ≠ [] ∧ cmd = withCount '*'.toUInt8 digits rest ∧
      count = Decimal.accumulate 0 digits

/-- A number of `2 ^ 31` or more, with a command behind it whose arity is checked. -/
def WrappedCount (cmd : Bytes) : Prop :=
  ∃ digits rest, AllDigits digits ∧ cmd = withCount '*'.toUInt8 digits rest ∧
    2 ^ 31 ≤ Decimal.accumulate 0 digits ∧ checkedCount cmd ≠ none

theorem countExact_iff (cmd : Bytes) : CountExact cmd ↔ ¬WrappedCount cmd := by
  constructor
  · rintro exactly ⟨digits, rest, all, text, large, checked⟩
    have notEmpty : cmd ≠ [] := by simp [text, withCount]
    obtain ⟨run, result, _, counted, _⟩ := valkey_parse_cmd_at_eq true notEmpty
    obtain ⟨count, known⟩ := Option.ne_none_iff_exists'.mp checked
    obtain ⟨others, more, allOthers, _, same, value⟩ :=
      exactly true run count result (counted.trans known)
    obtain ⟨rfl, _⟩ := withCount_inj all allOthers (text.symm.trans same)
    obtain ⟨rnarg, p, _, wrapped⟩ := checkedCount_eq_some known
    have bound := toInt32_lt rnarg
    omega
  · intro small allocated run count result checked
    have notEmpty : cmd ≠ [] := by
      rintro rfl
      have fault : valkey_parse_cmd_at allocated [] = .error ⟨0⟩ := rfl
      rw [fault] at result
      cases result
    obtain ⟨other, otherResult, _, counted, _⟩ := valkey_parse_cmd_at_eq allocated notEmpty
    have same : other = run := Except.ok.inj (otherResult.symm.trans result)
    have known : checkedCount cmd = some count := by rw [← counted, same, checked]
    obtain ⟨rnarg, p, parsed, cast⟩ := checkedCount_eq_some known
    obtain ⟨digits, all, text, value, notZero⟩ := parseHeader_eq_some parsed
    have bound : Decimal.accumulate 0 digits < 2 ^ 31 := by
      by_contra large
      exact small ⟨digits, p, all, text, Nat.le_of_not_lt large, by simp [known]⟩
    have unwrapped : rnarg = Decimal.accumulate 0 digits := by
      rw [value, Nat.mod_eq_of_lt (by omega)]
    refine ⟨digits, p, all, ?_, text, ?_⟩
    · rintro rfl
      exact notZero unwrapped
    · rw [cast, toInt32_of_small (unwrapped ▸ bound), unwrapped]

/-- Where both parsers accept a bulk string they report the same argument. -/
def ParsersAgree (buf : Bytes) : Prop :=
  ∀ payload rest argument, valkey_parse_bulk buf = some (payload, some rest) →
    nextArgument buf = some argument → argument.str = payload

/-- A bulk string is accepted as it is written exactly if its length has digits and does
not wrap around, and the arity is checked against the number that is written exactly if
that one does not. The two parsers never disagree. -/
theorem lengths_as_written (buf cmd : Bytes) :
    (BulkExact buf ↔ ¬WithoutLength buf ∧ ¬WrappedLength buf) ∧
      (CountExact cmd ↔ ¬WrappedCount cmd) ∧ ParsersAgree buf :=
  ⟨bulkExact_iff buf, countExact_iff cmd, fun _ _ _ => parsers_agree⟩

/-- `2 ^ 32 + 1` is read as 1, a missing length as 0 and `2 ^ 32 + 2` arguments as 2. -/
theorem lengths_wrap :
    ¬BulkExact (ascii "$4294967297\r\nx\r\n") ∧ ¬BulkExact (ascii "$\r\n\r\n") ∧
      ¬CountExact (ascii "*4294967298\r\n$3\r\nGET\r\n$1\r\nx\r\n") := by
  refine ⟨?_, ?_, ?_⟩
  · rw [bulkExact_iff, not_and_not_right]
    exact fun _ => ⟨ascii "4294967297", ascii "x", [], by decide, by decide, by decide, by decide⟩
  · rw [bulkExact_iff]
    exact fun both => both.1 ⟨[], by decide⟩
  · rw [countExact_iff, not_not]
    exact ⟨ascii "4294967298", ascii "$3\r\nGET\r\n$1\r\nx\r\n", by decide, by decide, by decide,
      by decide +kernel⟩

end Libvalkey
