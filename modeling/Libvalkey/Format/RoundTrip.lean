import Libvalkey.Async.ArgumentScan
import Libvalkey.Format.Agreement

/-! # Arguments that are found again

The loops over the arguments of a command undo its encoding. -/

namespace Libvalkey.Format

open Buffer

/-! ## Sizes -/

theorem length_formatBulk_le {arg : Bytes} (small : arg.length ≤ maxBulkLen) :
    (formatBulk arg).length ≤ maxBulkLen + 14 := by
  have header := length_bulkHeader arg
  have digits : (Decimal.ofNat arg.length).length ≤ 9 :=
    Decimal.length_ofNat_le (Nat.lt_of_le_of_lt small (by decide))
  simp only [bulkHeader, List.length_append, List.length_cons, List.length_nil] at header
  omega

theorem length_flatMap_formatBulk_le {argv : List Bytes}
    (small : ∀ arg ∈ argv, arg.length ≤ maxBulkLen) :
    (argv.flatMap formatBulk).length ≤ argv.length * (maxBulkLen + 14) := by
  induction argv with
  | nil => simp
  | cons arg argv induction =>
      have first := length_formatBulk_le (small arg List.mem_cons_self)
      have others := induction fun other member => small other (List.mem_cons_of_mem _ member)
      rw [List.flatMap_cons, List.length_append, List.length_cons, Nat.add_one_mul]
      omega

/-- An encoding that the loops can go over is far from what does not fit a `size_t`. -/
theorem encoding_small {argv : ArgVector} (small : ∀ arg ∈ argv.texts, arg.length ≤ maxBulkLen) :
    (encoding argv.texts).length < 2 ^ 63 := by
  have argc := argv.short
  have arguments := length_flatMap_formatBulk_le small
  have digits : (Decimal.ofNat argv.texts.length).length ≤ 10 :=
    Decimal.length_ofNat_le (Nat.lt_trans argc (by decide))
  have product : argv.texts.length * (maxBulkLen + 14) ≤ 2 ^ 31 * (maxBulkLen + 14) :=
    Nat.mul_le_mul_right _ (Nat.le_of_lt argc)
  have bound : 2 ^ 31 * (maxBulkLen + 14) < 2 ^ 62 := by decide
  rw [encoding_eq, List.length_append, countHeader]
  simp only [List.length_append, List.length_cons, List.length_nil]
  omega

/-! ## The loops over an encoding -/

section Encoding

variable {argv : List Bytes} (small : ∀ arg ∈ argv, arg.length ≤ maxBulkLen)

include small

theorem argumentsOf_encoding : argumentsOf (some (encoding argv)) = argv := by
  cases argv with
  | nil => decide
  | cons name channels =>
      have first := nextArgument_format (small name List.mem_cons_self) channels
      have others := fun other member => small other (List.mem_cons_of_mem name member)
      have size : (channels.flatMap formatBulk).length ≤
          (encoding (name :: channels)).length - 1 := by
        rw [encoding_eq, List.flatMap_cons, countHeader]
        simp only [List.length_append, List.length_cons]
        omega
      have positive : encoding (name :: channels) ≠ [] := by simp [encoding_eq, countHeader]
      obtain ⟨fuel, length⟩ := Nat.exists_eq_succ_of_ne_zero
        (Nat.ne_of_gt (List.length_pos_of_ne_nil positive))
      rw [argumentsOf, Option.getD_some, length, argumentsFrom, first]
      dsimp only
      rw [argumentsFrom_format others (by omega)]
      simp [Argument.str]

theorem argumentsAt_encoding : argumentsAt (encoding argv) (some 0) = .ok (some argv) := by
  rw [argumentsAt_eq (by simp), Option.map_some, List.drop_zero, argumentsOf_encoding small]

end Encoding

/-- The arguments that a loop from the beginning of a command goes over, and the channels that
the loops behind its name go over. -/
structure Recovers (cmd : Bytes) (argv : List Bytes) : Prop where
  all : argumentsAt cmd (some 0) = .ok (some argv)
  appended : ∀ name channels, argv = name :: channels →
    ∃ kind variant names, scanCommand cmd = .ok (some ⟨kind, variant, names⟩) ∧
      (kind = .subscribe ∨ kind = .unsubscribe → names = channels)
  ssubscribe : ssubscribeChannels cmd = .ok (some argv.tail)

theorem hasNext_bufferAfter {text rest : Bytes} {length : Nat} {argv : List Bytes}
    (encoded : rest = argv.flatMap formatBulk) :
    Argument.hasNext ⟨text, length, bufferAfter rest⟩ = !argv.isEmpty := by
  subst encoded
  cases argv with
  | nil => rfl
  | cons arg argv => simp [bufferAfter, Argument.hasNext, formatBulk]

theorem recovers_encoding {argv : List Bytes} (small : ∀ arg ∈ argv, arg.length ≤ maxBulkLen) :
    Recovers (encoding argv) argv where
  all := argumentsAt_encoding small
  appended := by
    rintro name channels rfl
    have first := nextArgument_format (small name List.mem_cons_self) channels
    have others := argumentsOf_format fun other member =>
      small other (List.mem_cons_of_mem name member)
    refine ⟨_, _, _, by rw [scanCommand_eq, first]; rfl, fun special => ?_⟩
    rw [others, hasNext_bufferAfter rfl]
    cases channels with
    | nil => simp
    | cons channel channels => exact if_pos ⟨rfl, special⟩
  ssubscribe := by
    rw [ssubscribeChannels_eq]
    cases argv with
    | nil => decide
    | cons name channels =>
        rw [nextArgument_format (small name List.mem_cons_self), Option.bind_some,
          argumentsOf_format fun other member => small other (List.mem_cons_of_mem name member)]
        rfl

/-- The loops over the arguments of a command undo either of its encodings. On no buffer do
they read a byte outside of it, and they come to an end. -/
theorem nextArgument_undoes_encoding :
    (∀ (memory : Memory) (argv : ArgVector), (∀ arg ∈ argv.texts, arg.length ≤ maxBulkLen) →
      (∃ outcome, valkeyFormatCommandArgv memory argv = .ok outcome ∧
        match outcome with
        | .done block len => Recovers (block.bytes.take len.toNat) argv.texts
        | .failed _ => ¬memory.Ample) ∧
      ∃ outcome, valkeyFormatSdsCommandArgv memory argv = .ok outcome ∧
        match outcome with
        | .done cmd len => Recovers (cmd.contents.take len.toNat) argv.texts
        | .failed _ => ¬memory.Ample) ∧
    ∀ cmd, ∃ argv scanned channels, argumentsAt cmd (some 0) = .ok (some argv) ∧
      scanCommand cmd = .ok scanned ∧ ssubscribeChannels cmd = .ok (some channels) := by
  constructor
  · intro memory argv small
    have recovers := recovers_encoding small
    constructor
    · obtain ⟨outcome, result, encoded⟩ := encodes_array (encoding_small small) memory
      refine ⟨outcome, result, ?_⟩
      rcases encoded with ⟨block, rfl, _, holds⟩ | ⟨rfl, refused⟩
      · have written := List.prefix_iff_eq_take.mp holds.of_append
        dsimp only
        rwa [Int.toNat_natCast, ← written]
      · exact refused
    · obtain ⟨outcome, result, encoded⟩ := encodes_sds (encoding_small small) memory
      refine ⟨outcome, result, ?_⟩
      rcases encoded with ⟨cmd, rfl, contents⟩ | ⟨rfl, refused⟩
      · dsimp only
        rwa [contents, Int.toNat_natCast, List.take_length]
      · exact refused
  · intro cmd
    exact ⟨_, _, _, argumentsAt_eq (by simp), scanCommand_eq cmd, ssubscribeChannels_eq cmd⟩

theorem nextArgument_undoes_encoding_subscribe :
    ∃ outcome, valkeyFormatCommandArgv (fun _ => true)
        ⟨.terminated [ascii "SUBSCRIBE", ascii "$5\r\n", []], by decide⟩ = .ok outcome ∧
      match outcome with
      | .done block len => Recovers (block.bytes.take len.toNat)
          [ascii "SUBSCRIBE", ascii "$5\r\n", []]
      | .failed _ => False := by
  obtain ⟨outcome, result, encoded⟩ := (nextArgument_undoes_encoding.1 (fun _ => true)
    ⟨.terminated [ascii "SUBSCRIBE", ascii "$5\r\n", []], by decide⟩ (by decide)).1
  refine ⟨outcome, result, ?_⟩
  cases outcome with
  | done block len =>
      have texts : ArgVector.texts ⟨.terminated [ascii "SUBSCRIBE", ascii "$5\r\n", []],
          by decide⟩ = [ascii "SUBSCRIBE", ascii "$5\r\n", []] := by decide
      rw [← texts]
      exact encoded
  | failed code => exact encoded fun _ => rfl

end Libvalkey.Format
