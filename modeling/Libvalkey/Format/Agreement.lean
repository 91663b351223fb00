import Libvalkey.Format.Progress
import Libvalkey.Format.Rendering

/-! # The encoders agree

A vector of arguments has one encoding, with lengths or without, in memory or in a string,
and through a format with one `%b` for each argument. -/

namespace Libvalkey.Format

open Checked

/-! ## One `%b` for each argument -/

/-- An argument that a NUL ends has a length, too. -/
def Sized.ofString (memory : Bytes) : Sized :=
  ⟨memory, (cString memory).length, (List.takeWhile_prefix _).length_le⟩

def Argv.items : Argv → List Sized
  | .sized argv => argv
  | .terminated argv => argv.map Sized.ofString

def Sized.text (arg : Sized) : Bytes := arg.memory.take arg.len

theorem texts_items (argv : Argv) : argv.texts = argv.items.map Sized.text := by
  cases argv with
  | sized argv => rfl
  | terminated argv =>
      simp only [Argv.texts, Argv.items, List.map_map]
      refine List.map_congr_left fun memory _ => ?_
      exact List.prefix_iff_eq_take.mp (List.takeWhile_prefix _)

/-- `%b`, as many times as there are arguments, with spaces between. -/
def binaryFormat : List Sized → Bytes
  | [] => []
  | [_] => ascii "%b"
  | _ :: argv => ascii "%b " ++ binaryFormat argv

def Sized.args (arg : Sized) : List VaArg := [.pointer (some arg.memory), .size arg.len]

/-- The events of one argument. -/
def Sized.events (arg : Sized) : List Event :=
  [.consumed (.pointer (some arg.memory)), .consumed (.size arg.len), .appended arg.text]

def binaryEvents : List Sized → List Event
  | [] => []
  | [arg] => arg.events
  | arg :: argv => arg.events ++ .separator :: binaryEvents argv

variable {printf : Printf}

theorem directiveAt_binary (rest : Bytes) :
    directiveAt '%'.toUInt8 ('b'.toUInt8 :: rest) = (.binary, rest) := rfl

theorem binary_events (arg : Sized) (args : List VaArg) :
    Directive.binary.events printf (arg.args ++ args) = some (arg.events, args) := by
  simp [Sized.args, Directive.events, arg.inside, Sized.events, Sized.text]

theorem space_events (args : List VaArg) :
    Directive.space.events printf args = some ([.separator], args) := rfl

theorem eventsOf_binary (argv : List Sized) :
    eventsOf printf (directives (binaryFormat argv)) (argv.flatMap Sized.args) =
      some (binaryEvents argv, []) := by
  induction argv with
  | nil => rfl
  | cons arg argv induction =>
      rw [List.flatMap_cons]
      cases argv with
      | nil =>
          have alone : directives (ascii "%b") = [.binary] := by decide
          rw [binaryFormat, alone, eventsOf, binary_events]
          simp [eventsOf, binaryEvents]
      | cons next argv =>
          have front : directives (binaryFormat (arg :: next :: argv)) =
              .binary :: .space :: directives (binaryFormat (next :: argv)) := by
            have spelled : binaryFormat (arg :: next :: argv) =
                '%'.toUInt8 :: 'b'.toUInt8 :: ' '.toUInt8 :: binaryFormat (next :: argv) := rfl
            rw [spelled, directives_cons, directiveAt_binary, directives_cons,
              directiveAt_plain (by decide)]
            rfl
          have rest : eventsOf printf (.space :: directives (binaryFormat (next :: argv)))
              ((next :: argv).flatMap Sized.args) =
                some (.separator :: binaryEvents (next :: argv), []) := by
            rw [eventsOf, space_events, Option.bind_some]
            dsimp only
            rw [induction]
            rfl
          rw [front, eventsOf, binary_events, Option.bind_some]
          dsimp only
          rw [rest]
          rfl

theorem replay_binary (argv : List Sized) :
    replay [] false (binaryEvents argv) = argv.map Sized.text := by
  induction argv with
  | nil => rfl
  | cons arg argv induction =>
      cases argv with
      | nil => simp [binaryEvents, Sized.events, replay]
      | cons next argv => simpa [binaryEvents, Sized.events, replay] using induction

theorem noNul_binary (argv : List Sized) : NoNul (binaryFormat argv) := by
  induction argv with
  | nil => simp [NoNul, binaryFormat]
  | cons arg argv induction =>
      cases argv with
      | nil => exact (by decide : NoNul (ascii "%b"))
      | cons next argv =>
          intro member
          rcases List.mem_append.mp member with front | rest
          · exact absurd front (by decide)
          · exact induction rest

theorem eventsSize_binary (argv : List Sized) :
    eventsSize (binaryEvents argv) ≤ ((argv.map Sized.text).flatMap formatBulk).length := by
  induction argv with
  | nil => exact Nat.le_refl _
  | cons arg argv induction =>
      have bulk := length_bulkHeader arg.text
      rw [List.map_cons, List.flatMap_cons, List.length_append]
      cases argv with
      | nil =>
          simp [binaryEvents, Sized.events, Event.size]
          omega
      | cons next argv =>
          simp [binaryEvents, Sized.events, Event.size] at induction ⊢
          omega

/-! ## Agreement -/

/-- The command has been encoded, or a request for memory has been refused. -/
def Encodes (memory : Memory) (result : Except Fault (Outcome Block)) (text : Bytes) : Prop :=
  ∃ outcome, result = .ok outcome ∧
    (outcome.Holds text ∨ outcome = .failed (-1) ∧ ¬memory.Ample)

def EncodesSds (memory : Memory) (result : Except Fault (Outcome Sds)) (text : Bytes) : Prop :=
  ∃ outcome, result = .ok outcome ∧
    ((∃ cmd, outcome = .done cmd text.length ∧ cmd.contents = text) ∨
      outcome = .failed (-1) ∧ ¬memory.Ample)

/-- The call of `valkeyvFormatCommand` with one `%b` for each argument. -/
def formatBinary (printf : Printf) (memory : Memory) (argv : ArgVector) :
    Except Fault (Outcome Block) :=
  valkeyvFormatCommand printf memory (binaryFormat argv.argv.items)
    (argv.argv.items.flatMap Sized.args)

/-- The encoders produce the same bytes, as many as they have measured. -/
structure EncodersAgree (printf : Printf) (argv : ArgVector) : Prop where
  total : totalLength argv.texts = (encoding argv.texts).length
  array : ∀ memory, Encodes memory (valkeyFormatCommandArgv memory argv) (encoding argv.texts)
  sds : ∀ memory, EncodesSds memory (valkeyFormatSdsCommandArgv memory argv) (encoding argv.texts)
  format : argv.texts ≠ [] →
    ∀ memory, Encodes memory (formatBinary printf memory argv) (encoding argv.texts)

section Agreement

variable {argv : ArgVector}

theorem encodes_array (small : (encoding argv.texts).length < 2 ^ 63) (memory : Memory) :
    Encodes memory (valkeyFormatCommandArgv memory argv) (encoding argv.texts) := by
  obtain ⟨outcome, result, holds⟩ := valkeyFormatCommandArgv_eq memory small
  refine ⟨outcome, result, ?_⟩
  split at holds
  · exact .inl holds
  · rename_i refused
    exact .inr ⟨holds, fun ample => refused (ample 0)⟩

theorem encodes_sds (small : (encoding argv.texts).length < 2 ^ 63) (memory : Memory) :
    EncodesSds memory (valkeyFormatSdsCommandArgv memory argv) (encoding argv.texts) := by
  obtain ⟨outcome, result, holds⟩ := valkeyFormatSdsCommandArgv_eq memory small
  refine ⟨outcome, result, ?_⟩
  split at holds
  · exact .inl holds
  · rename_i refused
    exact .inr ⟨holds, fun ample => refused (by simp [ample 0, ample 1])⟩

/-- The format puts the arguments of the vector together, unless memory is refused. -/
theorem scan_binary (printf : Printf) (small : (encoding argv.texts).length < 2 ^ 63)
    (memory : Memory) :
    Proceeds memory True (scan printf memory (binaryFormat argv.argv.items)
        (argv.argv.items.flatMap Sized.args)) ∧
      ∀ state, scan printf memory (binaryFormat argv.argv.items)
        (argv.argv.items.flatMap Sized.args) = .ok state →
          state.curargv = argv.texts ∧ state.Counted := by
  have ran : eventsOf printf (directives (cString (binaryFormat argv.argv.items)))
      (argv.argv.items.flatMap Sized.args) = some (binaryEvents argv.argv.items, []) := by
    rw [cString_of_clean (noNul_binary _), eventsOf_binary]
  have texts : argv.texts = argv.argv.items.map Sized.text := texts_items argv.argv
  constructor
  · have size := eventsSize_binary argv.argv.items
    rw [encoding_eq, List.length_append, texts] at small
    exact (proceeds_scan ran).allow fun stop refused =>
      ⟨refused.1, fun _ => refused.2 (by omega)⟩
  · intro state result
    have facts := scan_scanned result
    obtain ⟨log, _⟩ := Prod.mk.inj (Option.some.inj (ran.symm.trans facts.events))
    exact ⟨by rw [facts.curargv, ← log, replay_binary, texts], facts.counted⟩

theorem encodes_format (small : (encoding argv.texts).length + 1 < 2 ^ 31) (memory : Memory) :
    Encodes memory (formatBinary printf memory argv) (encoding argv.texts) := by
  obtain ⟨proceeds, put⟩ := scan_binary printf
    (show (encoding argv.texts).length < 2 ^ 63 by omega) memory
  rw [formatBinary, valkeyvFormatCommand]
  cases result : scan printf memory (binaryFormat argv.argv.items)
      (argv.argv.items.flatMap Sized.args) with
  | error stop =>
      rw [result] at proceeds
      obtain ⟨rfl, refused⟩ := proceeds
      exact ⟨.failed (-1), rfl, .inr ⟨rfl, refused trivial⟩⟩
  | ok state =>
      rw [result] at proceeds
      obtain ⟨curargv, counted⟩ := put state result
      rw [← curargv] at small ⊢
      obtain ⟨outcome, built, holds⟩ := buildCommand_small counted small
      refine ⟨outcome, built, ?_⟩
      split at holds
      · exact .inl holds
      · rename_i refused
        exact .inr ⟨holds, fun ample => refused (proceeds ample 0)⟩

/-- One byte more than fits into an `int` with the NUL. -/
theorem format_overflows (full : (encoding argv.texts).length = 2 ^ 31 - 1) :
    ¬Encodes (fun _ => true) (formatBinary printf (fun _ => true) argv) (encoding argv.texts) := by
  obtain ⟨proceeds, put⟩ := scan_binary printf
    (show (encoding argv.texts).length < 2 ^ 63 by omega) fun _ => true
  rintro ⟨outcome, encoded, _⟩
  rw [formatBinary, valkeyvFormatCommand] at encoded
  cases result : scan printf (fun _ => true) (binaryFormat argv.argv.items)
      (argv.argv.items.flatMap Sized.args) with
  | error stop =>
      rw [result] at proceeds
      exact proceeds.2 trivial fun _ => rfl
  | ok state =>
      obtain ⟨curargv, counted⟩ := put state result
      have overflow : buildCommand state = .error .overflow := by
        rw [buildCommand, totlen_eq counted, curargv, full, toInt32_of_small (by omega)]
        rfl
      rw [result] at encoded
      cases encoded.symm.trans overflow

theorem encodersAgree_of_ne (small : (encoding argv.texts).length < 2 ^ 31)
    (other : (encoding argv.texts).length ≠ 2 ^ 31 - 1) : EncodersAgree printf argv where
  total := totalLength_eq (by omega)
  array := encodes_array (by omega)
  sds := encodes_sds (by omega)
  format := fun _ => encodes_format (by omega)

/-- A vector of one argument with `n` bytes. -/
def zeros (n : Nat) : ArgVector where
  argv := .sized [⟨List.replicate n 0, n, by simp⟩]
  short := by simp [Argv.texts]

theorem texts_zeros (n : Nat) : (zeros n).texts = [List.replicate n 0] := by
  simp [zeros, ArgVector.texts, Argv.texts]

theorem length_zeros (n digits : Nat) (large : 10 ^ digits ≤ n) (small : n < 10 ^ (digits + 1)) :
    (encoding (zeros n).texts).length = n + digits + 10 := by
  have one : countHeader 1 = ascii "*1\r\n" := by decide
  rw [texts_zeros, encoding_eq, List.length_append, List.length_singleton, one,
    List.flatMap_singleton, ← length_bulkHeader, bulkHeader]
  simp only [List.length_append, List.length_cons, List.length_nil, List.length_replicate,
    Decimal.length_ofNat_eq large small]
  rw [show (ascii "*1\r\n").length = 4 by decide]
  omega

end Agreement

/-- Below `2 ^ 31` bytes the encoders agree, but for one length: `valkeyvFormatCommand` adds
the NUL in `int`. -/
theorem encodersAgree_iff (printf : Printf) {argv : ArgVector}
    (small : (encoding argv.texts).length < 2 ^ 31) :
    EncodersAgree printf argv ↔ (encoding argv.texts).length ≠ 2 ^ 31 - 1 := by
  refine ⟨fun agree full => ?_, encodersAgree_of_ne small⟩
  have notEmpty : argv.texts ≠ [] := by
    intro empty
    have length : (encoding argv.texts).length = 4 := by
      rw [empty]
      decide
    omega
  exact format_overflows full (agree.format notEmpty fun _ => true)

theorem encodersAgree_empty : EncodersAgree printfInteger ⟨.terminated [], by decide⟩ ∧
    EncodersAgree printfInteger ⟨.terminated [ascii "GET", ascii "x"], by decide⟩ :=
  ⟨(encodersAgree_iff printfInteger (by decide)).mpr (by decide),
    (encodersAgree_iff printfInteger (by decide)).mpr (by decide)⟩

/-- An argument of 2147483628 bytes makes a command of `2 ^ 31 - 1`. -/
theorem encoders_disagree : (encoding (zeros 2147483628).texts).length < 2 ^ 31 ∧
    ¬EncodersAgree printfInteger (zeros 2147483628) := by
  have full : (encoding (zeros 2147483628).texts).length = 2 ^ 31 - 1 :=
    length_zeros 2147483628 9 (by decide) (by decide)
  refine ⟨by rw [full]; decide, fun agree => ?_⟩
  have notEmpty : (zeros 2147483628).texts ≠ [] := by
    rw [texts_zeros]
    exact List.cons_ne_nil _ _
  exact format_overflows full (agree.format notEmpty fun _ => true)

end Libvalkey.Format
