import Libvalkey.Command.Slices
import Libvalkey.Command.BulkLengths
import Libvalkey.Reader.Resume

/-! # The parser stays in its buffer

What `valkey_parse_cmd` reads lies in the buffer, and so do the slices that it hands on,
but for those in the text of an error: the length of an argument is taken over before it
is known that the argument is there. -/

namespace Libvalkey

open Buffer Checked

/-! ## Reading -/

section Reading

variable {buf : Bytes} {p : Nat}

theorem expectByte_eq {ended : Bool} (atEnd : ended = true ↔ buf.length ≤ p) (byte : UInt8) :
    expectByte buf ended p byte =
      .ok (if (buf.drop p).head? = some byte then some (p + 1) else none) := by
  unfold expectByte
  by_cases inside : p < buf.length
  · have more : ended = false := by
      rw [← Bool.not_eq_true, atEnd]
      omega
    rw [more, read_of_lt inside, List.head?_drop, List.getElem?_eq_getElem inside]
    by_cases same : buf[p] = byte <;> simp [same]
  · have none : ended = true := atEnd.mpr (Nat.le_of_not_lt inside)
    simp [none, List.drop_of_length_le (Nat.le_of_not_lt inside)]

/-- The position of what follows a byte. -/
theorem drop_of_head {byte : UInt8} (head : (buf.drop p).head? = some byte) :
    p < buf.length ∧ buf.drop p = byte :: buf.drop (p + 1) := by
  rw [List.head?_drop] at head
  obtain ⟨inside, rfl⟩ := List.getElem?_eq_some_iff.mp head
  exact ⟨inside, (List.getElem_cons_drop inside).symm⟩

theorem readUint32_eq (value : Nat) (inside : p ≤ buf.length) :
    ∃ n q, readUint32 buf (buf.length - p) value p = .ok (n, q) ∧ p ≤ q ∧ q ≤ buf.length ∧
      parseUint32 value (buf.drop p) = (n, buf.drop q) := by
  generalize rounds : buf.length - p = count
  induction count generalizing p value with
  | zero =>
      have atEnd : buf.drop p = [] := List.drop_of_length_le (by omega)
      exact ⟨value, p, rfl, Nat.le_refl _, inside, by rw [atEnd, parseUint32]⟩
  | succ count induction =>
      have more : p < buf.length := by omega
      have next : buf.drop p = buf[p] :: buf.drop (p + 1) := (List.getElem_cons_drop more).symm
      rw [readUint32, if_neg (not_not.mpr more), read_of_lt more, next, parseUint32]
      simp only [ok_bind]
      split
      · obtain ⟨n, q, result, lower, upper, parsed⟩ :=
          induction ((value * 10 + (buf[p].toNat - 48)) % 2 ^ 32) more (by omega)
        exact ⟨n, q, result, by omega, upper, parsed⟩
      · exact ⟨value, p, rfl, Nat.le_refl _, inside, by rw [next]⟩

theorem skipCRLF_of_no_CR {text : Bytes} (other : text.head? ≠ some CR) : skipCRLF text = none := by
  cases result : skipCRLF text with
  | none => rfl
  | some rest => exact absurd (skipCRLF_eq_some.mp result ▸ rfl) other

theorem skipCRLF_of_no_LF {text : Bytes} (other : text.head? ≠ some LF) :
    skipCRLF (CR :: text) = none := by
  cases result : skipCRLF (CR :: text) with
  | none => rfl
  | some rest => exact absurd ((List.cons.inj (skipCRLF_eq_some.mp result)).2 ▸ rfl) other

theorem expectNewline_eq {ended : Nat → Bool} (test : ended p = true ↔ buf.length ≤ p)
    (later : p + 1 ≤ buf.length → (ended (p + 1) = true ↔ buf.length ≤ p + 1)) :
    ∃ next, expectNewline buf ended p = .ok next ∧
      skipCRLF (buf.drop p) = next.map (fun q => buf.drop q) ∧
      ∀ q ∈ next, q = p + 2 ∧ q ≤ buf.length := by
  rw [expectNewline, expectByte_eq test, ok_bind]
  by_cases startsCR : (buf.drop p).head? = some CR
  · obtain ⟨inside, text⟩ := drop_of_head startsCR
    rw [if_pos startsCR, text]
    dsimp only
    rw [expectByte_eq (later inside)]
    by_cases startsLF : (buf.drop (p + 1)).head? = some LF
    · obtain ⟨insideToo, rest⟩ := drop_of_head startsLF
      refine ⟨some (p + 2), by rw [if_pos startsLF], ?_, ?_⟩
      · rw [rest]
        simp [skipCRLF]
      · intro q member
        obtain rfl := Option.some.inj member
        exact ⟨rfl, insideToo⟩
    · refine ⟨none, by rw [if_neg startsLF], ?_, by simp⟩
      simpa using skipCRLF_of_no_LF startsLF
  · refine ⟨none, by rw [if_neg startsCR]; rfl, ?_, by simp⟩
    simpa using skipCRLF_of_no_CR startsCR

theorem pastEnd_iff : pastEnd buf p = true ↔ buf.length ≤ p := by simp [pastEnd]

theorem expectNewline_pastEnd (buf : Bytes) (p : Nat) :
    ∃ next, expectNewline buf (pastEnd buf) p = .ok next ∧
      skipCRLF (buf.drop p) = next.map (fun q => buf.drop q) ∧
      ∀ q ∈ next, q = p + 2 ∧ q ≤ buf.length :=
  expectNewline_eq pastEnd_iff fun _ => pastEnd_iff

theorem atEnd_iff (inside : p ≤ buf.length) : atEnd buf p = true ↔ buf.length ≤ p := by
  simp only [atEnd, decide_eq_true_eq]
  omega

end Reading

/-! ## Bulk strings -/

/-- What is parsed at a position is what `valkey_parse_bulk` makes of the text there. -/
structure BulkAt (buf : Bytes) (p : Nat) (bulk : BulkSlice) : Prop where
  text : valkey_parse_bulk (buf.drop p) =
    bulk.slice.map fun slice => (slice.contents buf, bulk.next.map fun q => buf.drop q)
  counted : ∀ slice ∈ bulk.slice, ∃ digits, AllDigits digits ∧
    buf.drop p = withCount '$'.toUInt8 digits (buf.drop slice.start) ∧
    slice.len = Decimal.accumulate 0 digits % 2 ^ 32
  start : ∀ slice ∈ bulk.slice, p < slice.start ∧ slice.start ≤ buf.length
  next : ∀ q ∈ bulk.next, ∃ slice, bulk.slice = some slice ∧ q = slice.start + slice.len + 2 ∧
    q ≤ buf.length

theorem BulkAt.inside {buf : Bytes} {p q : Nat} {slice : Slice}
    (at_ : BulkAt buf p ⟨some slice, some q⟩) : slice.Inside buf := by
  obtain ⟨other, same, rfl, upper⟩ := at_.next q rfl
  obtain rfl := Option.some.inj same
  unfold Slice.Inside
  omega

theorem valkey_parse_bulk_at_eq (buf : Bytes) (p : Nat) :
    ∃ bulk, valkey_parse_bulk_at buf p = .ok bulk ∧ BulkAt buf p bulk := by
  unfold valkey_parse_bulk_at
  rw [expectByte_eq pastEnd_iff, ok_bind]
  by_cases marked : (buf.drop p).head? = some '$'.toUInt8
  · obtain ⟨inside, text⟩ := drop_of_head marked
    obtain ⟨n, q, result, lower, upper, parsed⟩ := readUint32_eq 0 (Nat.succ_le_of_lt inside)
    obtain ⟨first, firstResult, firstText, firstBounds⟩ :=
      expectNewline_pastEnd buf q
    rw [if_pos marked]
    simp only [result, ok_bind, firstResult]
    have whole : valkey_parse_bulk (buf.drop p) =
        first.map fun start => ((buf.drop start).take n, skipCRLF ((buf.drop start).drop n)) := by
      rw [text, valkey_parse_bulk, if_neg (fun different => different rfl)]
      simp only [parsed, firstText]
      cases first <;> rfl
    cases first with
    | none => exact ⟨⟨none, none⟩, rfl, ⟨whole, by simp, by simp, by simp⟩⟩
    | some start =>
        obtain ⟨second, secondResult, secondText, secondBounds⟩ :=
          expectNewline_pastEnd buf (start + n)
        obtain ⟨rfl, startInside⟩ := firstBounds start rfl
        refine ⟨⟨some ⟨q + 2, n⟩, second⟩, by simp [secondResult], ?_, ?_, ?_, ?_⟩
        · rw [whole, Option.map_some, Option.map_some, List.drop_drop, secondText]
          rfl
        · intro slice member
          obtain rfl := Option.some.inj member
          obtain ⟨digits, rest, run, all, ends⟩ := exists_run (buf.drop (p + 1))
          rw [run, parseUint32_run (by decide) all ends] at parsed
          obtain ⟨rfl, rfl⟩ := Prod.mk.inj parsed
          refine ⟨digits, all, ?_, rfl⟩
          rw [text, run, withCount, skipCRLF_eq_some.mp firstText]
        · intro slice member
          obtain rfl := Option.some.inj member
          exact ⟨by dsimp only; omega, startInside⟩
        · intro r member
          obtain ⟨same, bound⟩ := secondBounds r member
          exact ⟨⟨q + 2, n⟩, rfl, same, bound⟩
  · have missing : valkey_parse_bulk (buf.drop p) = none := by
      cases text : buf.drop p with
      | nil => rfl
      | cons byte rest =>
          rw [valkey_parse_bulk, if_pos]
          simpa [text] using marked
    exact ⟨⟨none, none⟩, by rw [if_neg marked]; rfl, ⟨missing, by simp, by simp, by simp⟩⟩

/-! ## The first key -/

/-- The key and the position after it, as far as the bulk strings lead to them. -/
theorem parseBulksAt_eq {buf : Bytes} {arg : Slice} (inside : arg.Inside buf) (p count : Nat) :
    ∃ last, parseBulksAt buf arg p count = .ok last ∧
      parseBulks (arg.contents buf) (buf.drop p) count =
        last.map (fun found => (found.1.contents buf, buf.drop found.2)) ∧
      ∀ found ∈ last, found.1.Inside buf := by
  induction count generalizing arg p with
  | zero =>
      refine ⟨some (arg, p), rfl, rfl, ?_⟩
      intro found member
      obtain rfl := Option.some.inj member
      exact inside
  | succ count induction =>
      obtain ⟨bulk, result, bulkAt⟩ := valkey_parse_bulk_at_eq buf p
      rw [parseBulksAt, result, ok_bind, parseBulks, bulkAt.text]
      match bulk, bulkAt with
      | ⟨none, _⟩, _ => exact ⟨none, rfl, rfl, by simp⟩
      | ⟨some slice, none⟩, _ => exact ⟨none, rfl, rfl, by simp⟩
      | ⟨some slice, some q⟩, bulkAt => exact induction bulkAt.inside q

theorem keyAfterKeywordAt_eq (buf keyword : Bytes) (startfrom argidx p count : Nat) :
    ∃ key, keyAfterKeywordAt buf keyword startfrom argidx p count = .ok key ∧
      keyAfterKeyword keyword startfrom argidx (buf.drop p) count =
        key.map (fun slice => slice.contents buf) ∧
      ∀ slice ∈ key, slice.Inside buf := by
  induction count generalizing argidx p with
  | zero => exact ⟨none, rfl, rfl, by simp⟩
  | succ count induction =>
      obtain ⟨bulk, result, bulkAt⟩ := valkey_parse_bulk_at_eq buf p
      rw [keyAfterKeywordAt, result, ok_bind, keyAfterKeyword, bulkAt.text]
      match bulk, bulkAt with
      | ⟨none, _⟩, _ => exact ⟨none, rfl, rfl, by simp⟩
      | ⟨some slice, none⟩, _ => exact ⟨none, rfl, rfl, by simp⟩
      | ⟨some slice, some q⟩, bulkAt =>
          have inside := bulkAt.inside
          simp only [Option.map_some]
          split
          · exact induction (argidx + 1) q
          · rw [readSlice_of_inside inside, ok_bind]
            split
            · obtain ⟨last, lastResult, lastText, lastInside⟩ := parseBulksAt_eq inside q 1
              refine ⟨last.map (·.1), by rw [lastResult]; rfl, ?_, ?_⟩
              · rw [lastText, Option.map_map, Option.map_map]
                rfl
              · intro found member
                obtain ⟨pair, known, rfl⟩ := Option.map_eq_some_iff.mp member
                exact lastInside pair known
            · exact induction (argidx + 1) q

theorem findKeyAt_eq (buf : Bytes) (info : CmdDef) (rnarg : Nat) {arg1 : Slice}
    (inside : arg1.Inside buf) (p : Nat) :
    ∃ key, findKeyAt buf info rnarg arg1 p = .ok key ∧
      findKey info rnarg (arg1.contents buf) (buf.drop p) =
        key.map (fun slice => slice.map (fun slice => slice.contents buf)) ∧
      ∀ slice, key = some (some slice) → slice.Inside buf := by
  have keyword (startfrom : Nat) (count : Nat) :
      ∃ key,
        (do return (← keyAfterKeywordAt buf (ascii "STREAMS") startfrom 1 p count).map some) =
          Except.ok key ∧
        (keyAfterKeyword (ascii "STREAMS") startfrom 1 (buf.drop p) count).map some =
          key.map (fun slice => slice.map (fun slice => slice.contents buf)) ∧
        ∀ slice, key = some (some slice) → slice.Inside buf := by
    obtain ⟨found, result, text, foundInside⟩ :=
      keyAfterKeywordAt_eq buf (ascii "STREAMS") startfrom 1 p count
    refine ⟨found.map some, by simp [result], ?_, fun slice known => ?_⟩
    · rw [text, Option.map_map, Option.map_map]
      rfl
    · exact foundInside slice (by simpa using known)
  unfold findKeyAt findKey
  cases info.firstkeymethod with
  | none => exact ⟨some none, rfl, rfl, by simp⟩
  | unknown =>
      dsimp only
      cases info.type with
      | xread => exact keyword 1 _
      | xreadgroup => exact keyword 4 _
      | migrate => exact ⟨none, rfl, rfl, by simp⟩
      | other => exact ⟨none, rfl, rfl, by simp⟩
  | index =>
      obtain ⟨last, result, text, lastInside⟩ := parseBulksAt_eq inside p (info.firstkeypos - 1)
      simp only [result, ok_bind, text]
      cases last with
      | none => exact ⟨none, rfl, rfl, by simp⟩
      | some found =>
          have foundInside := lastInside found rfl
          simp only [Option.map_some, Slice.length_contents foundInside]
          split
          · exact ⟨none, rfl, rfl, by simp⟩
          · refine ⟨some (some found.1), rfl, rfl, fun slice known => ?_⟩
            obtain rfl := Option.some.inj (Option.some.inj known)
            exact foundInside
  | keynum =>
      obtain ⟨last, result, text, lastInside⟩ := parseBulksAt_eq inside p (info.firstkeypos - 1)
      simp only [result, ok_bind, text]
      cases last with
      | none => exact ⟨none, rfl, rfl, by simp⟩
      | some found =>
          have foundInside := lastInside found rfl
          simp only [Option.map_some, readSlice_of_inside foundInside, ok_bind]
          split
          · exact ⟨some none, rfl, rfl, by simp⟩
          · obtain ⟨next, nextResult, nextText, nextInside⟩ :=
              parseBulksAt_eq foundInside found.2 1
            refine ⟨next.map fun key => some key.1, by simp [nextResult], ?_, fun slice known => ?_⟩
            · rw [nextText, Option.map_map, Option.map_map]
              rfl
            · obtain ⟨pair, member, same⟩ := Option.map_eq_some_iff.mp known
              obtain rfl := Option.some.inj same
              exact nextInside pair member

/-! ## The parser -/

/-- A result tells what `valkey_parse_cmd` does. -/
def CmdSliceResult.Agrees (buf : Bytes) (result : CmdSliceResult)
    (parsed : CmdParseResult) : Prop :=
  match result with
  | .ok key => parsed = .ok (key.map fun slice => slice.contents buf)
  | .error | .enomem => ∃ errstr, parsed = .error errstr

/-- What has been looked up and found lies in the buffer. -/
structure CmdSlices.Sound (buf : Bytes) (parsed : CmdParseResult) (run : CmdSlices) : Prop where
  agrees : run.result.Agrees buf parsed
  looked : ∀ slice ∈ run.looked, slice.Inside buf
  key : ∀ slice, run.result = .ok (some slice) → slice.Inside buf

theorem sound_error {buf : Bytes} {looked : List Slice}
    (inside : ∀ slice ∈ looked, slice.Inside buf) (allocated : Bool) (counted : Option Int)
    (message : List Slice) (errstr : Bytes) :
    (CmdSlices.error allocated looked counted message).Sound buf (.error errstr) := by
  unfold CmdSlices.error
  cases allocated with
  | false => exact ⟨⟨errstr, rfl⟩, inside, by simp⟩
  | true => exact ⟨⟨errstr, rfl⟩, inside, by simp⟩

theorem message_error (allocated : Bool) (looked message : List Slice) (counted : Option Int) :
    (CmdSlices.error allocated looked counted message).message =
      if allocated then message.map (·.formatted) else [] := by
  cases allocated <;> rfl

@[simp] theorem counted_error (allocated : Bool) (looked message : List Slice)
    (counted : Option Int) :
    (CmdSlices.error allocated looked counted message).counted = counted := by
  cases allocated <;> rfl

theorem parseArgumentsAt_eq (allocated : Bool) {buf : Bytes} (rnarg : Nat) {arg0 : Slice}
    {arg1 : Option Slice} (inside : arg0.Inside buf) (insideToo : ∀ slice ∈ arg1, slice.Inside buf)
    (p : Nat) :
    ∃ run, parseArgumentsAt allocated buf rnarg arg0 arg1 p = .ok run ∧
      run.Sound buf (parseArguments rnarg (arg0.contents buf)
        (arg1.map fun slice => slice.contents buf) (buf.drop p)) ∧
      run.message =
        (if allocated ∧ valkey_lookup_cmd (arg0.contents buf)
            (arg1.map fun slice => slice.contents buf) = none
          then (arg0 :: arg1.toList).map (·.formatted) else []) ∧
      run.counted =
        (valkey_lookup_cmd (arg0.contents buf) (arg1.map fun slice => slice.contents buf)).map
          fun _ => toInt32 rnarg := by
  have lookedInside : ∀ slice ∈ arg0 :: arg1.toList, slice.Inside buf := by
    simpa using ⟨inside, insideToo⟩
  have subname : arg1.mapM (readSlice buf) = .ok (arg1.map fun slice => slice.contents buf) := by
    cases arg1 with
    | none => rfl
    | some slice => simp [readSlice_of_inside (insideToo slice rfl)]
  unfold parseArgumentsAt parseArguments
  simp only [readSlice_of_inside inside, subname, ok_bind]
  cases valkey_lookup_cmd (arg0.contents buf) (arg1.map fun slice => slice.contents buf) with
  | none =>
      refine ⟨_, rfl, sound_error lookedInside _ _ _ _, ?_, ?_⟩
      · simp [message_error]
      · simp
  | some info =>
      have failed (errstr : Bytes) :
          let run := CmdSlices.error allocated (arg0 :: arg1.toList) (some (toInt32 rnarg)) []
          run.Sound buf (.error errstr) ∧ run.message = [] ∧
            run.counted = some (toInt32 rnarg) := by
        refine ⟨sound_error lookedInside _ _ _ _, ?_, ?_⟩
        · simp [message_error]
        · simp
      have ended (key : Option Slice) (keyInside : ∀ slice, key = some slice → slice.Inside buf) :
          (CmdSlices.mk (.ok key) (arg0 :: arg1.toList) (some (toInt32 rnarg)) []).Sound buf
            (.ok (key.map fun slice => slice.contents buf)) :=
        ⟨rfl, lookedInside, fun slice same => keyInside slice (by simpa using same)⟩
      simp only [reduceCtorEq, and_false, if_false, Option.map_some]
      split
      · exact ⟨_, rfl, failed _⟩
      · split
        · exact ⟨_, rfl, ended none (by simp), rfl, rfl⟩
        · cases arg1 with
          | none => exact ⟨_, rfl, failed _⟩
          | some slice =>
              obtain ⟨key, result, text, keyInside⟩ :=
                findKeyAt_eq buf info rnarg (insideToo slice rfl) p
              simp only [result, ok_bind, Option.map_some, text]
              cases key with
              | none => exact ⟨_, rfl, failed _⟩
              | some key =>
                  exact ⟨_, rfl, ended key fun slice same => keyInside slice (by rw [same]), rfl,
                    rfl⟩

theorem parseHeaderAt_eq {buf : Bytes} (notEmpty : buf ≠ []) :
    ∃ header, parseHeaderAt buf = .ok header ∧
      parseHeader buf = header.map (fun found => (found.1, buf.drop found.2)) ∧
      ∀ found ∈ header, found.2 ≤ buf.length := by
  obtain ⟨byte, rest, rfl⟩ := List.exists_cons_of_ne_nil notEmpty
  unfold parseHeaderAt
  have first : read (byte :: rest) 0 = .ok byte := read_head rfl
  rw [first, ok_bind, parseHeader]
  by_cases marked : byte = '*'.toUInt8
  · obtain ⟨n, q, result, lower, upper, parsed⟩ :=
      readUint32_eq 0 (show 1 ≤ (byte :: rest).length by simp)
    obtain ⟨next, nextResult, nextText, nextBounds⟩ :=
      expectNewline_eq (atEnd_iff upper) fun inside => atEnd_iff inside
    rw [List.drop_succ_cons, List.drop_zero] at parsed
    rw [if_neg (not_not.mpr marked), if_neg (not_not.mpr marked)]
    simp only [result, ok_bind, nextResult, parsed, nextText]
    cases next with
    | none => exact ⟨none, rfl, rfl, by simp⟩
    | some start =>
        by_cases zero : n = 0
        · exact ⟨none, by simp [zero], by simp [zero], by simp⟩
        · exact ⟨some (n, start), by simp [zero], by simp [zero], by simpa using (nextBounds start rfl).2⟩
  · rw [if_pos marked, if_pos marked]
    exact ⟨none, rfl, rfl, by simp⟩

/-! ## Overrun -/

/-- The length in front of an argument is more than what follows, or more than an `int`. -/
def TooLong (text : Bytes) : Prop :=
  ∃ digits payload, AllDigits digits ∧ text = withCount '$'.toUInt8 digits payload ∧
    (payload.length < Decimal.accumulate 0 digits % 2 ^ 32 ∨
      2 ^ 31 ≤ Decimal.accumulate 0 digits % 2 ^ 32)

/-- The length of one of the first two arguments is too long, and no command is found. -/
def ErrorOverruns (cmd : Bytes) : Prop :=
  ∃ rnarg p, parseHeader cmd = some (rnarg, p) ∧
    (TooLong p ∨
      ∃ arg0 rest, valkey_parse_bulk p = some (arg0, some rest) ∧ rnarg > 1 ∧ TooLong rest ∧
        ∀ arg1 q, valkey_parse_bulk rest = some (arg1, some q) →
          valkey_lookup_cmd arg0 (some arg1) = none)

theorem formatted_inside_iff {slice : Slice} (small : slice.len < 2 ^ 32) (buf : Bytes) :
    slice.formatted.Inside buf ↔ slice.len < 2 ^ 31 ∧ slice.Inside buf := by
  unfold Formatted.Inside Slice.formatted Slice.Inside
  by_cases positive : slice.len < 2 ^ 31
  · rw [toInt32_of_small positive]
    dsimp only
    omega
  · have negative : toInt32 slice.len = slice.len - 2 ^ 32 := by
      have same : (slice.len : Int) % (2 ^ 32 : Nat) = slice.len :=
        Int.emod_eq_of_lt (by omega) (by omega)
      rw [toInt32, Int.bmod_neg _ _ (by omega), same]
      rfl
    rw [negative]
    dsimp only
    omega

/-- A length that is taken over is too long exactly if the slice is not inside. -/
theorem BulkAt.formatted_iff {buf : Bytes} {p : Nat} {bulk : BulkSlice}
    (bulkAt : BulkAt buf p bulk) :
    (∀ slice ∈ bulk.slice, slice.formatted.Inside buf) ↔ ¬TooLong (buf.drop p) := by
  cases known : bulk.slice with
  | none =>
      refine iff_of_true (by simp) ?_
      rintro ⟨digits, payload, all, text, _⟩
      have parsed := bulkAt.text
      rw [text, valkey_parse_bulk_withCount all, known] at parsed
      cases parsed
  | some slice =>
      obtain ⟨digits, all, text, len⟩ := bulkAt.counted slice known
      obtain ⟨_, startInside⟩ := bulkAt.start slice known
      have small : slice.len < 2 ^ 32 := len ▸ Nat.mod_lt _ (by decide)
      have rest : (buf.drop slice.start).length = buf.length - slice.start := List.length_drop
      have tooLong : TooLong (buf.drop p) ↔
          (buf.drop slice.start).length < slice.len ∨ 2 ^ 31 ≤ slice.len := by
        constructor
        · rintro ⟨others, payload, allOthers, same, long⟩
          obtain ⟨rfl, rfl⟩ := withCount_inj all allOthers (text.symm.trans same)
          rwa [← len] at long
        · intro long
          exact ⟨digits, _, all, text, len ▸ long⟩
      have only : (∀ other ∈ some slice, other.formatted.Inside buf) ↔
          slice.formatted.Inside buf := by
        simp
      rw [only, formatted_inside_iff small, tooLong, rest]
      unfold Slice.Inside
      omega

/-- Nothing is read out of bounds, and every slice that is handed on is in the buffer. -/
def StaysInside (allocated : Bool) (buf : Bytes) : Prop :=
  ∃ run, valkey_parse_cmd_at allocated buf = .ok run ∧
    (∀ slice ∈ run.looked, slice.Inside buf) ∧
    (∀ key, run.result = .ok (some key) → key.Inside buf) ∧
    ∀ argument ∈ run.message, argument.Inside buf

theorem forall_message {allocated : Bool} {looked message : List Slice} {counted : Option Int}
    {buf : Bytes} :
    (∀ argument ∈ (CmdSlices.error allocated looked counted message).message, argument.Inside buf) ↔
      (allocated → ∀ slice ∈ message, slice.formatted.Inside buf) := by
  rw [message_error]
  cases allocated <;> simp

/-- The number of arguments in the check of the arity, if a command is found. -/
def checkedCount (cmd : Bytes) : Option Int :=
  match parseHeader cmd with
  | none => none
  | some (rnarg, p) =>
      match valkey_parse_bulk p with
      | some (arg0, some p) =>
          if rnarg > 1 then
            match valkey_parse_bulk p with
            | some (arg1, some _) => (valkey_lookup_cmd arg0 (some arg1)).map fun _ => toInt32 rnarg
            | _ => none
          else (valkey_lookup_cmd arg0 none).map fun _ => toInt32 rnarg
      | _ => none

/-- The name of a command that is found is short, and so is the slice. -/
theorem formatted_of_found {buf : Bytes} {arg0 : Slice} (inside : arg0.Inside buf)
    {arg1 : Option Bytes} {info : CmdDef}
    (found : valkey_lookup_cmd (arg0.contents buf) arg1 = some info) :
    arg0.formatted.Inside buf := by
  have short : arg0.len ≤ maxCommandLen := by
    by_contra long
    rw [← Slice.length_contents inside] at long
    rw [valkey_lookup_cmd, if_pos (Nat.lt_of_not_le long)] at found
    cases found
  have bound : maxCommandLen = 64 := rfl
  exact (formatted_inside_iff (by omega) buf).mpr ⟨by omega, inside⟩

/-- The arguments are formatted where no command is found. -/
theorem forall_arguments {allocated : Bool} {buf : Bytes} {arg0 : Slice} (inside : arg0.Inside buf)
    {arg1 : Option Slice} {found : Option CmdDef}
    (lookup : valkey_lookup_cmd (arg0.contents buf) (arg1.map fun slice => slice.contents buf) =
      found) :
    (∀ argument ∈ (if allocated ∧ found = none then (arg0 :: arg1.toList).map
      (·.formatted) else []),
        argument.Inside buf) ↔
      (allocated → arg0.formatted.Inside buf ∧
        (found = none → ∀ slice ∈ arg1, slice.formatted.Inside buf)) := by
  cases found with
  | none => cases allocated <;> simp
  | some info => simp [formatted_of_found inside lookup]

section Parsing

variable {buf : Bytes} {rnarg p : Nat} (header : parseHeader buf = some (rnarg, buf.drop p))

include header

/-- Where the length of the first argument is the only one, it decides. -/
theorem overruns_of_first (only : ∀ arg0 rest,
      valkey_parse_bulk (buf.drop p) = some (arg0, some rest) → ¬rnarg > 1) :
    ErrorOverruns buf ↔ TooLong (buf.drop p) := by
  constructor
  · rintro ⟨n, text, parsed, long⟩
    obtain ⟨rfl, rfl⟩ := Prod.mk.inj (Option.some.inj (header.symm.trans parsed))
    rcases long with long | ⟨arg0, rest, complete, more, _⟩
    · exact long
    · exact absurd more (only arg0 rest complete)
  · exact fun long => ⟨rnarg, _, header, .inl long⟩

theorem overruns_of_second {arg0 rest : Bytes} (more : rnarg > 1)
    (complete : valkey_parse_bulk (buf.drop p) = some (arg0, some rest)) :
    ErrorOverruns buf ↔ TooLong (buf.drop p) ∨ TooLong rest ∧
      ∀ arg1 q, valkey_parse_bulk rest = some (arg1, some q) →
        valkey_lookup_cmd arg0 (some arg1) = none := by
  constructor
  · rintro ⟨n, text, parsed, long⟩
    obtain ⟨rfl, rfl⟩ := Prod.mk.inj (Option.some.inj (header.symm.trans parsed))
    rcases long with long | ⟨name, others, again, _, long⟩
    · exact .inl long
    · rw [complete] at again
      cases again
      exact .inr long
  · rintro (long | long)
    · exact ⟨rnarg, _, header, .inl long⟩
    · exact ⟨rnarg, _, header, .inr ⟨arg0, rest, complete, more, long⟩⟩

end Parsing

/-- Everything but the text of an error is in order on every buffer, and the text is so
exactly where no length overruns. -/
theorem valkey_parse_cmd_at_eq (allocated : Bool) {buf : Bytes} (notEmpty : buf ≠ []) :
    ∃ run, valkey_parse_cmd_at allocated buf = .ok run ∧ run.Sound buf (valkey_parse_cmd buf) ∧
      run.counted = checkedCount buf ∧
      ((∀ argument ∈ run.message, argument.Inside buf) ↔ (allocated → ¬ErrorOverruns buf)) := by
  obtain ⟨header, headerResult, headerText, _⟩ := parseHeaderAt_eq notEmpty
  have noSlices : ∀ slice ∈ ([] : List Slice), slice.Inside buf := by simp
  unfold valkey_parse_cmd_at valkey_parse_cmd checkedCount
  rw [headerResult, ok_bind, headerText]
  match header, headerText with
  | none, headerText =>
      refine ⟨_, rfl, sound_error noSlices _ _ _ _, counted_error _ _ _ _, ?_⟩
      have unparsed : ¬ErrorOverruns buf := by
        rintro ⟨rnarg, p, parsed, _⟩
        simp [headerText] at parsed
      simp [forall_message, unparsed]
  | some (rnarg, p), headerText =>
      obtain ⟨first, firstResult, firstAt⟩ := valkey_parse_bulk_at_eq buf p
      have firstText := firstAt.text
      have firstFormatted := firstAt.formatted_iff
      simp only [Option.map_some, firstResult, ok_bind, firstText]
      match first, firstAt, firstText, firstFormatted with
      | ⟨none, _⟩, _, firstText, firstFormatted =>
          refine ⟨_, rfl, sound_error noSlices _ _ _ _, counted_error _ _ _ _, ?_⟩
          rw [forall_message, overruns_of_first headerText (by simp [firstText]), ← firstFormatted]
          simp
      | ⟨some arg0, none⟩, _, firstText, firstFormatted =>
          refine ⟨_, rfl, sound_error noSlices _ _ _ _, counted_error _ _ _ _, ?_⟩
          rw [forall_message, overruns_of_first headerText (by simp [firstText]), ← firstFormatted]
          simp
      | ⟨some arg0, some q⟩, firstAt, firstText, firstFormatted =>
          have inside := firstAt.inside
          have firstInside : arg0.formatted.Inside buf ↔ ¬TooLong (buf.drop p) := by
            rw [← firstFormatted]
            simp
          simp only [Option.map_some]
          by_cases more : rnarg > 1
          · simp only [if_pos more]
            obtain ⟨second, secondResult, secondAt⟩ := valkey_parse_bulk_at_eq buf q
            have overruns := overruns_of_second headerText more firstText
            have secondText := secondAt.text
            have secondFormatted := secondAt.formatted_iff
            simp only [secondResult, ok_bind, secondText]
            match second, secondAt, secondText, secondFormatted with
            | ⟨none, _⟩, _, secondText, secondFormatted =>
                refine ⟨_, rfl, sound_error noSlices _ _ _ _, counted_error _ _ _ _, ?_⟩
                rw [forall_message, overruns, not_or, ← firstInside]
                simp [secondText, ← secondFormatted]
            | ⟨some arg1, none⟩, _, secondText, secondFormatted =>
                refine ⟨_, rfl, sound_error noSlices _ _ _ _, counted_error _ _ _ _, ?_⟩
                rw [forall_message, overruns, not_or, ← firstInside]
                simp [secondText, ← secondFormatted]
            | ⟨some arg1, some r⟩, secondAt, secondText, secondFormatted =>
                have insideToo : ∀ slice ∈ some arg1, slice.Inside buf := by
                  simpa using secondAt.inside
                obtain ⟨run, result, sound, message, counted⟩ :=
                  parseArgumentsAt_eq allocated rnarg inside insideToo r
                refine ⟨run, result, sound, counted, ?_⟩
                have lookup : (∀ name r, valkey_parse_bulk (buf.drop q) = some (name, some r) →
                      valkey_lookup_cmd (arg0.contents buf) (some name) = none) ↔
                    valkey_lookup_cmd (arg0.contents buf) (some (arg1.contents buf)) = none := by
                  simp [secondText]
                rw [message, forall_arguments inside rfl, overruns, lookup, not_or, not_and',
                  ← firstInside, secondFormatted]
                rfl
          · simp only [if_neg more]
            have noSecond : ∀ slice ∈ (none : Option Slice), slice.Inside buf := by simp
            obtain ⟨run, result, sound, message, counted⟩ :=
              parseArgumentsAt_eq allocated rnarg inside noSecond q
            refine ⟨run, result, sound, counted, ?_⟩
            rw [message, forall_arguments inside rfl,
              overruns_of_first headerText fun _ _ _ => more, ← firstInside]
            simp

/-- Whatever the bytes of a buffer, the parser reads nothing outside of it. The slices that
it hands on are inside exactly if there is no memory for the text of an error or no length
overruns. -/
theorem valkey_parse_cmd_stays_inside (allocated : Bool) {buf : Bytes} (notEmpty : buf ≠ []) :
    StaysInside allocated buf ↔ (allocated → ¬ErrorOverruns buf) := by
  obtain ⟨run, result, sound, _, message⟩ := valkey_parse_cmd_at_eq allocated notEmpty
  rw [← message]
  constructor
  · rintro ⟨other, same, _, _, inside⟩
    rw [result] at same
    cases same
    exact inside
  · exact fun inside => ⟨run, result, sound.looked, sound.key, inside⟩

/-- The first argument should be nine bytes long, and the buffer ends after three. -/
def cutGet : Bytes := ascii "*1\r\n$9\r\nGET"

theorem tooLong_cutGet : TooLong (ascii "$9\r\nGET") :=
  ⟨ascii "9", ascii "GET", by decide, by decide, by decide⟩

theorem valkey_parse_cmd_stays_inside_cut :
    ¬StaysInside true cutGet ∧ StaysInside false cutGet := by
  have notEmpty : cutGet ≠ [] := by decide
  have header : parseHeader cutGet = some (1, ascii "$9\r\nGET") := by decide
  have overruns : ErrorOverruns cutGet := ⟨1, _, header, .inl tooLong_cutGet⟩
  constructor
  · rw [valkey_parse_cmd_stays_inside true notEmpty]
    simp [overruns]
  · rw [valkey_parse_cmd_stays_inside false notEmpty]
    simp

/-- The slice of the first argument reaches past the end of the buffer. -/
theorem error_text_overruns : ¬StaysInside true cutGet := by
  have run : valkey_parse_cmd_at true cutGet = .ok ⟨.error, [], none, [⟨8, 9⟩]⟩ := by
    decide +kernel
  rintro ⟨other, same, _, _, inside⟩
  rw [run] at same
  cases same
  exact absurd (inside ⟨8, 9⟩ (List.mem_singleton_self _)).2 (by decide)

end Libvalkey
