import Libvalkey.Format.Layout

/-! # Conversions that are rendered

Every format that is accepted has a layout. A conversion that fits the buffer of the
function is rendered in its place. A longer one takes its argument, and what follows its
second byte is copied. -/

namespace Libvalkey.Format

/-! ## Reading a layout -/

theorem directiveAt_length (byte : UInt8) (c : Bytes) : (directiveAt byte c).2.length ≤
    c.length := by
  cases c with
  | nil => simp [directiveAt]
  | cons next rest =>
      simp only [directiveAt]
      split_ifs
      · exact Nat.le_refl _
      · exact Nat.le_refl _
      · exact Nat.le_succ _
      · exact Nat.le_succ _
      · exact Nat.le_succ _
      · split
        · simp
        · rename_i type after detected
          obtain ⟨conversion, text, _⟩ := exists_conversion detected
          have shorter := congrArg List.length text
          rw [List.length_append] at shorter
          split_ifs
          · dsimp only
            omega
          · exact Nat.le_succ _

theorem directivesFrom_enough {left right : Nat} {text : Bytes} (enough : text.length ≤ left)
    (enoughToo : text.length ≤ right) : directivesFrom left text = directivesFrom right text := by
  induction left generalizing right text with
  | zero =>
      obtain rfl := List.length_eq_zero_iff.mp (Nat.le_zero.mp enough)
      cases right <;> rfl
  | succ left induction =>
      cases text with
      | nil => cases right <;> rfl
      | cons byte c =>
          cases right with
          | zero => simp at enoughToo
          | succ right =>
              have shorter := directiveAt_length byte c
              rw [List.length_cons] at enough enoughToo
              have same : directivesFrom left (directiveAt byte c).2 =
                  directivesFrom right (directiveAt byte c).2 := induction (by omega) (by omega)
              rw [directivesFrom, directivesFrom]
              dsimp only
              rw [same]

theorem directives_cons (byte : UInt8) (c : Bytes) :
    directives (byte :: c) = (directiveAt byte c).1 :: directives (directiveAt byte c).2 := by
  rw [directives, List.length_cons, directivesFrom]
  dsimp only
  rw [directives, directivesFrom_enough (directiveAt_length byte c) (Nat.le_refl _)]

theorem directives_plain {text : Bytes} (plain : ∀ byte ∈ text, byte ≠ '%'.toUInt8) (rest : Bytes) :
    directives (text ++ rest) = text.map plainDirective ++ directives rest := by
  induction text with
  | nil => rfl
  | cons byte text induction =>
      rw [List.cons_append, directives_cons, directiveAt_plain (plain byte List.mem_cons_self),
        induction fun other member => plain other (List.mem_cons_of_mem _ member)]
      rfl

namespace Conversion

variable (conversion : Conversion)

/-- The specification fits the buffer of the function. -/
def Short : Prop := conversion.spelling.length < formatRoom

instance : Decidable conversion.Short := inferInstanceAs (Decidable (_ < _))

theorem modifier_letters (modifier : Modifier) :
    modifier.spelling ⊆ ascii "hljztL" := by
  cases modifier <;> decide +kernel

theorem body_plain : ∀ byte ∈ conversion.body,
    byte ≠ '%'.toUInt8 ∧ byte ≠ 's'.toUInt8 ∧ byte ≠ 'b'.toUInt8 := by
  have flag : ∀ byte ∈ Format.flags ++ ascii ".", byte ≠ '%'.toUInt8 ∧ byte ≠ 's'.toUInt8 ∧
      byte ≠ 'b'.toUInt8 := by decide +kernel
  have digit (byte : UInt8) (isDigit : Decimal.isDigit byte = true) : byte ≠ '%'.toUInt8 ∧
      byte ≠ 's'.toUInt8 ∧ byte ≠ 'b'.toUInt8 := by
    refine ⟨?_, ?_, ?_⟩ <;> rintro rfl <;> exact absurd isDigit (by decide)
  have letter (byte : UInt8) (member : byte ∈ intfmts ++ doublefmts ++ ascii "hljztL") :
      byte ≠ '%'.toUInt8 ∧ byte ≠ 's'.toUInt8 ∧ byte ≠ 'b'.toUInt8 := by
    have apart := letters_apart byte member
    exact ⟨apart.2.2.2.2.2, apart.2.2.2.1, apart.2.2.2.2.1⟩
  intro byte member
  simp only [body, ending, List.mem_append, List.mem_singleton] at member
  rcases member with member | member | member | member | rfl
  · exact flag byte (List.mem_append_left _ (conversion.allFlags byte member))
  · exact digit byte (conversion.widthDigits byte member)
  · unfold precisionSpelling at member
    split at member
    · cases member
    · rename_i digits known
      rcases List.mem_cons.mp member with rfl | member
      · exact flag _ (by decide)
      · exact digit byte (conversion.precisionDigits digits known byte member)
  · exact letter byte (List.mem_append_right _ (modifier_letters conversion.modifier member))
  · exact letter _ (List.mem_append_left _ (List.mem_append.mpr conversion.number))

theorem body_ne_nil : conversion.body ≠ [] := by simp [body, ending]

/-- Where a conversion stands it is found, if the function knows it. -/
theorem directiveAt_eq (rest : Bytes) :
    directiveAt '%'.toUInt8 (conversion.body ++ rest) =
      match conversion.argType with
      | none => (.invalid, [])
      | some type =>
          (.printf type conversion.spelling,
            if conversion.Short then rest else conversion.body.tail ++ rest) := by
  have detected := conversion.detectPrintf_eq rest
  obtain ⟨next, others, known⟩ := List.exists_cons_of_ne_nil conversion.body_ne_nil
  have plain := conversion.body_plain next (known ▸ List.mem_cons_self)
  have spelled : ('%'.toUInt8 :: (next :: others ++ rest)).take
      ((next :: others ++ rest).length + 1 - rest.length) = conversion.spelling := by
    have length : (next :: others ++ rest).length + 1 - rest.length =
        ('%'.toUInt8 :: next :: others).length := by
      simp only [List.length_append, List.length_cons]
      omega
    rw [length, ← List.cons_append, List.take_left, spelling, known]
  rw [known] at detected ⊢
  rw [List.cons_append] at detected spelled ⊢
  rw [directiveAt, if_neg (by simp), if_neg plain.2.1, if_neg plain.2.2, if_neg plain.1, detected]
  cases conversion.argType with
  | none => rfl
  | some type =>
      simp only [Option.map_some, spelled, List.tail_cons]
      rfl

end Conversion

/-! ## Accepted formats -/

/-- The directive of a part that is read as it is written. -/
def Piece.directive : Piece → Directive
  | .plain byte _ => plainDirective byte
  | .string => .string
  | .binary => .binary
  | .percent => .percent
  | .number conversion =>
      match conversion.argType with
      | none => .invalid
      | some type => .printf type conversion.spelling

/-- A part that the function reads as it is written. -/
def Piece.Short : Piece → Prop
  | .number conversion => conversion.Short
  | _ => True

theorem directives_piece (piece : Piece) (short : piece.Short) (known : piece.directive ≠ .invalid)
    (rest : Bytes) : directives (piece.spelling ++ rest) = piece.directive :: directives rest := by
  cases piece with
  | plain byte other =>
      rw [Piece.spelling, List.singleton_append, directives_cons, directiveAt_plain other]
      rfl
  | string => exact directives_cons '%'.toUInt8 ('s'.toUInt8 :: rest)
  | binary => exact directives_cons '%'.toUInt8 ('b'.toUInt8 :: rest)
  | percent => exact directives_cons '%'.toUInt8 ('%'.toUInt8 :: rest)
  | number conversion =>
      have fits : conversion.Short := short
      rw [Piece.spelling, Conversion.spelling, List.cons_append, directives_cons,
        conversion.directiveAt_eq]
      rw [Piece.directive] at known ⊢
      cases type : conversion.argType with
      | none => simp [type] at known
      | some type => simp only [if_pos fits]

/-- The bytes of a specification that does not fit are copied, but for the first two. -/
theorem directives_long {conversion : Conversion} {type : ArgType} (long : ¬conversion.Short)
    (known : conversion.argType = some type) (rest : Bytes) :
    directives (conversion.spelling ++ rest) = .printf type conversion.spelling ::
      (conversion.body.tail.map plainDirective ++ directives rest) := by
  have plain (byte : UInt8) (member : byte ∈ conversion.body.tail) :=
    (conversion.body_plain byte (List.mem_of_mem_tail member)).1
  rw [Conversion.spelling, List.cons_append, directives_cons, conversion.directiveAt_eq, known]
  simp only [if_neg long]
  rw [directives_plain plain]
  rfl

theorem not_invalid_of_events {printf : Printf} {list : List Directive} {args rest : List VaArg}
    {events : List Event} (ran : eventsOf printf list args = some (events, rest)) :
    .invalid ∉ list := by
  induction list generalizing args events with
  | nil => simp
  | cons directive list induction =>
      obtain ⟨own, middle, more, first, others, _⟩ := eventsOf_cons ran
      have later := induction others
      intro member
      rcases List.mem_cons.mp member with rfl | member
      · cases first
      · exact later member

/-- A text without an invalid directive has a layout. -/
theorem exists_layout {text : Bytes} (valid : .invalid ∉ directives text) :
    ∃ layout : Layout, layout.spelling = text := by
  induction length : text.length using Nat.strong_induction_on generalizing text with
  | h n induction =>
      have extend (piece : Piece) {rest : Bytes} (split : text = piece.spelling ++ rest)
          (shorter : rest.length < text.length) (valid : .invalid ∉ directives rest) :
          ∃ layout : Layout, layout.spelling = text := by
        obtain ⟨layout, spelled⟩ := induction rest.length (length ▸ shorter) valid rfl
        refine ⟨⟨piece :: layout.pieces, layout.trailing⟩, ?_⟩
        rw [split, ← spelled]
        simp [Layout.spelling]
      cases text with
      | nil => exact ⟨⟨[], false⟩, rfl⟩
      | cons byte c =>
          by_cases percent : byte = '%'.toUInt8
          · subst percent
            cases c with
            | nil => exact ⟨⟨[], true⟩, rfl⟩
            | cons next rest =>
                have known (piece : Piece) (spelled : piece.spelling = ['%'.toUInt8, next])
                    (short : piece.Short) (valid' : piece.directive ≠ .invalid) :
                    ∃ layout : Layout, layout.spelling = '%'.toUInt8 :: next :: rest := by
                  have split : '%'.toUInt8 :: next :: rest = piece.spelling ++ rest := by
                    rw [spelled]; rfl
                  refine extend piece split (by simp only [List.length_cons]; omega)
                    fun member => valid ?_
                  rw [split, directives_piece piece short valid']
                  exact List.mem_cons_of_mem _ member
                by_cases string : next = 's'.toUInt8
                · exact known .string (by rw [string]; rfl) trivial (by simp [Piece.directive])
                by_cases binary : next = 'b'.toUInt8
                · exact known .binary (by rw [binary]; rfl) trivial (by simp [Piece.directive])
                by_cases percent : next = '%'.toUInt8
                · exact known .percent (by rw [percent]; rfl) trivial (by simp [Piece.directive])
                cases detected : detectPrintf (next :: rest) with
                | none =>
                    refine absurd ?_ valid
                    rw [directives_cons, directiveAt, if_neg (by simp), if_neg string,
                      if_neg binary,
                      if_neg percent, detected]
                    exact List.mem_cons_self
                | some found =>
                    obtain ⟨conversion, body, type⟩ := exists_conversion detected
                    have split : '%'.toUInt8 :: next :: rest =
                        (Piece.number conversion).spelling ++ found.2 := by
                      rw [body]
                      rfl
                    have shorter : found.2.length < ('%'.toUInt8 :: next :: rest).length := by
                      have lengths := congrArg List.length body
                      rw [List.length_append] at lengths
                      rw [List.length_cons]
                      omega
                    refine extend (.number conversion) split shorter fun member => valid ?_
                    by_cases short : conversion.Short
                    · rw [split, directives_piece (.number conversion) short
                        (by simp [Piece.directive, type])]
                      exact List.mem_cons_of_mem _ member
                    · rw [split, Piece.spelling, directives_long short type]
                      exact List.mem_cons_of_mem _ (List.mem_append_right _ member)
          · refine extend (.plain byte percent) rfl (by simp) fun member => valid ?_
            rw [directives_cons, directiveAt_plain percent]
            exact List.mem_cons_of_mem _ member

/-! ## Rendering -/

section Rendering

variable {printf : Printf}

/-- A short part does what it should do. -/
theorem events_piece {piece : Piece} (short : piece.Short) (args : List VaArg) :
    piece.directive.events printf args = piece.events printf args := by
  cases piece with
  | plain byte other => rfl
  | string => rfl
  | binary => rfl
  | percent => rfl
  | number conversion =>
      have fits : conversion.spelling.length < formatRoom := short
      rw [Piece.directive]
      match args with
      | [] => cases conversion.argType <;> rfl
      | .pointer _ :: args => cases conversion.argType <;> rfl
      | .size _ :: args => cases conversion.argType <;> rfl
      | .number given bits :: args =>
          cases type : conversion.argType with
          | none => simp [Directive.events, Piece.events, type]
          | some type' => simp [Directive.events, Piece.events, type, fits, eq_comm]

theorem directive_ne_invalid {piece : Piece} {args left : List VaArg} {log : List Event}
    {rest : Bytes}
    (ran : eventsOf printf (directives (piece.spelling ++ rest)) args = some (log, left)) :
    piece.directive ≠ .invalid := by
  cases piece with
  | plain byte other =>
      rw [Piece.directive, plainDirective]
      split_ifs <;> simp
  | string => simp [Piece.directive]
  | binary => simp [Piece.directive]
  | percent => simp [Piece.directive]
  | number conversion =>
      rw [Piece.directive]
      cases type : conversion.argType with
      | some type' => simp
      | none =>
          rw [Piece.spelling, Conversion.spelling, List.cons_append, directives_cons,
            conversion.directiveAt_eq, type] at ran
          exact absurd List.mem_cons_self (not_invalid_of_events ran)

/-- A long conversion takes its argument, and a byte of the specification follows. -/
theorem events_long {conversion : Conversion} {type : ArgType} {args left : List VaArg}
    {log : List Event} {rest : Bytes} (long : ¬conversion.Short)
    (known : conversion.argType = some type)
    (ran : eventsOf printf (directives (conversion.spelling ++ rest)) args = some (log, left)) :
    ∃ arg event more, log = .consumed arg :: event :: more ∧ ∀ text, event ≠ .appended text := by
  obtain ⟨byte, others, tail⟩ : ∃ byte others, conversion.body.tail = byte :: others := by
    refine List.exists_cons_of_ne_nil (List.ne_nil_of_length_pos ?_)
    have length : ¬conversion.spelling.length < 14 := long
    rw [Conversion.spelling, List.length_cons] at length
    rw [List.length_tail]
    omega
  rw [directives_long long known, tail] at ran
  obtain ⟨own, middle, more, first, copied, rfl⟩ := eventsOf_cons ran
  obtain ⟨next, last, later, second, _, rfl⟩ := eventsOf_cons copied
  have long : ¬conversion.spelling.length < formatRoom := long
  obtain ⟨bits, _, rfl⟩ := events_printf first
  rw [if_neg long]
  rw [plainDirective] at second
  split at second
  · obtain ⟨rfl, rfl⟩ := Prod.mk.inj (Option.some.inj second)
    exact ⟨_, _, _, rfl, by simp⟩
  · obtain ⟨rfl, rfl⟩ := Prod.mk.inj (Option.some.inj second)
    exact ⟨_, _, _, rfl, by simp⟩

/-- What has been done is what should be done exactly if every conversion is short. -/
theorem piecesEvents_iff {pieces : List Piece} {trailing : Bool} {args left : List VaArg}
    {log : List Event}
    (ran : eventsOf printf
      (directives (pieces.flatMap (·.spelling) ++ Layout.ending trailing)) args = some
        (log, left)) :
    piecesEvents printf (if trailing then [.copied '%'.toUInt8] else []) pieces args =
      some (log, left) ↔ ∀ piece ∈ pieces, piece.Short := by
  induction pieces generalizing args log with
  | nil =>
      cases trailing with
      | false =>
          have ended : some ([], args) = some (log, left) := ran
          simp [piecesEvents, ended]
      | true =>
          have ended : some ([.copied '%'.toUInt8], args) = some (log, left) := ran
          simp [piecesEvents, ended]
  | cons piece pieces induction =>
      rw [List.flatMap_cons, List.append_assoc] at ran
      rw [piecesEvents, List.forall_mem_cons]
      by_cases short : piece.Short
      · rw [directives_piece piece short (directive_ne_invalid ran)] at ran
        obtain ⟨own, middle, more, first, others, rfl⟩ := eventsOf_cons ran
        rw [events_piece short] at first
        rw [first, Option.bind_some, ← induction others]
        simp [short, Option.map_eq_some_iff]
      · simp only [short, false_and, iff_false]
        have known := directive_ne_invalid ran
        match piece, short, known, ran with
        | .plain byte other, short, _, _ => exact absurd trivial short
        | .string, short, _, _ => exact absurd trivial short
        | .binary, short, _, _ => exact absurd trivial short
        | .percent, short, _, _ => exact absurd trivial short
        | .number conversion, long, known, ran =>
            cases type : conversion.argType with
            | none => simp [Piece.directive, type] at known
            | some type' =>
                obtain ⟨arg, event, more, rfl, copied⟩ := events_long long type ran
                intro rendered
                obtain ⟨⟨own, middle⟩, first, later⟩ := Option.bind_eq_some_iff.mp rendered
                obtain ⟨⟨others, last⟩, _, same⟩ := Option.map_eq_some_iff.mp later
                match args, first with
                | .number given bits :: args, first =>
                    rw [Piece.events] at first
                    split at first
                    · obtain ⟨rfl, rfl⟩ := Prod.mk.inj (Option.some.inj first)
                      simp only [List.cons_append, Prod.mk.injEq, List.cons.injEq] at same
                      exact copied _ same.1.2.1.symm
                    · cases first

end Rendering

/-- Every part of a layout has been done as it should be, in its place: a conversion has taken
one argument of its type and put its text into the current argument of the command, and
nothing of it has been copied or passed as a space. -/
structure RenderedInPlace (printf : Printf) (layout : Layout) (args : List VaArg)
    (state : ScanState) : Prop where
  events : layout.events printf args = some (state.log, state.args)
  arguments : state.curargv = replay [] false state.log

/-- An accepted format has a layout, and its conversions are rendered in place exactly if
all of them fit the buffer. -/
theorem conversions_rendered_iff {printf : Printf} {memory : Memory} {format : Bytes}
    {args : List VaArg} {state : ScanState}
    (accepted : scan printf memory format args = .ok state) :
    (∃ layout : Layout, layout.spelling = cString format) ∧
      ∀ layout : Layout, layout.spelling = cString format →
        (RenderedInPlace printf layout args state ↔
          ∀ conversion, .number conversion ∈ layout.pieces → conversion.Short) := by
  have facts := scan_scanned accepted
  refine ⟨exists_layout (not_invalid_of_events facts.events), fun layout spelled => ?_⟩
  have ran := facts.events
  rw [← spelled, Layout.spelling] at ran
  have pieces : (∀ piece ∈ layout.pieces, piece.Short) ↔
      ∀ conversion, .number conversion ∈ layout.pieces → conversion.Short := by
    constructor
    · exact fun short conversion member => short _ member
    · intro short piece member
      match piece, member with
      | .number conversion, member => exact short conversion member
      | .plain _ _, _ => trivial
      | .string, _ => trivial
      | .binary, _ => trivial
      | .percent, _ => trivial
  rw [← pieces, ← piecesEvents_iff ran]
  exact ⟨fun rendered => rendered.events, fun events => ⟨events, facts.curargv⟩⟩

/-- A `%d` with flags `0` in it, which `printf` writes without leading zeros. -/
def zeroFlags (zeros : Nat) : Conversion where
  flags := List.replicate zeros '0'.toUInt8
  width := []
  precision := none
  modifier := .none
  letter := 'd'.toUInt8
  allFlags := fun byte member => (List.mem_replicate.mp member).2 ▸ (by decide)
  widthDigits := by simp
  precisionDigits := by simp
  number := .inl (by decide)

def zeroFlagsLayout (zeros : Nat) : Layout := ⟨[.number (zeroFlags zeros)], false⟩

/-- Eleven flags are rendered, and twelve are not. -/
theorem conversions_rendered_zeroFlags :
    (∃ state, scan printfInteger (fun _ => true) (ascii "%00000000000d") [.number .int 5] =
        .ok state ∧ RenderedInPlace printfInteger (zeroFlagsLayout 11) [.number .int 5] state) ∧
      ∃ state, scan printfInteger (fun _ => true) (ascii "%000000000000d") [.number .int 5] =
        .ok state ∧ ¬RenderedInPlace printfInteger (zeroFlagsLayout 12) [.number .int 5] state := by
  constructor
  · obtain ⟨state, accepted, _⟩ := Checked.exists_of_passes (show Checked.passes
      (scan printfInteger (fun _ => true) (ascii "%00000000000d") [.number .int 5])
        (fun _ => true) = true by decide +kernel)
    refine ⟨state, accepted, ?_⟩
    rw [(conversions_rendered_iff accepted).2 (zeroFlagsLayout 11) (by decide +kernel)]
    intro conversion member
    obtain rfl : conversion = zeroFlags 11 := by simpa [zeroFlagsLayout] using member
    decide
  · obtain ⟨state, accepted, _⟩ := Checked.exists_of_passes (show Checked.passes
      (scan printfInteger (fun _ => true) (ascii "%000000000000d") [.number .int 5])
        (fun _ => true) = true by decide +kernel)
    refine ⟨state, accepted, ?_⟩
    rw [(conversions_rendered_iff accepted).2 (zeroFlagsLayout 12) (by decide +kernel)]
    exact fun short => absurd (short (zeroFlags 12) (by simp [zeroFlagsLayout])) (by decide)

/-- The text of the number is missing, and most of its specification is copied. -/
theorem long_conversion_copied :
    ∃ state, scan printfInteger (fun _ => true) (ascii "%000000000000d") [.number .int 5] =
        .ok state ∧ state.curargv = [ascii "00000000000d"] ∧
      ¬RenderedInPlace printfInteger (zeroFlagsLayout 12) [.number .int 5] state := by
  obtain ⟨state, accepted, checked⟩ := Checked.exists_of_passes (show Checked.passes
    (scan printfInteger (fun _ => true) (ascii "%000000000000d") [.number .int 5])
      (fun state => state.curargv == [ascii "00000000000d"] && state.log.length == 13) = true by
    decide +kernel)
  simp only [Bool.and_eq_true, beq_iff_eq] at checked
  refine ⟨state, accepted, checked.1, fun rendered => ?_⟩
  have events : (zeroFlagsLayout 12).events printfInteger [.number .int 5] =
      some ([.consumed (.number .int 5), .appended (ascii "5")], []) := by decide +kernel
  have log := (Prod.mk.inj (Option.some.inj (events.symm.trans rendered.events))).1
  rw [← log] at checked
  exact absurd checked.2 (by decide)

end Libvalkey.Format
