import Libvalkey.Format.Building

/-! # Values stay where they are put

The arguments of a command are made of literals and conversions that the format alone
tells. A value only fills its own conversion. -/

namespace Libvalkey.Format

/-- A part of an argument: a byte of the format, or the conversion of a number. -/
inductive Segment
  | literal (byte : UInt8)
  | conversion (n : Nat)
  deriving DecidableEq, Repr

/-- The number of a conversion. -/
def Segment.index : Segment → Option Nat
  | .literal _ => none
  | .conversion n => some n

/-- The arguments that a format has, with its conversions numbered from the left. -/
abbrev Template := List (List Segment)

/-- The template behind `current`, the parts of an argument that has been started. The next
conversion has the number `n`. -/
def templateFrom (n : Nat) (current : List Segment) : List Directive → Template
  | [] => if current = [] then [] else [current]
  | .space :: directives =>
      if current = [] then templateFrom n [] directives
      else current :: templateFrom n [] directives
  | .literal byte :: directives => templateFrom n (current ++ [.literal byte]) directives
  | .percent :: directives => templateFrom n (current ++ [.literal '%'.toUInt8]) directives
  | .invalid :: directives => templateFrom n current directives
  | .string :: directives | .binary :: directives | .printf _ _ :: directives =>
      templateFrom (n + 1) (current ++ [.conversion n]) directives

def template (format : Bytes) : Template := templateFrom 0 [] (directives (cString format))

/-- The text of a part, with the values of all conversions. -/
def Segment.text (values : List Bytes) : Segment → Bytes
  | .literal byte => [byte]
  | .conversion n => values.getD n []

/-- The arguments of the command, with the values of all conversions. -/
def Template.fill (template : Template) (values : List Bytes) : List Bytes :=
  template.map fun segments => segments.flatMap (·.text values)

/-- The values of the conversions: a string up to its NUL, the bytes of a binary value, and
what `printf` makes of a number. -/
def valuesFrom (printf : Printf) : List Directive → List VaArg → List Bytes
  | .string :: directives, .pointer (some memory) :: args =>
      cString memory :: valuesFrom printf directives args
  | .binary :: directives, .pointer (some memory) :: .size size :: args =>
      memory.take size :: valuesFrom printf directives args
  | .printf _ spec :: directives, arg :: args =>
      printf.text spec arg :: valuesFrom printf directives args
  | _ :: directives, args => valuesFrom printf directives args
  | [], _ => []

def values (printf : Printf) (format : Bytes) (args : List VaArg) : List Bytes :=
  valuesFrom printf (directives (cString format)) args

/-- A `printf` specification that fits the buffer. -/
def Directive.Short : Directive → Prop
  | .printf _ spec => spec.length < formatRoom
  | _ => True

instance : (directive : Directive) → Decidable directive.Short
  | .printf _ spec => inferInstanceAs (Decidable (spec.length < formatRoom))
  | .literal _ | .space | .string | .binary | .percent | .invalid =>
      inferInstanceAs (Decidable True)

variable {printf : Printf}

/-- A directive other than a space puts a part with a text behind the current argument. `new`
has the value of a conversion. -/
structure Puts (printf : Printf) (directive : Directive) (args : List VaArg) (own : List Event)
    (middle : List VaArg) (segment : Nat → Segment) (text : Bytes) (new : List Bytes) : Prop where
  template : ∀ n current directives, templateFrom n current (directive :: directives) =
    templateFrom (n + new.length) (current ++ [segment n]) directives
  values : ∀ directives, valuesFrom printf (directive :: directives) args =
    new ++ valuesFrom printf directives middle
  replay : ∀ cur touched more, replay cur touched (own ++ more) = replay (cur ++ text) true more
  part : (∃ byte, (∀ n, segment n = .literal byte) ∧ text = [byte] ∧ new = []) ∨
    (∀ n, segment n = .conversion n) ∧ new = [text]

theorem puts_of_events {directive : Directive} {args middle : List VaArg} {own : List Event}
    (ran : directive.events printf args = some (own, middle)) (other : directive ≠ .space)
    (short : directive.Short) :
    ∃ segment text new, Puts printf directive args own middle segment text new := by
  cases directive with
  | space => exact absurd rfl other
  | invalid => cases ran
  | literal byte =>
      obtain ⟨rfl, rfl⟩ := Prod.mk.inj (Option.some.inj ran)
      exact ⟨fun _ => .literal byte, [byte], [], fun _ _ _ => rfl, fun _ => rfl, fun _ _ _ => rfl,
        .inl ⟨byte, fun _ => rfl, rfl, rfl⟩⟩
  | percent =>
      obtain ⟨rfl, rfl⟩ := Prod.mk.inj (Option.some.inj ran)
      exact ⟨fun _ => .literal '%'.toUInt8, ascii "%", [], fun _ _ _ => rfl, fun _ => rfl,
        fun _ _ _ => rfl, .inl ⟨'%'.toUInt8, fun _ => rfl, rfl, rfl⟩⟩
  | string =>
      obtain ⟨memory, rfl, rfl⟩ := events_string ran
      exact ⟨.conversion, cString memory, [cString memory], fun _ _ _ => rfl, fun _ => rfl,
        fun _ _ _ => rfl, .inr ⟨fun _ => rfl, rfl⟩⟩
  | binary =>
      obtain ⟨memory, size, rfl, _, rfl⟩ := events_binary ran
      exact ⟨.conversion, memory.take size, [memory.take size], fun _ _ _ => rfl,
        fun _ => rfl, fun _ _ _ => rfl, .inr ⟨fun _ => rfl, rfl⟩⟩
  | printf type spec =>
      have fits : spec.length < formatRoom := short
      obtain ⟨bits, rfl, rfl⟩ := events_printf ran
      rw [if_pos fits]
      exact ⟨.conversion, _, [printf.text spec (.number type bits)], fun _ _ _ => rfl,
        fun _ => rfl, fun _ _ _ => rfl, .inr ⟨fun _ => rfl, rfl⟩⟩

section Run

variable {directives : List Directive} {args rest : List VaArg} {events : List Event}

/-- The conversions of a template are numbered as their values are. -/
theorem indices_templateFrom (short : ∀ directive ∈ directives, directive.Short)
    (ran : eventsOf printf directives args = some (events, rest)) (n : Nat)
    (current : List Segment) :
    (templateFrom n current directives).flatten.filterMap Segment.index =
      current.filterMap Segment.index ++
        List.range' n (valuesFrom printf directives args).length := by
  induction directives generalizing n current args events with
  | nil =>
      by_cases empty : current = [] <;> simp [templateFrom, valuesFrom, empty]
  | cons directive directives induction =>
      obtain ⟨own, middle, more, first, others, rfl⟩ := eventsOf_cons ran
      have shortRest : ∀ directive ∈ directives, directive.Short := fun other member =>
        short other (List.mem_cons_of_mem _ member)
      have next := induction shortRest others
      by_cases space : directive = .space
      · subst space
        obtain ⟨rfl, rfl⟩ := Prod.mk.inj (Option.some.inj first)
        have same : valuesFrom printf (.space :: directives) args =
          valuesFrom printf directives args := rfl
        rw [same]
        by_cases empty : current = []
        · simpa [templateFrom, empty] using next n []
        · simp [templateFrom, empty, next n []]
      · obtain ⟨segment, text, new, puts⟩ :=
          puts_of_events first space (short directive List.mem_cons_self)
        rw [puts.template, puts.values, next, List.filterMap_append, List.append_assoc,
          List.length_append, ← List.range'_append_1]
        congr 1
        rcases puts.part with ⟨byte, literal, _, rfl⟩ | ⟨conversion, rfl⟩
        · simp [literal, Segment.index]
        · simp [conversion, Segment.index]

/-- The arguments that the events put together are those of the template. `earlier` are the
values of the conversions before. -/
theorem replay_eq_fill (short : ∀ directive ∈ directives, directive.Short)
    (ran : eventsOf printf directives args = some (events, rest)) {earlier all : List Bytes}
    (whole : all = earlier ++ valuesFrom printf directives args) (current : List Segment) :
    replay (current.flatMap (·.text all)) (current ≠ []) events =
      Template.fill (templateFrom earlier.length current directives) all := by
  induction directives generalizing args events earlier current with
  | nil =>
      obtain ⟨rfl, rfl⟩ := Prod.mk.inj (Option.some.inj ran)
      by_cases empty : current = [] <;> simp [templateFrom, Template.fill, replay, empty]
  | cons directive directives induction =>
      obtain ⟨own, middle, more, first, others, rfl⟩ := eventsOf_cons ran
      have shortRest : ∀ directive ∈ directives, directive.Short := fun other member =>
        short other (List.mem_cons_of_mem _ member)
      by_cases space : directive = .space
      · subst space
        obtain ⟨rfl, rfl⟩ := Prod.mk.inj (Option.some.inj first)
        have next := induction shortRest others whole []
        simp only [List.flatMap_nil, ne_eq, not_true, decide_false] at next
        by_cases empty : current = []
        · simp [templateFrom, replay, empty, next]
        · simp [templateFrom, replay, empty, next, Template.fill]
      · obtain ⟨segment, text, new, puts⟩ :=
          puts_of_events first space (short directive List.mem_cons_self)
        rw [puts.values, ← List.append_assoc] at whole
        have next := induction shortRest others whole (current ++ [segment earlier.length])
        have part : (segment earlier.length).text all = text := by
          rcases puts.part with ⟨byte, literal, rfl, rfl⟩ | ⟨conversion, rfl⟩
          · rw [literal, Segment.text]
          · rw [conversion, Segment.text, whole]
            simp
        rw [puts.template, puts.replay, ← List.length_append, ← next]
        simp [part]

end Run

/-- The outcome is the encoding of the template of the format, every conversion of which has
been replaced by its own value. -/
structure FilledIn (printf : Printf) (format : Bytes) (args : List VaArg)
    (outcome : Outcome Block) : Prop where
  numbered : (template format).flatten.filterMap Segment.index =
    List.range (values printf format args).length
  holds : outcome.Holds (encoding ((template format).fill (values printf format args)))

section Format

variable {format : Bytes} {memory : Memory} {args : List VaArg} {block : Block} {len : Int}

theorem valkeyvFormatCommand_done
    (success : valkeyvFormatCommand printf memory format args = .ok (.done block len)) :
    ∃ state, scan printf memory format args = .ok state ∧ Scanned printf format args state ∧
      Outcome.Holds (.done block len) (encoding state.curargv) := by
  unfold valkeyvFormatCommand at success
  split at success
  · rename_i state scanned
    have facts := scan_scanned scanned
    obtain ⟨outcome, result, holds⟩ :=
      buildCommand_small facts.counted (buildCommand_done facts.counted success)
    obtain rfl := Except.ok.inj (success.symm.trans result)
    split at holds
    · exact ⟨state, scanned, facts, holds⟩
    · cases holds
  · cases success
  · cases success
  · cases success

theorem filledIn_of_done (short : ∀ directive ∈ directives (cString format), directive.Short)
    (success : valkeyvFormatCommand printf memory format args = .ok (.done block len)) :
    FilledIn printf format args (.done block len) := by
  obtain ⟨state, _, facts, holds⟩ := valkeyvFormatCommand_done success
  have filled : replay [] false state.log = (template format).fill (values printf format args) := by
    simpa [template] using replay_eq_fill short facts.events
      (List.nil_append (values printf format args)).symm []
  refine ⟨?_, ?_⟩
  · rw [List.range_eq_range']
    exact indices_templateFrom short facts.events 0 []
  · rw [← filled, ← facts.curargv]
    exact holds

/-- Two runs on one format fill in one template: neither the number of arguments nor the
place of a value depends on the values. -/
theorem valkeyvFormatCommand_injection_free {memory' : Memory} {args' : List VaArg}
    {block' : Block} {len' : Int}
    (short : ∀ directive ∈ directives (cString format), directive.Short)
    (first : valkeyvFormatCommand printf memory format args = .ok (.done block len))
    (second : valkeyvFormatCommand printf memory' format args' = .ok (.done block' len')) :
    FilledIn printf format args (.done block len) ∧ FilledIn printf format args'
      (.done block' len') :=
  ⟨filledIn_of_done short first, filledIn_of_done short second⟩

end Format

/-- `SET %s:%d %b` -/
def setFormat : Bytes := ascii "SET %s:%d %b"

def setArgs (key : Bytes) (n : UInt64) (value : Bytes) : List VaArg :=
  [.pointer (some key), .number .int n, .pointer (some value), .size value.length]

example : template setFormat =
    [[.literal 83, .literal 69, .literal 84], [.conversion 0, .literal 58, .conversion 1],
      [.conversion 2]] := by decide +kernel

/-- Spaces, line ends and `%` in values, and values without a byte. -/
theorem injection_free_set :
    FilledIn printfInteger setFormat (setArgs (ascii "a b%s") 7 (ascii "x\r\n$1\r\ny"))
        (.done ⟨41, ascii "*3\r\n$3\r\nSET\r\n$7\r\na b%s:7\r\n$8\r\nx\r\n$1\r\ny\r\n" ++ [0]⟩ 40) ∧
      FilledIn printfInteger setFormat (setArgs [] 7 [])
        (.done ⟨28, ascii "*3\r\n$3\r\nSET\r\n$2\r\n:7\r\n$0\r\n\r\n" ++ [0]⟩ 27) := by
  have short : ∀ directive ∈ directives (cString setFormat), directive.Short := by decide +kernel
  have first : valkeyvFormatCommand printfInteger (fun _ => true) setFormat
      (setArgs (ascii "a b%s") 7 (ascii "x\r\n$1\r\ny")) = .ok (.done
        ⟨41, ascii "*3\r\n$3\r\nSET\r\n$7\r\na b%s:7\r\n$8\r\nx\r\n$1\r\ny\r\n" ++ [0]⟩ 40) := by
    decide +kernel
  have second : valkeyvFormatCommand printfInteger (fun _ => true) setFormat (setArgs [] 7 []) =
      .ok (.done ⟨28, ascii "*3\r\n$3\r\nSET\r\n$2\r\n:7\r\n$0\r\n\r\n" ++ [0]⟩ 27) := by
    decide +kernel
  exact valkeyvFormatCommand_injection_free short first second

end Libvalkey.Format
