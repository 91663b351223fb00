import Libvalkey.Format.Events

/-! # How formats are written

A format is a sequence of bytes, of `%s`, `%b` and `%%`, and of conversions of `printf` with
flags, a width, a precision, a size and a letter. -/

namespace Libvalkey.Format

/-! ## Conversions -/

/-- The size of a conversion. -/
inductive Modifier
  | none
  | hh
  | h
  | l
  | ll
  | j
  | z
  | t
  | L
  deriving DecidableEq, Repr

def Modifier.spelling : Modifier → Bytes
  | .none => []
  | .hh => ascii "hh"
  | .h => ascii "h"
  | .l => ascii "l"
  | .ll => ascii "ll"
  | .j => ascii "j"
  | .z => ascii "z"
  | .t => ascii "t"
  | .L => ascii "L"

structure Conversion where
  flags : Bytes
  width : Bytes
  precision : Option Bytes
  modifier : Modifier
  letter : UInt8
  allFlags : ∀ byte ∈ flags, byte ∈ Format.flags
  widthDigits : ∀ byte ∈ width, Decimal.isDigit byte = true
  precisionDigits : ∀ digits ∈ precision, ∀ byte ∈ digits, Decimal.isDigit byte = true
  number : letter ∈ intfmts ∨ letter ∈ doublefmts

namespace Conversion

variable (conversion : Conversion)

def precisionSpelling : Bytes :=
  match conversion.precision with
  | none => []
  | some digits => '.'.toUInt8 :: digits

/-- The size and the letter. -/
def ending : Bytes := conversion.modifier.spelling ++ [conversion.letter]

/-- What follows the `%`. -/
def body : Bytes :=
  conversion.flags ++ (conversion.width ++ (conversion.precisionSpelling ++ conversion.ending))

def spelling : Bytes := '%'.toUInt8 :: conversion.body

/-- The type of its argument, where the function knows the conversion. -/
def argType : Option ArgType :=
  if conversion.letter ∈ intfmts then
    match conversion.modifier with
    | .none | .h | .hh => some .int
    | .l => some .long
    | .ll => some .longlong
    | _ => none
  else if conversion.modifier = .none then some .double
  else none

end Conversion

/-! ## Formats -/

/-- A part of a format. -/
inductive Piece
  | plain (byte : UInt8) (other : byte ≠ '%'.toUInt8)
  | string
  | binary
  | percent
  | number (conversion : Conversion)

/-- A format. A `%` at its end stands for itself. -/
structure Layout where
  pieces : List Piece
  trailing : Bool

def Piece.spelling : Piece → Bytes
  | .plain byte _ => [byte]
  | .string => ascii "%s"
  | .binary => ascii "%b"
  | .percent => ascii "%%"
  | .number conversion => conversion.spelling

def Layout.ending (trailing : Bool) : Bytes := if trailing then ascii "%" else []

def Layout.spelling (layout : Layout) : Bytes :=
  layout.pieces.flatMap (·.spelling) ++ Layout.ending layout.trailing

/-- A byte that is not a `%`. -/
def plainDirective (byte : UInt8) : Directive :=
  if byte = ' '.toUInt8 then .space else .literal byte

section Events

variable (printf : Printf)

/-- What should be done with a part of a format: a conversion takes one argument of its
type and puts its text into the current argument. -/
def Piece.events : Piece → List VaArg → Option (List Event × List VaArg)
  | .plain byte _, args => (plainDirective byte).events printf args
  | .string, args => Directive.string.events printf args
  | .binary, args => Directive.binary.events printf args
  | .percent, args => Directive.percent.events printf args
  | .number conversion, .number given bits :: args =>
      if conversion.argType = some given then
        some ([.consumed (.number given bits),
          .appended (printf.text conversion.spelling (.number given bits))], args)
      else none
  | .number _, _ => none

/-- What should be done with the parts of a format and what follows them. -/
def piecesEvents (ending : List Event) : List Piece → List VaArg → Option (List Event × List VaArg)
  | [], args => some (ending, args)
  | piece :: pieces, args =>
      (piece.events printf args).bind fun (events, args) =>
        (piecesEvents ending pieces args).map fun (more, args) => (events ++ more, args)

def Layout.events (layout : Layout) (args : List VaArg) : Option (List Event × List VaArg) :=
  piecesEvents printf (if layout.trailing then [.copied '%'.toUInt8] else []) layout.pieces args

end Events

/-! ## Reading them -/

theorem directiveAt_plain {byte : UInt8} (plain : byte ≠ '%'.toUInt8) (rest : Bytes) :
    directiveAt byte rest = (plainDirective byte, rest) := by
  cases rest with
  | nil => rfl
  | cons next rest => rw [directiveAt, if_pos plain, plainDirective]

/-- Bytes that neither are flags nor digits nor `.`. -/
theorem letters_apart : ∀ byte ∈ intfmts ++ doublefmts ++ ascii "hljztL",
    byte ∉ Format.flags ∧ Decimal.isDigit byte = false ∧ byte ≠ '.'.toUInt8 ∧
      byte ≠ 's'.toUInt8 ∧ byte ≠ 'b'.toUInt8 ∧ byte ≠ '%'.toUInt8 := by
  decide +kernel

theorem dropWhile_of_head {p : UInt8 → Bool} {text : Bytes}
    (head : ∀ byte ∈ text.head?, p byte = false) : text.dropWhile p = text := by
  cases text with
  | nil => rfl
  | cons byte text => rw [List.dropWhile_cons_of_neg (by simp [head byte rfl])]

namespace Conversion

variable (conversion : Conversion) (rest : Bytes)

theorem mem_letters_of_head (byte : UInt8) (head : byte ∈ (conversion.ending ++ rest).head?) :
    byte ∈ intfmts ++ doublefmts ++ ascii "hljztL" := by
  have letter : conversion.letter ∈ intfmts ++ doublefmts ++ ascii "hljztL" :=
    List.mem_append_left _ (List.mem_append.mpr conversion.number)
  unfold ending at head
  cases modifier : conversion.modifier with
  | none =>
      rw [modifier] at head
      obtain rfl := Option.some.inj head
      exact letter
  | _ =>
      rw [modifier] at head
      obtain rfl := Option.some.inj head
      decide

theorem skipPrecision_eq :
    skipPrecision (conversion.precisionSpelling ++ (conversion.ending ++ rest)) =
      conversion.ending ++ rest := by
  have apart (byte : UInt8) (head : byte ∈ (conversion.ending ++ rest).head?) :=
    letters_apart byte (conversion.mem_letters_of_head rest byte head)
  unfold precisionSpelling
  split
  · rw [List.nil_append]
    cases text : conversion.ending ++ rest with
    | nil => rfl
    | cons byte text' => rw [skipPrecision, if_neg (apart byte (by simp [text])).2.2.1]
  · rename_i digits known
    rw [List.cons_append, skipPrecision, if_pos rfl,
      List.dropWhile_append_of_pos (conversion.precisionDigits digits known),
      dropWhile_of_head fun byte head => (apart byte head).2.1]

theorem skip_eq {width text : Bytes} (digits : ∀ byte ∈ width, Decimal.isDigit byte = true)
    (head : ∀ byte ∈ text.head?, byte ∉ Format.flags ∧ Decimal.isDigit byte = false) :
    ((width ++ text).dropWhile (· ∈ Format.flags)).dropWhile Decimal.isDigit = text := by
  induction width with
  | nil =>
      have noFlag : text.dropWhile (· ∈ Format.flags) = text :=
        dropWhile_of_head fun byte known => by simp [(head byte known).1]
      rw [List.nil_append, noFlag, dropWhile_of_head fun byte known => (head byte known).2]
  | cons byte width induction =>
      have rest := induction fun other member => digits other (List.mem_cons_of_mem _ member)
      by_cases flag : byte ∈ Format.flags
      · rw [List.cons_append, List.dropWhile_cons_of_pos (by simpa using flag), rest]
      · rw [List.cons_append, List.dropWhile_cons_of_neg (by simpa using flag), ← List.cons_append,
          List.dropWhile_append_of_pos digits,
          dropWhile_of_head fun byte known => (head byte known).2]

theorem letter_ne : conversion.letter ≠ 'h'.toUInt8 ∧ conversion.letter ≠ 'l'.toUInt8 := by
  have apart : ∀ byte ∈ intfmts ++ doublefmts, byte ≠ 'h'.toUInt8 ∧ byte ≠ 'l'.toUInt8 := by
    decide +kernel
  exact apart _ (List.mem_append.mpr conversion.number)

theorem detectConversion_eq :
    detectConversion (conversion.ending ++ rest) = conversion.argType.map fun type =>
      (type, rest) := by
  obtain ⟨notH, notL⟩ := conversion.letter_ne
  have sizes : ∀ byte ∈ ascii "hl", byte ∉ intfmts ∧ byte ∉ doublefmts := by decide +kernel
  have others : ∀ byte ∈ ascii "jztL", byte ∉ intfmts ∧ byte ∉ doublefmts ∧
      byte ≠ 'h'.toUInt8 ∧ byte ≠ 'l'.toUInt8 := by decide +kernel
  have h := sizes 'h'.toUInt8 (by decide)
  have l := sizes 'l'.toUInt8 (by decide)
  have different : 'l'.toUInt8 ≠ 'h'.toUInt8 := by decide
  have j := others 'j'.toUInt8 (by decide)
  have z := others 'z'.toUInt8 (by decide)
  have t := others 't'.toUInt8 (by decide)
  have L := others 'L'.toUInt8 (by decide)
  have double (other : conversion.letter ∉ intfmts) : conversion.letter ∈ doublefmts :=
    conversion.number.resolve_left other
  unfold ending argType
  by_cases integer : conversion.letter ∈ intfmts <;>
    cases modifier : conversion.modifier <;>
    simp [Modifier.spelling, ascii, detectConversion, integerAfter, integer, double, h, l, j, z, t,
      L, notH, notL, different]

theorem detectPrintf_eq :
    detectPrintf (conversion.body ++ rest) = conversion.argType.map fun type => (type, rest) := by
  have head (byte : UInt8)
      (known : byte ∈ (conversion.precisionSpelling ++ (conversion.ending ++ rest)).head?) :
      byte ∉ Format.flags ∧ Decimal.isDigit byte = false := by
    unfold precisionSpelling at known
    split at known
    · have apart := letters_apart byte (conversion.mem_letters_of_head rest byte known)
      exact ⟨apart.1, apart.2.1⟩
    · obtain rfl := Option.some.inj known
      decide
  have text : conversion.body ++ rest = conversion.flags ++ (conversion.width ++
      (conversion.precisionSpelling ++ (conversion.ending ++ rest))) := by simp [body]
  rw [detectPrintf, text, List.dropWhile_append_of_pos (by simpa using conversion.allFlags),
    skip_eq conversion.widthDigits head, skipPrecision_eq, detectConversion_eq]

end Conversion

theorem exists_ending {p after : Bytes} {type : ArgType}
    (detected : detectConversion p = some (type, after)) :
    ∃ modifier letter, (letter ∈ intfmts ∨ letter ∈ doublefmts) ∧
      p = modifier.spelling ++ letter :: after ∧
      ∀ conversion : Conversion, conversion.modifier = modifier → conversion.letter = letter →
        conversion.argType = some type := by
  have integer {size : ArgType} {text : Bytes}
      (found : integerAfter size text = some (type, after)) :
      ∃ letter ∈ intfmts, text = letter :: after ∧ size = type := by
    cases text with
    | nil => cases found
    | cons letter rest =>
        rw [integerAfter] at found
        split at found
        · rename_i member
          obtain ⟨rfl, rfl⟩ := Prod.mk.inj (Option.some.inj found)
          exact ⟨letter, member, rfl, rfl⟩
        · cases found
  have tail {byte : UInt8} {text : Bytes} (head : text.head? = some byte) : text = byte ::
      text.tail := by
    cases text with
    | nil => cases head
    | cons other rest => rw [Option.some.inj head, List.tail_cons]
  cases p with
  | nil => cases detected
  | cons byte rest =>
      rw [detectConversion] at detected
      split_ifs at detected with int double hh h ll l
      · obtain ⟨rfl, rfl⟩ := Prod.mk.inj (Option.some.inj detected)
        refine ⟨.none, byte, .inl int, rfl, ?_⟩
        rintro conversion modifier rfl
        simp [Conversion.argType, int, modifier]
      · obtain ⟨rfl, rfl⟩ := Prod.mk.inj (Option.some.inj detected)
        refine ⟨.none, byte, .inr double, rfl, ?_⟩
        rintro conversion modifier rfl
        simp [Conversion.argType, int, modifier]
      · obtain ⟨letter, member, text, rfl⟩ := integer detected
        refine ⟨.hh, letter, .inl member, ?_, ?_⟩
        · rw [hh.1, tail hh.2, text]
          rfl
        · rintro conversion modifier rfl
          simp [Conversion.argType, member, modifier]
      · obtain ⟨letter, member, text, rfl⟩ := integer detected
        refine ⟨.h, letter, .inl member, ?_, ?_⟩
        · rw [h, text]
          rfl
        · rintro conversion modifier rfl
          simp [Conversion.argType, member, modifier]
      · obtain ⟨letter, member, text, rfl⟩ := integer detected
        refine ⟨.ll, letter, .inl member, ?_, ?_⟩
        · rw [ll.1, tail ll.2, text]
          rfl
        · rintro conversion modifier rfl
          simp [Conversion.argType, member, modifier]
      · obtain ⟨letter, member, text, rfl⟩ := integer detected
        refine ⟨.l, letter, .inl member, ?_, ?_⟩
        · rw [l, text]
          rfl
        · rintro conversion modifier rfl
          simp [Conversion.argType, member, modifier]

/-- What is detected is a conversion. -/
theorem exists_conversion {p after : Bytes} {type : ArgType}
    (detected : detectPrintf p = some (type, after)) :
    ∃ conversion : Conversion, p = conversion.body ++ after ∧ conversion.argType = some type := by
  obtain ⟨modifier, letter, number, text, typed⟩ := exists_ending detected
  have all {p : UInt8 → Bool} {text : Bytes} : ∀ byte ∈ text.takeWhile p, p byte = true :=
    fun byte member => List.mem_takeWhile_imp member
  generalize rest : p.dropWhile (· ∈ flags) = afterFlags at text
  generalize digits : afterFlags.dropWhile Decimal.isDigit = afterWidth at text
  have front : p = p.takeWhile (· ∈ flags) ++
      (afterFlags.takeWhile Decimal.isDigit ++ afterWidth) := by
    rw [← digits, List.takeWhile_append_dropWhile, ← rest, List.takeWhile_append_dropWhile]
  have precise : ∃ precision : Option Bytes,
      (∀ digits ∈ precision, ∀ byte ∈ digits, Decimal.isDigit byte = true) ∧
        afterWidth = (match precision with
          | none => []
          | some digits => '.'.toUInt8 :: digits) ++ skipPrecision afterWidth := by
    cases afterWidth with
    | nil => exact ⟨none, by simp, rfl⟩
    | cons byte afterWidth =>
        rw [skipPrecision]
        split
        · rename_i point
          refine ⟨some (afterWidth.takeWhile Decimal.isDigit), ?_, ?_⟩
          · intro digits known
            obtain rfl := Option.some.inj known
            exact all
          · rw [point, List.cons_append, List.takeWhile_append_dropWhile]
        · exact ⟨none, by simp, rfl⟩
  obtain ⟨precision, precisionDigits, precise⟩ := precise
  rw [text] at precise
  rw [precise] at front
  refine ⟨⟨p.takeWhile (· ∈ flags), afterFlags.takeWhile Decimal.isDigit, precision,
    modifier, letter,
    fun byte member => by simpa using all byte member, all, precisionDigits, number⟩, ?_,
    typed _ rfl rfl⟩
  refine front.trans ?_
  simp [Conversion.body, Conversion.ending, Conversion.precisionSpelling]

end Libvalkey.Format
