import Libvalkey.Reader.Process

/-! # Frames

What the bytes of one RESP2 or RESP3 reply look like. A frame is the text of a
tree of values. Nothing here refers to how a reader goes through the bytes. -/

namespace Libvalkey

variable {Double : Type}

inductive AggregateKind
  | array
  | map
  | set
  | push
  | attr
  deriving DecidableEq, Repr

namespace AggregateKind

def type : AggregateKind → ReplyType
  | .array => .array
  | .map => .map
  | .set => .set
  | .push => .push
  | .attr => .attr

/-- The number of children for each element that the header counts. -/
def arity : AggregateKind → Nat
  | .map | .attr => 2
  | .array | .set | .push => 1

end AggregateKind

namespace ReplyType

/-- The byte that announces a value. -/
def byte : ReplyType → UInt8
  | .string => '$'.toUInt8
  | .array => '*'.toUInt8
  | .integer => ':'.toUInt8
  | .nil => '_'.toUInt8
  | .status => '+'.toUInt8
  | .error => '-'.toUInt8
  | .double => ','.toUInt8
  | .bool => '#'.toUInt8
  | .map => '%'.toUInt8
  | .set => '~'.toUInt8
  | .attr => '|'.toUInt8
  | .push => '>'.toUInt8
  | .bignum => '('.toUInt8
  | .verb => '='.toUInt8

end ReplyType

/-- The ways to write a nil: as itself, or as a string or an aggregate of length -1. -/
inductive NilForm
  | null
  | string
  | verb
  | aggregate (kind : AggregateKind)
  deriving DecidableEq, Repr

/-- The values of the protocol. The children of a map or an attribute are its
keys and values in turn. -/
inductive ReplyTree
  | status (text : Bytes)
  | error (text : Bytes)
  | integer (value : Int)
  | double (text : Bytes)
  | bool (value : Bool)
  | nil (form : NilForm)
  | bignum (text : Bytes)
  | string (text : Bytes)
  | verb (vtype text : Bytes)
  | aggregate (kind : AggregateKind) (children : List ReplyTree)

def crlf : Bytes := [CR, LF]

/-- A text without line breaks. -/
def Simple (text : Bytes) : Prop := CR ∉ text ∧ LF ∉ text

instance (text : Bytes) : Decidable (Simple text) := by
  unfold Simple
  infer_instance

/-- Digits with an optional minus sign. -/
def BigNumber (text : Bytes) : Prop :=
  ∃ digits, digits ≠ [] ∧ (∀ byte ∈ digits, Decimal.isDigit byte = true) ∧
    (text = digits ∨ text = '-'.toUInt8 :: digits)

/-- A value whose text is a line. -/
inductive LineItem (ffc : DoubleParser Double) : ReplyType → Bytes → ReplyTree → Prop
  | status {text : Bytes} (simple : Simple text) : LineItem ffc .status text (.status text)
  | error {text : Bytes} (simple : Simple text) : LineItem ffc .error text (.error text)
  | integer {value : Int} (inRange : InLongLong value) :
      LineItem ffc .integer (Decimal.ofInt value) (.integer value)
  | double {text : Bytes} {value : Double} (ends : EndsAtFirstNewline text)
      (number : doubleValue ffc text text.length = some value) :
      LineItem ffc .double text (.double text)
  | boolTrue {text : Bytes} (letter : text = ascii "t" ∨ text = ascii "T") :
      LineItem ffc .bool text (.bool true)
  | boolFalse {text : Bytes} (letter : text = ascii "f" ∨ text = ascii "F") :
      LineItem ffc .bool text (.bool false)
  | nil : LineItem ffc .nil [] (.nil .null)
  | bignum {text : Bytes} (number : BigNumber text) : LineItem ffc .bignum text (.bignum text)

/-- A value with a payload after its length. -/
inductive PayloadItem : ReplyType → Bytes → ReplyTree → Prop
  | string {text : Bytes} : PayloadItem .string text (.string text)
  | verb {vtype text : Bytes} (three : vtype.length = 3) :
      PayloadItem .verb (vtype ++ ':'.toUInt8 :: text) (.verb vtype text)

/-- The types that can have a length of -1. -/
inductive NullItem : ReplyType → NilForm → Prop
  | string : NullItem .string .string
  | verb : NullItem .verb .verb
  | aggregate (kind : AggregateKind) : NullItem kind.type (.aggregate kind)

/-- The limit on the number of elements, where one is set. -/
def Admitted (maxelements : Int) (count : Nat) : Prop :=
  maxelements > 0 → (count : Int) ≤ maxelements

instance (maxelements : Int) (count : Nat) : Decidable (Admitted maxelements count) := by
  unfold Admitted
  infer_instance

mutual
/-- The bytes of one value. A payload is followed by one of the `trailers`. -/
inductive FrameWith (trailers : Bytes → Prop) (ffc : DoubleParser Double) (maxelements : Int) :
    ReplyTree → Bytes → Prop
  | line {type : ReplyType} {text : Bytes} {tree : ReplyTree}
      (item : LineItem ffc type text tree) :
      FrameWith trailers ffc maxelements tree (type.byte :: (text ++ crlf))
  | payload {type : ReplyType} {text trailer : Bytes} {tree : ReplyTree}
      (item : PayloadItem type text tree) (small : text.length ≤ llongMax)
      (ends : trailers trailer) :
      FrameWith trailers ffc maxelements tree
        (type.byte :: (Decimal.ofNat text.length ++ crlf ++ (text ++ trailer)))
  | null {type : ReplyType} {form : NilForm} (item : NullItem type form) :
      FrameWith trailers ffc maxelements (.nil form)
        (type.byte :: (Decimal.ofInt (-1) ++ crlf))
  | aggregate {kind : AggregateKind} {count : Nat} {children : List ReplyTree} {bytes : Bytes}
      (counted : children.length = count * kind.arity) (admitted : Admitted maxelements count)
      (small : children.length ≤ llongMax)
      (frames : FramesWith trailers ffc maxelements children bytes) :
      FrameWith trailers ffc maxelements (.aggregate kind children)
        (kind.type.byte :: (Decimal.ofNat count ++ crlf ++ bytes))

/-- The bytes of values one after the other. -/
inductive FramesWith (trailers : Bytes → Prop) (ffc : DoubleParser Double) (maxelements : Int) :
    List ReplyTree → Bytes → Prop
  | nil : FramesWith trailers ffc maxelements [] []
  | cons {tree : ReplyTree} {rest : List ReplyTree} {bytes restBytes : Bytes}
      (frame : FrameWith trailers ffc maxelements tree bytes)
      (frames : FramesWith trailers ffc maxelements rest restBytes) :
      FramesWith trailers ffc maxelements (tree :: rest) (bytes ++ restBytes)
end

/-- Frames in which a payload is followed by any two bytes. -/
abbrev Frame (ffc : DoubleParser Double) (maxelements : Int) : ReplyTree → Bytes → Prop :=
  FrameWith (fun trailer => trailer.length = 2) ffc maxelements

abbrev Frames (ffc : DoubleParser Double) (maxelements : Int) : List ReplyTree → Bytes → Prop :=
  FramesWith (fun trailer => trailer.length = 2) ffc maxelements

/-- Frames in which a payload is followed by `\r\n`. -/
abbrev StrictFrame (ffc : DoubleParser Double) (maxelements : Int) : ReplyTree → Bytes → Prop :=
  FrameWith (· = crlf) ffc maxelements

theorem FrameWith.ne_nil {trailers : Bytes → Prop} {ffc : DoubleParser Double}
    {maxelements : Int} {tree : ReplyTree} {bytes : Bytes}
    (frame : FrameWith trailers ffc maxelements tree bytes) : bytes ≠ [] := by
  cases frame <;> simp

mutual
theorem FrameWith.crlf_suffix {ffc : DoubleParser Double} {maxelements : Int} {tree : ReplyTree}
    {bytes : Bytes} (frame : StrictFrame ffc maxelements tree bytes) : crlf <:+ bytes := by
  cases frame with
  | @line type text _ item => exact ⟨type.byte :: text, by simp⟩
  | @payload type text _ _ item small ends =>
      subst ends
      exact ⟨type.byte :: (Decimal.ofNat text.length ++ crlf ++ text), by simp⟩
  | @null type form item => exact ⟨type.byte :: Decimal.ofInt (-1), by simp⟩
  | @aggregate kind count children bytes counted admitted small frames =>
      rcases frames.crlf_suffix with rfl | ⟨before, rfl⟩
      · exact ⟨kind.type.byte :: Decimal.ofNat count, by simp⟩
      · exact ⟨kind.type.byte :: (Decimal.ofNat count ++ crlf ++ before), by simp⟩

theorem FramesWith.crlf_suffix {ffc : DoubleParser Double} {maxelements : Int}
    {trees : List ReplyTree} {bytes : Bytes}
    (frames : FramesWith (· = crlf) ffc maxelements trees bytes) :
    bytes = [] ∨ crlf <:+ bytes := by
  cases frames with
  | nil => exact Or.inl rfl
  | cons frame frames =>
      right
      rcases frames.crlf_suffix with rfl | last
      · rw [List.append_nil]
        exact frame.crlf_suffix
      · exact last.trans (List.suffix_append _ _)
end

/-! ## Lines -/

theorem typeOfByte_byte (type : ReplyType) : typeOfByte type.byte = some type := by
  cases type <;> decide

theorem ofInt_no_CR (value : Int) : CR ∉ Decimal.ofInt value := by
  have digits := not_mem_of_all_digits (Decimal.isDigit_of_mem_ofNat value.natAbs)
  unfold Decimal.ofInt
  split
  · simpa [CR] using digits
  · exact digits

theorem length_ofInt_of_inLongLong {value : Int} (inRange : InLongLong value) :
    (Decimal.ofInt value).length ≤ 20 := by
  unfold InLongLong at inRange
  have small : value.natAbs < 10 ^ (18 + 1) := by omega
  exact Decimal.length_ofInt_le small

theorem BigNumber.no_CR {text : Bytes} (number : BigNumber text) : CR ∉ text := by
  obtain ⟨digits, _, allDigits, rfl | rfl⟩ := number
  · exact not_mem_of_all_digits allDigits
  · have notMinus : CR ≠ '-'.toUInt8 := by decide
    simpa [notMinus] using not_mem_of_all_digits allDigits

theorem isBignumText_of_digits {digits : Bytes}
    (allDigits : ∀ byte ∈ digits, Decimal.isDigit byte = true) : isBignumText digits = true := by
  cases digits with
  | nil => rfl
  | cons first rest =>
      have tail : rest.all Decimal.isDigit = true :=
        List.all_eq_true.mpr fun byte member => allDigits byte (List.mem_cons_of_mem _ member)
      simp [isBignumText, allDigits first List.mem_cons_self, tail]

theorem BigNumber.isBignumText {text : Bytes} (number : BigNumber text) :
    isBignumText text = true := by
  obtain ⟨digits, _, allDigits, rfl | rfl⟩ := number
  · exact isBignumText_of_digits allDigits
  · simp [Libvalkey.isBignumText, List.all_eq_true.mpr allDigits]

theorem LineItem.ends {ffc : DoubleParser Double} {type : ReplyType} {text : Bytes}
    {tree : ReplyTree} (item : LineItem ffc type text tree) : EndsAtFirstNewline text := by
  cases item with
  | status simple => exact endsAtFirstNewline_of_not_mem simple.1
  | error simple => exact endsAtFirstNewline_of_not_mem simple.1
  | integer inRange => exact endsAtFirstNewline_of_not_mem (ofInt_no_CR _)
  | double ends number => exact ends
  | boolTrue letter => rcases letter with rfl | rfl <;> rfl
  | boolFalse letter => rcases letter with rfl | rfl <;> rfl
  | nil => rfl
  | bignum number => exact endsAtFirstNewline_of_not_mem number.no_CR

/-! ## Limits of `int` -/

mutual
/-- Every line fits an `int` with its `\r\n`. -/
def ReplyTree.ShortLines : ReplyTree → Prop
  | .status text | .error text | .double text | .bignum text => text.length + 2 < 2 ^ 31
  | .aggregate _ children => ReplyTree.AllShortLines children
  | .integer _ | .bool _ | .nil _ | .string _ | .verb _ _ => True

def ReplyTree.AllShortLines : List ReplyTree → Prop
  | [] => True
  | tree :: rest => tree.ShortLines ∧ ReplyTree.AllShortLines rest
end

mutual
/-- The position of every child fits an `int`. -/
def ReplyTree.Countable : ReplyTree → Prop
  | .aggregate _ children => children.length ≤ 2 ^ 31 ∧ ReplyTree.AllCountable children
  | _ => True

def ReplyTree.AllCountable : List ReplyTree → Prop
  | [] => True
  | tree :: rest => tree.Countable ∧ ReplyTree.AllCountable rest
end

end Libvalkey
