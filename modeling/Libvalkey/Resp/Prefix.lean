import Libvalkey.Resp.Grammar

/-! # Beginnings of frames

What has been read of a frame when its bytes run out: some open aggregates with
some of their values, and the beginning of a value. -/

namespace Libvalkey

variable {Double : Type}

/-- The bytes of a value within the limits of `int`. -/
structure Accepted (ffc : DoubleParser Double) (maxelements : Int) (tree : ReplyTree)
    (bytes : Bytes) : Prop where
  frame : Frame ffc maxelements tree bytes
  shortLines : tree.ShortLines
  countable : tree.Countable

def aggregateHeader (kind : AggregateKind) (count : Nat) : Bytes :=
  kind.type.byte :: (Decimal.ofNat count ++ crlf)

/-- The bytes of a frame up to a value in it. For every open aggregate, the
innermost first, there is the number of its values before this one and the
number of all its values. -/
inductive Opens (ffc : DoubleParser Double) (maxelements : Int) :
    List (Nat × Nat) → Bytes → Prop
  | root : Opens ffc maxelements [] []
  | header {levels : List (Nat × Nat)} {before : Bytes} {kind : AggregateKind} {count : Nat}
      (opens : Opens ffc maxelements levels before) (positive : 0 < count)
      (admitted : Admitted maxelements count) (countable : count * kind.arity ≤ 2 ^ 31) :
      Opens ffc maxelements ((0, count * kind.arity) :: levels)
        (before ++ aggregateHeader kind count)
  | value {levels : List (Nat × Nat)} {before bytes : Bytes} {done total : Nat} {tree : ReplyTree}
      (opens : Opens ffc maxelements ((done, total) :: levels) before)
      (accepted : Accepted ffc maxelements tree bytes) (others : done + 1 < total) :
      Opens ffc maxelements ((done + 1, total) :: levels) (before ++ bytes)

/-- The beginning of a value in which a line or a payload has not ended. -/
inductive Unfinished : Bytes → Prop
  | empty : Unfinished []
  | line {type : ReplyType} {text : Bytes} (noEnd : seekNewline text = none) :
      Unfinished (type.byte :: text)
  | payload {type : ReplyType} {length : Nat} {arrived : Bytes}
      (bulk : type = .string ∨ type = .verb) (small : length ≤ llongMax)
      (short : arrived.length < length + 2) :
      Unfinished (type.byte :: (Decimal.ofNat length ++ crlf ++ arrived))

section Grammar

variable {ffc : DoubleParser Double} {maxelements : Int}

theorem FrameWith.frames {tree : ReplyTree} {bytes : Bytes}
    (frame : Frame ffc maxelements tree bytes) : Frames ffc maxelements [tree] bytes := by
  have single := FramesWith.cons frame .nil
  rwa [List.append_nil] at single

theorem FramesWith.append {left right : List ReplyTree} {leftBytes rightBytes : Bytes}
    (leftFrames : Frames ffc maxelements left leftBytes)
    (rightFrames : Frames ffc maxelements right rightBytes) :
    Frames ffc maxelements (left ++ right) (leftBytes ++ rightBytes) := by
  induction left generalizing leftBytes with
  | nil =>
      cases leftFrames
      exact rightFrames
  | cons tree rest induction =>
      cases leftFrames with
      | cons frame frames =>
          rw [List.cons_append, List.append_assoc]
          exact .cons frame (induction frames)

theorem ReplyTree.AllShortLines.append {left right : List ReplyTree}
    (leftShort : ReplyTree.AllShortLines left) (rightShort : ReplyTree.AllShortLines right) :
    ReplyTree.AllShortLines (left ++ right) := by
  induction left with
  | nil => exact rightShort
  | cons tree rest induction => exact ⟨leftShort.1, induction leftShort.2⟩

theorem ReplyTree.AllCountable.append {left right : List ReplyTree}
    (leftCountable : ReplyTree.AllCountable left)
    (rightCountable : ReplyTree.AllCountable right) :
    ReplyTree.AllCountable (left ++ right) := by
  induction left with
  | nil => exact rightCountable
  | cons tree rest induction => exact ⟨leftCountable.1, induction leftCountable.2⟩

/-- The innermost open aggregate: its header and the values that are done. -/
theorem Opens.innermost {levels : List (Nat × Nat)} {bytes : Bytes} {done total : Nat}
    (opens : Opens ffc maxelements ((done, total) :: levels) bytes) :
    ∃ before kind count children childBytes, Opens ffc maxelements levels before ∧
      0 < count ∧ Admitted maxelements count ∧ count * kind.arity ≤ 2 ^ 31 ∧
      total = count * kind.arity ∧ children.length = done ∧
      Frames ffc maxelements children childBytes ∧ ReplyTree.AllShortLines children ∧
      ReplyTree.AllCountable children ∧
      bytes = before ++ (aggregateHeader kind count ++ childBytes) := by
  generalize levelsEq : (done, total) :: levels = all at opens
  induction opens generalizing done total levels with
  | root => simp at levelsEq
  | @header outer before kind count opens positive admitted countable _ =>
      simp only [List.cons.injEq, Prod.mk.injEq] at levelsEq
      obtain ⟨⟨rfl, rfl⟩, rfl⟩ := levelsEq
      exact ⟨before, kind, count, [], [], opens, positive, admitted, countable, rfl, rfl, .nil,
        trivial, trivial, by simp⟩
  | @value outer before bytes earlier all tree opens accepted others induction =>
      simp only [List.cons.injEq, Prod.mk.injEq] at levelsEq
      obtain ⟨⟨rfl, rfl⟩, rfl⟩ := levelsEq
      obtain ⟨start, kind, count, children, childBytes, outerOpens, positive, admitted, countable,
        counted, length, frames, short, allCountable, rfl⟩ := induction rfl
      refine ⟨start, kind, count, children ++ [tree], childBytes ++ bytes, outerOpens, positive,
        admitted, countable, counted, by simp [length], ?_,
        short.append ⟨accepted.shortLines, trivial⟩,
        allCountable.append ⟨accepted.countable, trivial⟩, by simp⟩
      exact frames.append accepted.frame.frames

theorem Opens.bound {levels : List (Nat × Nat)} {bytes : Bytes} {done total : Nat}
    (opens : Opens ffc maxelements ((done, total) :: levels) bytes) :
    done < total ∧ total ≤ 2 ^ 31 := by
  obtain ⟨_, kind, count, _, _, _, positive, _, countable, counted, _⟩ := opens.innermost
  refine ⟨?_, counted ▸ countable⟩
  generalize levelsEq : (done, total) :: levels = all at opens
  cases opens with
  | root => simp at levelsEq
  | @header _ _ kind count _ positive _ _ =>
      simp only [List.cons.injEq, Prod.mk.injEq] at levelsEq
      obtain ⟨⟨rfl, rfl⟩, _⟩ := levelsEq
      exact Nat.mul_pos positive (by cases kind <;> decide)
  | value _ _ others =>
      simp only [List.cons.injEq, Prod.mk.injEq] at levelsEq
      obtain ⟨⟨rfl, rfl⟩, _⟩ := levelsEq
      exact others

theorem Opens.starts {levels : List (Nat × Nat)} {bytes : Bytes}
    (opens : Opens ffc maxelements levels bytes) :
    (levels = [] ∧ bytes = []) ∨ ∃ kind tail, bytes = (AggregateKind.type kind).byte :: tail := by
  induction opens with
  | root => exact Or.inl ⟨rfl, rfl⟩
  | header opens positive admitted countable induction =>
      rcases induction with ⟨rfl, rfl⟩ | ⟨kind, tail, rfl⟩
      · exact Or.inr ⟨_, _, rfl⟩
      · exact Or.inr ⟨kind, _, rfl⟩
  | value opens accepted others induction =>
      obtain ⟨kind, tail, rfl⟩ := induction.resolve_left (by simp)
      exact Or.inr ⟨kind, _, rfl⟩

/-- The last value of an aggregate completes it. -/
theorem Opens.close {levels : List (Nat × Nat)} {bytes item : Bytes} {done total : Nat}
    {tree : ReplyTree} (opens : Opens ffc maxelements ((done, total) :: levels) bytes)
    (accepted : Accepted ffc maxelements tree item) (last : done + 1 = total) :
    ∃ before whole wholeBytes, Opens ffc maxelements levels before ∧
      Accepted ffc maxelements whole wholeBytes ∧ bytes ++ item = before ++ wholeBytes := by
  obtain ⟨before, kind, count, children, childBytes, outerOpens, positive, admitted, countable,
    counted, length, frames, short, allCountable, rfl⟩ := opens.innermost
  have counted' : (children ++ [tree]).length = count * kind.arity := by
    simp
    omega
  have small : (children ++ [tree]).length ≤ llongMax := by
    unfold llongMax
    omega
  refine ⟨before, .aggregate kind (children ++ [tree]), _, outerOpens,
    ⟨.aggregate counted' admitted small (frames.append accepted.frame.frames),
      short.append ⟨accepted.shortLines, trivial⟩, by omega,
      allCountable.append ⟨accepted.countable, trivial⟩⟩, ?_⟩
  simp [aggregateHeader]

/-! ## Proper prefixes -/

/-- The bytes up to the `\r\n` of a line. -/
theorem unfinished_of_line {type : ReplyType} {text arrived left : Bytes}
    (ends : EndsAtFirstNewline text) (split : type.byte :: (text ++ crlf) = arrived ++ left)
    (some : left ≠ []) : Unfinished arrived := by
  cases arrived with
  | nil => exact .empty
  | cons byte arrived =>
      rw [List.cons_append, List.cons.injEq] at split
      obtain ⟨rfl, split⟩ := split
      cases found : seekNewline arrived with
      | none => exact .line found
      | some offset =>
          have later := seekNewline_append left found
          rw [← split, crlf, ends, Option.some.injEq] at later
          have bound := seekNewline_bound found
          have lengths := congrArg List.length split
          have positive := List.length_pos_iff.mpr some
          simp only [List.length_append, crlf, List.length_cons, List.length_nil] at lengths
          omega

theorem split_inside_or_beyond (first : Bytes) {second arrived left : Bytes}
    (split : first ++ second = arrived ++ left) :
    (∃ inside, inside ≠ [] ∧ first = arrived ++ inside) ∨
      ∃ beyond, arrived = first ++ beyond ∧ second = beyond ++ left := by
  rcases List.append_eq_append_iff.mp split with ⟨beyond, rfl, rest⟩ | ⟨inside, whole, rest⟩
  · exact Or.inr ⟨beyond, rfl, rest⟩
  · cases inside with
    | nil => exact Or.inr ⟨[], by simp [whole], by simpa using rest.symm⟩
    | cons byte inside => exact Or.inl ⟨_, List.cons_ne_nil byte inside, whole⟩

/-- The bytes of a frame run out in its first line or after it. -/
theorem unfinished_or_beyond_line {type : ReplyType} {text body arrived left : Bytes}
    (ends : EndsAtFirstNewline text)
    (split : type.byte :: (text ++ crlf ++ body) = arrived ++ left) :
    Unfinished arrived ∨
      ∃ inBody, arrived = type.byte :: (text ++ crlf ++ inBody) ∧ body = inBody ++ left := by
  rcases split_inside_or_beyond (type.byte :: (text ++ crlf)) split with
    ⟨inside, some, line⟩ | ⟨inBody, rfl, rest⟩
  · exact Or.inl (unfinished_of_line ends line some)
  · exact Or.inr ⟨inBody, rfl, rest⟩

mutual
/-- Any proper prefix of a frame ends in the beginning of a value. -/
theorem FrameWith.opens_of_prefix {tree : ReplyTree} {bytes : Bytes}
    (frame : Frame ffc maxelements tree bytes) (short : tree.ShortLines)
    (countable : tree.Countable) {levels : List (Nat × Nat)} {before : Bytes}
    (opens : Opens ffc maxelements levels before) {arrived left : Bytes}
    (split : bytes = arrived ++ left) (some : left ≠ []) :
    ∃ inner middle line, Opens ffc maxelements inner (before ++ middle) ∧ Unfinished line ∧
      arrived = middle ++ line := by
  have here : Unfinished arrived → ∃ inner middle line,
      Opens ffc maxelements inner (before ++ middle) ∧ Unfinished line ∧
        arrived = middle ++ line :=
    fun unfinished => ⟨levels, [], arrived, by rwa [List.append_nil], unfinished, rfl⟩
  cases frame with
  | line item => exact here (unfinished_of_line item.ends split some)
  | null item =>
      exact here (unfinished_of_line (endsAtFirstNewline_of_not_mem (ofInt_no_CR _)) split some)
  | @payload type text trailer _ item small two =>
      have ends := endsAtFirstNewline_of_not_mem (ofInt_no_CR (text.length : Int))
      rw [ofInt_natCast] at ends
      rcases unfinished_or_beyond_line ends split with unfinished | ⟨inBody, rfl, body⟩
      · exact here unfinished
      · refine here (.payload (by cases item <;> simp) small ?_)
        have lengths := congrArg List.length body
        have positive := List.length_pos_iff.mpr some
        simp only [List.length_append, two] at lengths
        omega
  | @aggregate kind count children childBytes counted admitted small frames =>
      have ends := endsAtFirstNewline_of_not_mem (ofInt_no_CR (count : Int))
      rw [ofInt_natCast] at ends
      rcases unfinished_or_beyond_line ends split with unfinished | ⟨inBody, rfl, body⟩
      · exact here unfinished
      · have someChildren : children ≠ [] := by
          rintro rfl
          cases frames
          simp [some] at body
        have positive : 0 < count := by
          by_contra zero
          obtain rfl : count = 0 := by omega
          exact someChildren (List.length_eq_zero_iff.mp (by omega))
        have inside : Opens ffc maxelements ((0, count * kind.arity) :: levels) _ :=
          .header opens positive admitted (counted ▸ countable.1)
        obtain ⟨inner, middle, line, innerOpens, unfinished, rfl⟩ :=
          frames.opens_of_prefix short countable.2 inside (by omega) body some
        refine ⟨inner, aggregateHeader kind count ++ middle, line, ?_, unfinished, ?_⟩
        · rwa [← List.append_assoc]
        · simp [aggregateHeader]

theorem FramesWith.opens_of_prefix {trees : List ReplyTree} {bytes : Bytes}
    (frames : Frames ffc maxelements trees bytes) (short : ReplyTree.AllShortLines trees)
    (countable : ReplyTree.AllCountable trees) {levels : List (Nat × Nat)} {before : Bytes}
    {done total : Nat} (opens : Opens ffc maxelements ((done, total) :: levels) before)
    (counted : done + trees.length = total) {arrived left : Bytes}
    (split : bytes = arrived ++ left) (some : left ≠ []) :
    ∃ inner middle line, Opens ffc maxelements inner (before ++ middle) ∧ Unfinished line ∧
      arrived = middle ++ line := by
  cases frames with
  | nil => simp [some] at split
  | @cons tree rest bytes restBytes frame frames =>
      rcases split_inside_or_beyond _ split with ⟨inFirst, proper, first⟩ | ⟨inRest, rfl, others⟩
      · exact frame.opens_of_prefix short.1 countable.1 opens first proper
      · have someTrees : rest ≠ [] := by
          rintro rfl
          cases frames
          simp [some] at others
        have later := List.length_pos_iff.mpr someTrees
        rw [List.length_cons] at counted
        have next := Opens.value opens ⟨frame, short.1, countable.1⟩ (by omega)
        obtain ⟨inner, middle, line, innerOpens, unfinished, rfl⟩ :=
          frames.opens_of_prefix short.2 countable.2 next (by omega) others some
        refine ⟨inner, bytes ++ middle, line, ?_, unfinished, by simp⟩
        rwa [← List.append_assoc]
end

end Grammar

end Libvalkey
