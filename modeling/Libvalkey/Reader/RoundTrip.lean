import Libvalkey.Reader.Decode
import Libvalkey.Reader.Stream

/-! # Decoding an encoded tree

A tree is encoded, followed by other bytes, fed to a new reader and read back
from the heap. The only trees that do not come back are those with a line that
is too long for the `int` in which the reader keeps its length. -/

namespace Libvalkey

open ValkeyReader

variable {Double : Type}

/-! ## Encoding -/

def encodeLine (type : ReplyType) (text : Bytes) : Bytes := type.byte :: (text ++ crlf)

def encodePayload (type : ReplyType) (text : Bytes) : Bytes :=
  type.byte :: (Decimal.ofNat text.length ++ crlf ++ (text ++ crlf))

def NilForm.type : NilForm → ReplyType
  | .null => .nil
  | .string => .string
  | .verb => .verb
  | .aggregate kind => kind.type

mutual
def ReplyTree.encode : ReplyTree → Bytes
  | .status text => encodeLine .status text
  | .error text => encodeLine .error text
  | .integer value => encodeLine .integer (Decimal.ofInt value)
  | .double text => encodeLine .double text
  | .bool value => encodeLine .bool (if value then ascii "t" else ascii "f")
  | .nil .null => encodeLine .nil []
  | .nil form => encodeLine form.type (Decimal.ofInt (-1))
  | .bignum text => encodeLine .bignum text
  | .string text => encodePayload .string text
  | .verb vtype text => encodePayload .verb (vtype ++ ':'.toUInt8 :: text)
  | .aggregate kind children =>
      kind.type.byte ::
        (Decimal.ofNat (children.length / kind.arity) ++ crlf ++ ReplyTree.encodeAll children)

def ReplyTree.encodeAll : List ReplyTree → Bytes
  | [] => []
  | tree :: rest => tree.encode ++ ReplyTree.encodeAll rest
end

mutual
/-- The trees of the protocol: texts that fit their types and counts below `2^30`. -/
def ReplyTree.Encodable (ffc : DoubleParser Double) (maxelements : Int) : ReplyTree → Prop
  | .status text | .error text => Simple text
  | .integer value => InLongLong value
  | .double text =>
      EndsAtFirstNewline text ∧ ∃ value, doubleValue ffc text text.length = some value
  | .bignum text => BigNumber text
  | .verb vtype _ => vtype.length = 3
  | .aggregate kind children =>
      (∃ count, children.length = count * kind.arity ∧ Admitted maxelements count ∧
        count < 2 ^ 30) ∧ ReplyTree.AllEncodable ffc maxelements children
  | .bool _ | .nil _ | .string _ => True

def ReplyTree.AllEncodable (ffc : DoubleParser Double) (maxelements : Int) :
    List ReplyTree → Prop
  | [] => True
  | tree :: rest =>
      tree.Encodable ffc maxelements ∧ ReplyTree.AllEncodable ffc maxelements rest
end

section Encoding

variable {ffc : DoubleParser Double} {maxelements : Int}

theorem AggregateKind.arity_cases (kind : AggregateKind) : kind.arity = 1 ∨ kind.arity = 2 := by
  cases kind <;> simp [AggregateKind.arity]

mutual
theorem ReplyTree.Encodable.frame {tree : ReplyTree}
    (encodable : tree.Encodable ffc maxelements) (small : tree.encode.length ≤ llongMax) :
    Frame ffc maxelements tree tree.encode := by
  cases tree with
  | status text => exact .line (.status encodable)
  | error text => exact .line (.error encodable)
  | integer value => exact .line (.integer encodable)
  | double text =>
      obtain ⟨ends, value, number⟩ := encodable
      exact .line (.double ends number)
  | bool value =>
      cases value with
      | true => exact .line (.boolTrue (Or.inl rfl))
      | false => exact .line (.boolFalse (Or.inl rfl))
  | nil form =>
      cases form with
      | null => exact .line .nil
      | string => exact .null .string
      | verb => exact .null .verb
      | aggregate kind => exact .null (.aggregate kind)
  | bignum text => exact .line (.bignum encodable)
  | string text =>
      refine .payload .string ?_ rfl
      simp only [ReplyTree.encode, encodePayload, List.length_cons, List.length_append] at small
      omega
  | verb vtype text =>
      refine .payload (.verb encodable) ?_ rfl
      simp only [ReplyTree.encode, encodePayload, List.length_cons, List.length_append] at small ⊢
      omega
  | aggregate kind children =>
      obtain ⟨⟨count, counted, admitted, few⟩, all⟩ := encodable
      have quotient : children.length / kind.arity = count := by
        rcases kind.arity_cases with one | two
        · rw [counted, one]
          omega
        · rw [counted, two]
          omega
      have total : children.length ≤ llongMax := by
        unfold llongMax
        rcases kind.arity_cases with one | two
        · rw [counted, one]
          omega
        · rw [counted, two]
          omega
      simp only [ReplyTree.encode, quotient, List.length_cons, List.length_append] at small ⊢
      exact .aggregate counted admitted total (ReplyTree.AllEncodable.frames all (by omega))

theorem ReplyTree.AllEncodable.frames {trees : List ReplyTree}
    (encodable : ReplyTree.AllEncodable ffc maxelements trees)
    (small : (ReplyTree.encodeAll trees).length ≤ llongMax) :
    Frames ffc maxelements trees (ReplyTree.encodeAll trees) := by
  cases trees with
  | nil => exact .nil
  | cons tree rest =>
      simp only [ReplyTree.encodeAll, List.length_append] at small ⊢
      exact .cons (ReplyTree.Encodable.frame encodable.1 (by omega))
        (ReplyTree.AllEncodable.frames encodable.2 (by omega))
end

mutual
theorem ReplyTree.Encodable.countable {tree : ReplyTree}
    (encodable : tree.Encodable ffc maxelements) : tree.Countable := by
  cases tree with
  | aggregate kind children =>
      obtain ⟨⟨count, counted, _, few⟩, all⟩ := encodable
      refine ⟨?_, ReplyTree.AllEncodable.countable all⟩
      rcases kind.arity_cases with one | two
      · rw [counted, one]
        omega
      · rw [counted, two]
        omega
  | _ => exact trivial

theorem ReplyTree.AllEncodable.countable {trees : List ReplyTree}
    (encodable : ReplyTree.AllEncodable ffc maxelements trees) :
    ReplyTree.AllCountable trees := by
  cases trees with
  | nil => exact trivial
  | cons tree rest =>
      exact ⟨ReplyTree.Encodable.countable encodable.1,
        ReplyTree.AllEncodable.countable encodable.2⟩
end

end Encoding

/-! ## Trees held by a heap -/

def ReplyTree.children : ReplyTree → List ReplyTree
  | .aggregate _ children => children
  | _ => []

mutual
/-- The object at an address and those below it are the ones of a tree. -/
inductive Holds (ffc : DoubleParser Double) (heap : ReplyHeap Double) : Nat → ReplyTree → Prop
  | mk {address : Nat} {tree : ReplyTree} {addresses : List (Option Nat)}
      (object : heap[address]? = some (some (tree.object ffc addresses)))
      (children : HoldsAll ffc heap addresses tree.children) : Holds ffc heap address tree

inductive HoldsAll (ffc : DoubleParser Double) (heap : ReplyHeap Double) :
    List (Option Nat) → List ReplyTree → Prop
  | nil : HoldsAll ffc heap [] []
  | cons {address : Nat} {tree : ReplyTree} {addresses : List (Option Nat)}
      {rest : List ReplyTree} (first : Holds ffc heap address tree)
      (others : HoldsAll ffc heap addresses rest) :
      HoldsAll ffc heap (some address :: addresses) (tree :: rest)
end

section Heap

mutual
theorem ReplyTree.holds_layout (ffc : DoubleParser Double) (tree : ReplyTree)
    (before after : ReplyHeap Double) :
    Holds ffc (before ++ tree.layout ffc before.length ++ after) before.length tree := by
  cases tree with
  | aggregate kind children =>
      have below := ReplyTree.holdsAll_layoutAll ffc children
        (before ++ [some ((ReplyTree.aggregate kind children).object ffc
          (ReplyTree.addresses (before.length + 1) children))]) after
      simp only [List.length_append, List.length_singleton, List.append_assoc] at below
      have object : (before ++ (ReplyTree.aggregate kind children).layout ffc before.length ++
          after)[before.length]? = some (some ((ReplyTree.aggregate kind children).object ffc
            (ReplyTree.addresses (before.length + 1) children))) := by
        simp [ReplyTree.layout]
      exact .mk object (by simpa [ReplyTree.layout, ReplyTree.children] using below)
  | _ =>
      refine .mk ?_ .nil
      simp [ReplyTree.layout]

theorem ReplyTree.holdsAll_layoutAll (ffc : DoubleParser Double) (trees : List ReplyTree)
    (before after : ReplyHeap Double) :
    HoldsAll ffc (before ++ ReplyTree.layoutAll ffc before.length trees ++ after)
      (ReplyTree.addresses before.length trees) trees := by
  cases trees with
  | nil => exact .nil
  | cons tree rest =>
      have first := ReplyTree.holds_layout ffc tree before
        (ReplyTree.layoutAll ffc (before.length + tree.size) rest ++ after)
      have others := ReplyTree.holdsAll_layoutAll ffc rest
        (before ++ tree.layout ffc before.length) after
      simp only [List.length_append, ReplyTree.length_layout] at others
      exact .cons (by simpa [ReplyTree.layoutAll] using first)
        (by simpa [ReplyTree.layoutAll] using others)
end

end Heap

/-! ## Decoding -/

section Decoding

variable {ffc : DoubleParser Double}

/-- The next call on a reader that stands at a frame returns its tree. -/
theorem valkeyReaderGetReply_frame (more : Bytes) {maxelements : Int} {tree : ReplyTree}
    {bytes : Bytes}
    (frame : Frame ffc maxelements tree bytes) (short : tree.ShortLines)
    (countable : tree.Countable) (r : ValkeyReader (ReplyHeap Double) Nat)
    (alive : r.err = none) (idle : r.task = []) (limit : r.maxelements = maxelements)
    (inside : r.pos ≤ r.buf.length) (unread : r.unread = bytes ++ more) :
    ∃ tasks, valkeyReaderGetReply ffc (defaultFunctions Double) r =
      (.ok, some r.heap.length,
        { r with
          pos := r.pos + bytes.length
          tasks := tasks
          reply := none
          heap := r.heap ++ tree.layout ffc r.heap.length }) := by
  have started : startReply r = { r with task := [rootTask] } := by rw [startReply, if_pos idle]
  have atValue : AtValue (startReply r) rootTask [] (bytes ++ more) := by
    rw [started]
    exact ⟨alive, rfl, rfl, unread, inside, fun _ found => by simp at found⟩
  obtain ⟨obj, tasks, steps⟩ := frame.steps short countable _ rootTask [] more
    (by rw [started]; exact limit) atValue
  have processed := steps.processItems_eq rfl
    (show (startReply r).unread.length < r.unread.length + 1 by
      rw [(startReply_fields r).1]
      omega)
  have someBytes : r.buf.length ≠ 0 := by
    have lengths := congrArg List.length unread
    have positive := List.length_pos_iff.mpr frame.ne_nil
    simp only [ValkeyReader.unread, List.length_drop, List.length_append] at lengths
    omega
  refine ⟨tasks, ?_⟩
  rw [valkeyReaderGetReply, if_neg (not_not.mpr alive), if_neg someBytes, processed, started]
  simp [afterValue, alive, idle, moveToNextTask, setElement]

/-! ## Long lines -/

/-- The types whose text is a line. -/
def ReplyType.hasLine : ReplyType → Bool
  | .status | .error | .double | .bignum => true
  | _ => false

/-- No object has a line that is too long for an `int` with its `\r\n`. -/
def LinesFit (heap : ReplyHeap Double) : Prop :=
  ∀ object, some object ∈ heap → object.type.hasLine = true → object.len + 2 < 2 ^ 31

theorem LinesFit.setElement {heap : ReplyHeap Double} (fit : LinesFit heap)
    (task : ReadTask Nat) (parent : Option (ReadTask Nat)) (r : Nat) :
    LinesFit (setElement heap task parent r) := by
  unfold Libvalkey.setElement
  split
  · exact fit
  · rename_i obj _
    intro object member line
    by_cases bound : obj < heap.length
    · rw [List.modify_eq_take_cons_drop bound] at member
      rcases List.mem_append.mp member with before | here
      · exact fit object (List.mem_of_mem_take before) line
      · rcases List.mem_cons.mp here with same | after
        · obtain ⟨old, found, rfl⟩ := Option.map_eq_some_iff.mp same.symm
          exact fit old (found ▸ List.getElem_mem bound) line
        · exact fit object (List.mem_of_mem_drop after) line
    · rw [List.modify_eq_self (by omega)] at member
      exact fit object member line

theorem LinesFit.addObject {heap : ReplyHeap Double} (fit : LinesFit heap)
    (task : ReadTask Nat) (parent : Option (ReadTask Nat)) {object : ReplyObject Double}
    (line : object.type.hasLine = true → object.len + 2 < 2 ^ 31) :
    LinesFit (addObject heap task parent object).2 := by
  apply LinesFit.setElement
  intro other member otherLine
  rcases List.mem_append.mp member with old | new
  · exact fit other old otherLine
  · obtain rfl : other = object := by simpa using new
    exact line otherLine

theorem LinesFit.addObject_of_empty {heap : ReplyHeap Double} (fit : LinesFit heap)
    (task : ReadTask Nat) (parent : Option (ReadTask Nat)) {object : ReplyObject Double}
    (empty : object.len = 0) : LinesFit (Libvalkey.addObject heap task parent object).2 :=
  fit.addObject task parent fun _ => by rw [empty]; omega

theorem LinesFit.createStringObject {heap : ReplyHeap Double} (fit : LinesFit heap)
    {task : ReadTask Nat} (parent : Option (ReadTask Nat)) (str : Bytes) {len : Nat}
    {type : ReplyType} (known : task.type = some type)
    (line : type.hasLine = true → len ≤ ssizeMax → len + 2 < 2 ^ 31) :
    LinesFit (createStringObject heap task parent str len).2 := by
  unfold Libvalkey.createStringObject copyString
  by_cases small : len ≤ ssizeMax
  · simp only [if_pos small, known, Option.getD_some]
    split
    · rename_i verb
      exact fit.addObject task parent (by simp [createReplyObject, verb, ReplyType.hasLine])
    · exact fit.addObject task parent fun hasLine => line hasLine small
  · simpa only [if_neg small] using fit

theorem LinesFit.createDoubleObject {heap : ReplyHeap Double} (fit : LinesFit heap)
    (task : ReadTask Nat) (parent : Option (ReadTask Nat)) (value : Double) (str : Bytes)
    {len : Nat} (line : len ≤ ssizeMax → len + 2 < 2 ^ 31) :
    LinesFit (createDoubleObject heap task parent value str len).2 := by
  unfold Libvalkey.createDoubleObject copyString
  by_cases small : len ≤ ssizeMax
  · simp only [if_pos small]
    exact fit.addObject task parent fun _ => line small
  · simpa only [if_neg small] using fit

/-- What a step keeps unless the addition in `readLine` has overflowed. -/
def KeepsLines (r : ValkeyReader (ReplyHeap Double) Nat)
    (result : Status × ValkeyReader (ReplyHeap Double) Nat) : Prop :=
  (result.1 = .err → result.2.err = none) → result.2.overflow = false →
    r.overflow = false ∧ (LinesFit r.heap → LinesFit result.2.heap)

theorem keepsLines_setError {r : ValkeyReader (ReplyHeap Double) Nat}
    (next : ValkeyReader (ReplyHeap Double) Nat) (type : ErrorType) (str : String) :
    KeepsLines r (.err, valkeyReaderSetError (defaultFunctions Double) next type str) :=
  fun alive => absurd (alive rfl) (setError_err _ next type str)

theorem keepsLines_leaves {r next : ValkeyReader (ReplyHeap Double) Nat}
    (leaves : Leaves r (.err, next)) : KeepsLines r (.err, next) := by
  intro alive fits
  obtain ⟨_, _, _, heap, overflow⟩ := leaves (alive rfl)
  exact ⟨overflow ▸ fits, fun fit => by rw [heap]; exact fit⟩

theorem keepsLines_acceptObject {r next : ValkeyReader (ReplyHeap Double) Nat}
    {created : Option Nat × ReplyHeap Double}
    (kept : next.overflow = false → r.overflow = false)
    (fit : next.overflow = false → LinesFit r.heap → LinesFit created.2) :
    KeepsLines r (acceptObject (defaultFunctions Double) next created) := by
  obtain ⟨obj, heap⟩ := created
  cases obj with
  | none => exact keepsLines_setError _ _ _
  | some obj => exact fun _ fits => ⟨kept fits, fit fits⟩

theorem readLine_eq_some {r next : ValkeyReader (ReplyHeap Double) Nat} {p : Bytes} {len : Int}
    (line : readLine r = some (p, len, next)) :
    -2 ^ 31 ≤ len ∧ ∃ pos, next = { r with
      pos := pos, overflow := r.overflow || decide (2 ^ 31 ≤ len + 2) } := by
  unfold readLine at line
  split at line
  · simp at line
  · rename_i offset _
    simp only [Option.some.injEq, Prod.mk.injEq] at line
    obtain ⟨_, rfl, rfl⟩ := line
    refine ⟨?_, _, rfl⟩
    have lower := Int.le_bmod (x := (offset : Int)) (show 0 < 2 ^ 32 by decide)
    unfold toInt32
    omega

/-- A length that went below zero is too large for a string. -/
theorem toSize_fits {len : Int} (lower : -2 ^ 31 ≤ len) (noOverflow : len + 2 < 2 ^ 31)
    (small : toSize len ≤ ssizeMax) : toSize len + 2 < 2 ^ 31 := by
  unfold toSize ssizeMax at *
  omega

/-- An object made from a line of that length fits. -/
theorem LinesFit.lineObject {heap : ReplyHeap Double} (fit : LinesFit heap)
    {cur : ReadTask Nat} {type : ReplyType} (known : cur.type = some type)
    (parent : Option (ReadTask Nat)) (p : Bytes) {len : Int} (lower : -2 ^ 31 ≤ len)
    (short : len + 2 < 2 ^ 31) {created : Option Nat × ReplyHeap Double}
    (object : lineObject ffc (defaultFunctions Double) heap cur parent p len = .ok created) :
    LinesFit created.2 := by
  have string : ∀ str, LinesFit (Libvalkey.createStringObject heap cur parent str (toSize len)).2 :=
    fun str => fit.createStringObject parent str known fun _ => toSize_fits lower short
  unfold Libvalkey.lineObject at object
  rw [known] at object
  cases type with
  | integer =>
      simp only at object
      split at object
      · simp at object
      · cases object
        exact fit.addObject_of_empty cur parent rfl
  | double =>
      simp only at object
      split at object
      · simp at object
      · cases object
        exact fit.createDoubleObject cur parent _ _ (toSize_fits lower short)
  | nil =>
      simp only at object
      split at object
      · simp at object
      · cases object
        exact fit.addObject_of_empty cur parent rfl
  | bool =>
      simp only at object
      split at object
      · simp at object
      · cases object
        exact fit.addObject_of_empty cur parent rfl
  | bignum =>
      simp only at object
      split at object
      · cases object
        exact string _
      · simp at object
  | _ =>
      simp only at object
      split at object
      · simp at object
      · cases object
        exact string _

theorem keepsLines_processLineItem {r : ValkeyReader (ReplyHeap Double) Nat}
    {cur : ReadTask Nat} {rest : List (ReadTask Nat)} (task : r.task = cur :: rest)
    {type : ReplyType} (known : cur.type = some type) :
    KeepsLines r (processLineItem ffc (defaultFunctions Double) r) := by
  cases line : readLine r with
  | none =>
      simp only [processLineItem, task, line]
      exact keepsLines_leaves leaves_self
  | some found =>
      obtain ⟨p, len, next⟩ := found
      rw [processLineItem_of_line ffc _ task line]
      obtain ⟨lower, pos, rfl⟩ := readLine_eq_some line
      split
      · exact keepsLines_setError _ _ _
      · rename_i created object
        apply keepsLines_acceptObject
        · exact fun kept => (Bool.or_eq_false_iff.mp kept).1
        · intro kept fit
          have short := of_decide_eq_false (Bool.or_eq_false_iff.mp kept).2
          exact fit.lineObject known rest.head? p lower (by omega) object

theorem keepsLines_processBulkItem {r : ValkeyReader (ReplyHeap Double) Nat}
    {cur : ReadTask Nat} {rest : List (ReadTask Nat)} (task : r.task = cur :: rest)
    {type : ReplyType} (known : cur.type = some type) (noLine : type.hasLine = false) :
    KeepsLines r (processBulkItem (defaultFunctions Double) r) := by
  simp only [processBulkItem, task]
  split
  · exact keepsLines_leaves leaves_self
  · split
    · exact keepsLines_setError _ _ _
    · split
      · exact keepsLines_setError _ _ _
      · unfold processBulkPayload
        dsimp only
        split
        · exact keepsLines_acceptObject id fun _ fit => fit.addObject_of_empty cur _ rfl
        · split
          · split
            · exact keepsLines_setError _ _ _
            · exact keepsLines_acceptObject id fun _ fit =>
                fit.createStringObject _ _ known (by simp [noLine])
          · exact keepsLines_leaves leaves_self

theorem keepsLines_processAggregateHeader {r next : ValkeyReader (ReplyHeap Double) Nat}
    (sameHeap : next.heap = r.heap) (kept : next.overflow = false → r.overflow = false)
    (cur : ReadTask Nat) (rest : List (ReadTask Nat)) (elements : Int) :
    KeepsLines r (processAggregateHeader (defaultFunctions Double) next cur rest
      elements) := by
  unfold processAggregateHeader
  split
  · exact keepsLines_setError _ _ _
  · split
    · exact keepsLines_acceptObject kept fun _ fit => by
        rw [sameHeap]
        exact fit.addObject_of_empty cur _ rfl
    · split
      · exact keepsLines_setError _ _ _
      · have fits : LinesFit r.heap → LinesFit (createArrayObject next.heap cur rest.head?
            (elements * (childrenPerElement cur.type : Int)).toNat).2 := fun fit => by
          rw [sameHeap]
          exact fit.addObject_of_empty cur _ rfl
        dsimp only
        split
        · split
          · exact keepsLines_setError _ _ _
          · rename_i obj heap created
            refine fun _ noOverflow => ⟨kept noOverflow, fun fit => ?_⟩
            have result := fits fit
            rwa [show createArrayObject _ _ _ _ = _ from created] at result
        · exact keepsLines_acceptObject kept fun _ => fits

theorem keepsLines_processAggregateItem {r : ValkeyReader (ReplyHeap Double) Nat}
    {cur : ReadTask Nat} {rest : List (ReadTask Nat)} (task : r.task = cur :: rest) :
    KeepsLines r (processAggregateItem (defaultFunctions Double) r) := by
  obtain ⟨tasks, grown⟩ := growForChild_eq r
  cases line : readLine (growForChild r) with
  | none =>
      simp only [processAggregateItem, task, line]
      rw [grown]
      exact fun _ fits => ⟨fits, id⟩
  | some found =>
      obtain ⟨p, len, next⟩ := found
      rw [processAggregateItem_of_line _ task line]
      obtain ⟨_, pos, rfl⟩ := readLine_eq_some line
      split
      · exact keepsLines_setError _ _ _
      · apply keepsLines_processAggregateHeader
        · rw [grown]
        · rw [grown]
          exact fun kept => (Bool.or_eq_false_iff.mp kept).1

theorem keepsLines_processTypedItem {r : ValkeyReader (ReplyHeap Double) Nat}
    {cur : ReadTask Nat} {rest : List (ReadTask Nat)} (task : r.task = cur :: rest)
    {type : ReplyType} (known : cur.type = some type) :
    KeepsLines r (processTypedItem ffc (defaultFunctions Double) r type) := by
  cases type with
  | error | status | integer | double | nil | bool | bignum =>
      exact keepsLines_processLineItem task known
  | string | verb => exact keepsLines_processBulkItem task known rfl
  | array | map | attr | set | push => exact keepsLines_processAggregateItem task

theorem keepsLines_processItem (ffc : DoubleParser Double)
    {r : ValkeyReader (ReplyHeap Double) Nat} (busy : r.task ≠ []) :
    KeepsLines r (processItem ffc (defaultFunctions Double) r) := by
  obtain ⟨cur, rest, task⟩ := List.exists_cons_of_ne_nil busy
  cases known : cur.type with
  | some type =>
      rw [processItem_of_type ffc _ task known]
      exact keepsLines_processTypedItem task known
  | none =>
      cases unread : r.unread with
      | nil =>
          rw [processItem_of_empty ffc _ task known unread]
          exact keepsLines_leaves leaves_self
      | cons byte bytes =>
          rw [processItem_of_byte ffc _ task known unread]
          split
          · exact keepsLines_setError _ _ _
          · exact keepsLines_processTypedItem (r := typed r cur rest _) rfl rfl

/-- Over all the items of a reply. -/
theorem processItems_linesFit (ffc : DoubleParser Double) (fuel : Nat)
    (r : ValkeyReader (ReplyHeap Double) Nat)
    (alive : (processItems ffc (defaultFunctions Double) fuel r).err = none)
    (noOverflow : (processItems ffc (defaultFunctions Double) fuel r).overflow = false) :
    r.overflow = false ∧
      (LinesFit r.heap → LinesFit (processItems ffc (defaultFunctions Double) fuel r).heap) := by
  induction fuel generalizing r with
  | zero => exact ⟨noOverflow, id⟩
  | succ fuel induction =>
      rw [processItems] at alive noOverflow ⊢
      by_cases idle : r.task = []
      · rw [if_pos idle] at noOverflow ⊢
        exact ⟨noOverflow, id⟩
      · rw [if_neg idle] at alive noOverflow ⊢
        have keeps := keepsLines_processItem ffc idle
        generalize processItem ffc (defaultFunctions Double) r = result at alive noOverflow keeps ⊢
        obtain ⟨status, next⟩ := result
        cases status with
        | err => exact keeps (fun _ => alive) noOverflow
        | ok =>
            obtain ⟨nextFits, later⟩ := induction next alive noOverflow
            obtain ⟨fits, here⟩ := keeps (by simp) nextFits
            exact ⟨fits, fun fit => later (here fit)⟩

theorem getReply_linesFit {r : ValkeyReader (ReplyHeap Double) Nat}
    (alive : (valkeyReaderGetReply ffc (defaultFunctions Double) r).2.2.err = none)
    (noOverflow : (valkeyReaderGetReply ffc (defaultFunctions Double) r).2.2.overflow = false)
    (fit : LinesFit r.heap) :
    LinesFit (valkeyReaderGetReply ffc (defaultFunctions Double) r).2.2.heap := by
  have startedHeap : (startReply r).heap = r.heap := by
    unfold startReply
    split <;> rfl
  have processed := processItems_linesFit ffc (r.unread.length + 1) (startReply r)
  rw [startedHeap] at processed
  unfold valkeyReaderGetReply at alive noOverflow ⊢
  by_cases dead : r.err ≠ none
  · rwa [if_pos dead]
  · rw [if_neg dead] at alive noOverflow ⊢
    by_cases empty : r.buf.length = 0
    · rwa [if_pos empty]
    · rw [if_neg empty] at alive noOverflow ⊢
      dsimp only at alive noOverflow ⊢
      generalize processItems ffc (defaultFunctions Double) (r.unread.length + 1)
        (startReply r) = last
        at alive noOverflow processed ⊢
      by_cases failed : last.err ≠ none
      · rw [if_pos failed] at alive
        exact absurd alive failed
      · rw [if_neg failed] at alive noOverflow ⊢
        by_cases done : last.task = []
        · rw [if_pos done] at noOverflow ⊢
          exact (processed (not_not.mp failed) noOverflow).2 fit
        · rw [if_neg done] at noOverflow ⊢
          exact (processed (not_not.mp failed) noOverflow).2 fit

mutual
theorem Holds.shortLines {heap : ReplyHeap Double} {address : Nat} {tree : ReplyTree}
    (holds : Holds ffc heap address tree) (fit : LinesFit heap) : tree.ShortLines := by
  cases holds with
  | mk object children =>
      have line := fit _ (List.mem_of_getElem? object)
      cases tree with
      | status | error | double | bignum => exact line rfl
      | integer | bool | nil | string | verb => trivial
      | aggregate kind trees => exact HoldsAll.shortLines children fit

theorem HoldsAll.shortLines {heap : ReplyHeap Double} {addresses : List (Option Nat)}
    {trees : List ReplyTree} (holds : HoldsAll ffc heap addresses trees)
    (fit : LinesFit heap) : ReplyTree.AllShortLines trees := by
  cases holds with
  | nil => trivial
  | cons first others => exact ⟨Holds.shortLines first fit, HoldsAll.shortLines others fit⟩
end

/-! ## The round trip -/

/-- The call of `valkeyReaderGetReply` after a new reader is fed `input`. -/
def readBack (ffc : DoubleParser Double) (maxelements : Int) (input : Bytes) :
    Status × Option Nat × ValkeyReader (ReplyHeap Double) Nat :=
  valkeyReaderGetReply ffc (defaultFunctions Double)
    (valkeyReaderFeed (defaultFunctions Double) (newReader Nat [] maxelements) input).2

/-- The call returned the tree, with no overflow on the way, and the reader is
ready to go on after `taken` bytes. -/
def Returns (ffc : DoubleParser Double) (tree : ReplyTree) (taken : Nat)
    (result : Status × Option Nat × ValkeyReader (ReplyHeap Double) Nat) : Prop :=
  result.1 = .ok ∧ (∃ reply, result.2.1 = some reply ∧ Holds ffc result.2.2.heap reply tree) ∧
    result.2.2.pos = taken ∧ result.2.2.overflow = false ∧ result.2.2.err = none ∧
    result.2.2.task = []

theorem feed_newReader {maxelements : Int} {input : Bytes} (fits : input.length ≤ ssizeMax) :
    (valkeyReaderFeed (defaultFunctions Double)
      (newReader Nat ([] : ReplyHeap Double) maxelements) input).2 =
        { newReader Nat [] maxelements with buf := input } := by
  by_cases empty : input.length ≥ 1
  · have inRange : ¬ssizeMax < input.length := by omega
    simp [valkeyReaderFeed, valkeyReaderGetReadBuf, newReader, valkeyReaderCreate,
      valkeyReaderCommitRead, empty, inRange]
  · have none : input = [] := List.length_eq_zero_iff.mp (by omega)
    simp [valkeyReaderFeed, newReader, valkeyReaderCreate, none]

theorem readBack_of_shortLines {maxelements : Int} {tree : ReplyTree} {suffix : Bytes}
    (encodable : tree.Encodable ffc maxelements)
    (fits : (tree.encode ++ suffix).length ≤ ssizeMax) (short : tree.ShortLines) :
    Returns ffc tree tree.encode.length (readBack ffc maxelements (tree.encode ++ suffix)) ∧
      (readBack ffc maxelements (tree.encode ++ suffix)).2.2.unread = suffix := by
  have small : tree.encode.length ≤ llongMax := by
    rw [List.length_append] at fits
    exact Nat.le_trans (Nat.le_add_right _ _) fits
  obtain ⟨tasks, result⟩ := valkeyReaderGetReply_frame suffix (encodable.frame small)
    short encodable.countable
    { newReader Nat ([] : ReplyHeap Double) maxelements with buf := tree.encode ++ suffix }
    rfl rfl rfl (Nat.zero_le _) rfl
  rw [readBack, feed_newReader fits, result]
  have held := tree.holds_layout ffc [] []
  rw [List.append_nil] at held
  exact ⟨⟨rfl, ⟨_, rfl, held⟩, Nat.zero_add _, rfl, rfl, rfl⟩,
    by simp [ValkeyReader.unread, newReader, valkeyReaderCreate]⟩

theorem shortLines_of_readBack {maxelements : Int} {tree : ReplyTree} {input : Bytes} {taken : Nat}
    (returns : Returns ffc tree taken (readBack ffc maxelements input))
    (fits : input.length ≤ ssizeMax) : tree.ShortLines := by
  obtain ⟨_, ⟨reply, replied, holds⟩, _, noOverflow, alive, _⟩ := returns
  rw [readBack, feed_newReader fits] at holds noOverflow alive
  have noObjects : LinesFit ([] : ReplyHeap Double) := fun _ member => by simp at member
  exact holds.shortLines (getReply_linesFit alive noOverflow noObjects)

/-- A new reader that is fed an encoded tree and a suffix returns the tree, takes
exactly the encoding and leaves the suffix, if and only if every line of the tree
fits an `int` with its `\r\n`. -/
theorem readBack_encode_iff (ffc : DoubleParser Double) (maxelements : Int) (tree : ReplyTree)
    (suffix : Bytes) (encodable : tree.Encodable ffc maxelements)
    (fits : (tree.encode ++ suffix).length ≤ ssizeMax) :
    (Returns ffc tree tree.encode.length (readBack ffc maxelements (tree.encode ++ suffix)) ∧
      (readBack ffc maxelements (tree.encode ++ suffix)).2.2.unread = suffix) ↔
      tree.ShortLines :=
  ⟨fun returns => shortLines_of_readBack returns.1 fits,
    readBack_of_shortLines encodable fits⟩

/-- A map with a nested empty array, a null and a payload that looks like a frame. -/
theorem readBack_encode_map :
    let tree : ReplyTree := .aggregate .map [.status (ascii "key"), .aggregate .array [],
      .nil (.aggregate .set), .string (ascii "+x\r\n")]
    Returns DoubleParser.namesOnly tree tree.encode.length
        (readBack DoubleParser.namesOnly readerMaxArrayElements (tree.encode ++ ascii ":1")) ∧
      (readBack DoubleParser.namesOnly readerMaxArrayElements
        (tree.encode ++ ascii ":1")).2.2.unread = ascii ":1" :=
  (readBack_encode_iff DoubleParser.namesOnly readerMaxArrayElements
    (.aggregate .map [.status (ascii "key"), .aggregate .array [], .nil (.aggregate .set),
      .string (ascii "+x\r\n")]) (ascii ":1")
    ⟨⟨2, rfl, by decide, by decide⟩, (by decide : Simple (ascii "key")),
      ⟨⟨0, rfl, by decide, by decide⟩, trivial⟩, trivial, trivial, trivial⟩ (by decide)).mpr
    ⟨(by decide : (ascii "key").length + 2 < 2 ^ 31), trivial, trivial, trivial, trivial⟩

/-- A status reply of `2^31 - 2` bytes or more does not come back. -/
theorem not_returns_long_status {text : Bytes} (simple : Simple text)
    (long : 2 ^ 31 ≤ text.length + 2) (possible : text.length + 3 ≤ ssizeMax) :
    (ReplyTree.status text).Encodable ffc readerMaxArrayElements ∧
      ((ReplyTree.status text).encode ++ []).length ≤ ssizeMax ∧
      ¬Returns ffc (.status text) (ReplyTree.status text).encode.length
        (readBack ffc readerMaxArrayElements ((ReplyTree.status text).encode ++ [])) := by
  have fits : ((ReplyTree.status text).encode ++ []).length ≤ ssizeMax := by
    simp only [ReplyTree.encode, encodeLine, List.append_nil, List.length_cons,
      List.length_append, crlf, List.length_nil]
    omega
  refine ⟨simple, fits, fun returns => ?_⟩
  have short : text.length + 2 < 2 ^ 31 := shortLines_of_readBack returns fits
  omega

theorem readBack_long_status :
    let tree : ReplyTree := .status (List.replicate (2 ^ 31) 'a'.toUInt8)
    tree.Encodable DoubleParser.namesOnly readerMaxArrayElements ∧
      (tree.encode ++ []).length ≤ ssizeMax ∧
      ¬Returns DoubleParser.namesOnly tree tree.encode.length
        (readBack DoubleParser.namesOnly readerMaxArrayElements (tree.encode ++ [])) :=
  not_returns_long_status
    ⟨fun member => absurd (List.eq_of_mem_replicate member) (by decide),
      fun member => absurd (List.eq_of_mem_replicate member) (by decide)⟩
    (by rw [List.length_replicate]; omega) (by rw [List.length_replicate]; decide)

end Decoding

end Libvalkey
