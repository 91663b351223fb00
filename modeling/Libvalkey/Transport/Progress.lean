import Libvalkey.Reader.ChildIndex
import Libvalkey.Reader.Progress
import Libvalkey.Transport.Replies

/-! # Pushed replies take bytes

Each pushed reply that `valkeyNextInBandReplyFromReader` skips has taken a byte, so its loop ends,
unless a line takes the cursor back. -/

namespace Libvalkey

open ValkeyReader Loops Runs

variable {Heap Obj Double : Type}

section Pushes

variable (ffc : DoubleParser Double)

/-- The body of the loop of `valkeyNextInBandReplyFromReader`. -/
def pushTurn (c : ReplyContext Double) :
    (Status × Option Nat × ReplyContext Double) ⊕ ReplyContext Double :=
  match c.valkeyGetReplyFromReader ffc with
  | (.err, _, c) => .inl (.err, none, c)
  | (.ok, none, c) => .inl (.ok, none, c)
  | (.ok, some reply, c) =>
      match c.valkeyHandledPushReply reply with
      | (true, c) => .inr c
      | (false, c) => .inl (.ok, some reply, c)

/-- No line of the replies that the loop takes takes the cursor back. -/
def ForwardReplies (c : ReplyContext Double) : Prop :=
  ∀ met, Meets (pushTurn ffc) c met → met.reader.err = none → met.reader.buf.length ≠ 0 →
    ForwardReply granted ffc (defaultFunctions Double) met.reader

/-- The replies that the loop takes make progress, and it ends within as many turns as there are
bytes, and one. -/
structure PushProgress (c : ReplyContext Double) : Prop where
  replies : ∀ met, Meets (pushTurn ffc) c met → met.reader.err = none →
    met.reader.buf.length ≠ 0 → ReplyProgress granted ffc (defaultFunctions Double) met.reader
  ends : ∀ count, c.reader.unread.length < count →
    Ends (pushTurn ffc) c (ReplyContext.nextInBandReply ffc count c)

end Pushes

section Turns

variable {ffc : DoubleParser Double} {c met next : ReplyContext Double}

theorem unrolls_nextInBandReply :
    Unrolls (pushTurn ffc) (@ReplyContext.nextInBandReply Double ffc) where
  stops count c result last := by
    unfold pushTurn at last
    unfold ReplyContext.nextInBandReply
    generalize c.valkeyGetReplyFromReader ffc = got at last ⊢
    obtain ⟨status, reply, c⟩ := got
    cases status with
    | err => exact Sum.inl.inj last
    | ok =>
        cases reply with
        | none => exact Sum.inl.inj last
        | some reply =>
            dsimp only at last ⊢
            generalize c.valkeyHandledPushReply reply = handled at last ⊢
            obtain ⟨pushed, c⟩ := handled
            cases pushed with
            | true => cases last
            | false => exact Sum.inl.inj last
  continues count c next turn := by
    unfold pushTurn at turn
    conv_lhs => unfold ReplyContext.nextInBandReply
    generalize c.valkeyGetReplyFromReader ffc = got at turn ⊢
    obtain ⟨status, reply, c⟩ := got
    cases status with
    | err => cases turn
    | ok =>
        cases reply with
        | none => cases turn
        | some reply =>
            dsimp only at turn ⊢
            generalize c.valkeyHandledPushReply reply = handled at turn ⊢
            obtain ⟨pushed, c⟩ := handled
            cases pushed with
            | true =>
                cases turn
                rfl
            | false => cases turn

/-- A turn that goes on has taken a reply. -/
theorem getReply_of_turn (turn : pushTurn ffc met = .inr next) :
    ∃ reply, valkeyReaderGetReply ffc (defaultFunctions Double) met.reader =
      (.ok, some reply, next.reader) := by
  unfold pushTurn ReplyContext.valkeyGetReplyFromReader at turn
  generalize valkeyReaderGetReply ffc (defaultFunctions Double) met.reader = got at turn ⊢
  obtain ⟨status, reply, r⟩ := got
  cases status with
  | err => cases turn
  | ok =>
      cases reply with
      | none => cases turn
      | some reply =>
          refine ⟨reply, ?_⟩
          dsimp only at turn
          unfold ReplyContext.valkeyHandledPushReply at turn
          split at turn
          · rename_i handled
            split at handled
            · cases handled
              cases turn
              rfl
            · cases handled
          · cases turn

theorem consumes_of_turn (inside : met.reader.pos ≤ met.reader.buf.length)
    (forward : met.reader.err = none → met.reader.buf.length ≠ 0 →
      ForwardReply granted ffc (defaultFunctions Double) met.reader)
    (turn : pushTurn ffc met = .inr next) : Consumes met.reader next.reader := by
  obtain ⟨reply, got⟩ := getReply_of_turn turn
  rw [← valkeyReaderGetReplyWith_granted] at got
  exact (replyEnd_getReply inside forward got).2 rfl

theorem inside_met (inside : c.reader.pos ≤ c.reader.buf.length) (forward : ForwardReplies ffc c)
    (meets : Meets (pushTurn ffc) c met) : met.reader.pos ≤ met.reader.buf.length := by
  refine meets.keeps (fun met => met.reader.pos ≤ met.reader.buf.length) inside
    fun met next meets within turn => ?_
  exact (consumes_of_turn within (forward met meets) turn).inside

/-- The measure of the loop is the number of unread bytes. -/
theorem pushProgress (inside : c.reader.pos ≤ c.reader.buf.length)
    (forward : ForwardReplies ffc c) : PushProgress ffc c where
  replies met meets alive bytes :=
    replyProgress (inside_met inside forward meets) (forward met meets alive bytes)
  ends count enough := by
    refine unrolls_nextInBandReply.ends (fun met => met.reader.unread.length) ?_ count
      (Relation.ReflTransGen.refl : Meets (pushTurn ffc) c c) enough
    intro met next meets turn
    have within := inside_met inside forward meets
    exact ⟨meets.tail turn, unread_lt (consumes_of_turn within (forward met meets) turn)⟩

theorem forwardReplies_of_short (inside : c.reader.pos ≤ c.reader.buf.length)
    (short : c.reader.buf.length < 2 ^ 31) : ForwardReplies ffc c := by
  have kept (met : ReplyContext Double) (meets : Meets (pushTurn ffc) c met) :
      met.reader.pos ≤ met.reader.buf.length ∧ met.reader.buf.length < 2 ^ 31 := by
    refine meets.keeps (fun met => met.reader.pos ≤ met.reader.buf.length ∧
      met.reader.buf.length < 2 ^ 31) ⟨inside, short⟩ fun met next _ kept turn => ?_
    obtain ⟨within, small⟩ := kept
    have consumes := consumes_of_turn within (fun _ _ => forwardReply_of_short within small) turn
    exact ⟨consumes.inside, consumes.buf ▸ small⟩
  intro met meets _ _
  obtain ⟨within, small⟩ := kept met meets
  exact forwardReply_of_short within small

end Turns

/-- Along every run in which no line takes the cursor back, every item takes a byte and the loops
end; where the buffer fits in memory, only then. An item that completes aggregates pops as many
levels as are complete. -/
theorem reader_progress (malloc : Heap → Bool × Heap) (ffc : DoubleParser Double)
    (fn : ReplyObjectFunctions Heap Obj Double) (heap : Heap) (maxelements : Int)
    (calls : List ReaderCall) :
    (Always (readerStep malloc ffc fn) (AtReply (ForwardReply malloc ffc fn))
        (newReader Obj heap maxelements, []) calls →
      Always (readerStep malloc ffc fn) (AtReply (ReplyProgress malloc ffc fn))
        (newReader Obj heap maxelements, []) calls) ∧
    (Always (readerStep malloc ffc fn) (AtReply fun r => r.buf.length ≤ ssizeMax)
        (newReader Obj heap maxelements, []) calls →
      Always (readerStep malloc ffc fn) (AtReply (ReplyProgress malloc ffc fn))
        (newReader Obj heap maxelements, []) calls →
      Always (readerStep malloc ffc fn) (AtReply (ForwardReply malloc ffc fn))
        (newReader Obj heap maxelements, []) calls) ∧
    (∀ task : List (ReadTask Obj), Pops task (moveToNextTask task)) ∧
    ∀ c : ReplyContext Double, c.reader.pos ≤ c.reader.buf.length → ForwardReplies ffc c →
      PushProgress ffc c := by
  have start : (newReader Obj heap maxelements).pos ≤ (newReader Obj heap maxelements).buf.length :=
    Nat.le_refl _
  obtain ⟨forth, back⟩ := @progress_iff_forward _ _ _ malloc ffc fn
    (newReader Obj heap maxelements, []) calls start
  exact ⟨forth, back, pops_moveToNextTask, fun c inside forward => pushProgress inside forward⟩

/-- An empty array, and a pushed reply. -/
theorem reader_progress_push :
    Always (readerStep plenty DoubleParser.namesOnly emptyFunctions)
        (AtReply (ReplyProgress plenty DoubleParser.namesOnly emptyFunctions))
        (newReader Unit () readerMaxArrayElements, [])
        [.receive (.feed (ascii "*0\r\n")), .getReply] ∧
      PushProgress DoubleParser.namesOnly
        { newReplies (newOutput false false) readerMaxArrayElements
        true [] [] with reader := 
          { newReader Nat [] readerMaxArrayElements with buf := ascii ">1\r\n+x\r\n" } } := by
  obtain ⟨forth, -, -, pushes⟩ := reader_progress plenty DoubleParser.namesOnly emptyFunctions ()
    readerMaxArrayElements [.receive (.feed (ascii "*0\r\n")), .getReply]
  refine ⟨forth ⟨trivial, fun next taken => ?_⟩, pushes _ (Nat.zero_le _) ?_⟩
  · cases taken
    refine ⟨fun _ _ => forwardReply_of_short (by decide) (by decide), fun next taken => ?_⟩
    cases taken
    trivial
  · exact forwardReplies_of_short (Nat.zero_le _) (by decide)

/-! ## A line that takes the cursor back -/

/-- A reader that has received a status. -/
def statusReader (text : Bytes) : ValkeyReader Unit Unit :=
  { newReader Unit () readerMaxArrayElements with buf := '+'.toUInt8 :: (text ++ crlf) }

theorem receive_status {text : Bytes} (possible : text.length + 3 ≤ ssizeMax) :
    receiveWith plenty emptyFunctions (newReader Unit () readerMaxArrayElements)
      (.feed ('+'.toUInt8 :: (text ++ crlf))) = (.ok, statusReader text) := by
  have alive : ¬(newReader Unit () readerMaxArrayElements).err ≠ none := not_not.mpr rfl
  have fits : ¬('+'.toUInt8 :: (text ++ crlf)).length > ssizeMax := by
    rw [List.length_cons, List.length_append]
    exact not_lt.mpr possible
  have buf : valkeyReaderGetReadBufWith plenty emptyFunctions
      (newReader Unit () readerMaxArrayElements) ('+'.toUInt8 :: (text ++ crlf)).length =
        (.ok, newReader Unit () readerMaxArrayElements) := by
    rw [valkeyReaderGetReadBufWith, valkeyReaderGetReadBuf, if_neg alive, if_neg fits]
    rfl
  have bytes : ('+'.toUInt8 :: (text ++ crlf)).length ≥ 1 := Nat.succ_pos _
  rw [receiveWith, valkeyReaderFeedWith, if_neg alive, if_pos bytes, buf]
  rfl

/-- The length of the line is -3 as an `int`, and the cursor goes back to the type byte. -/
theorem processItem_longStatus {text : Bytes} (noCR : CR ∉ text)
    (long : text.length = 2 ^ 32 - 3) :
    ∃ next, processItemWith plenty DoubleParser.namesOnly emptyFunctions
      (startReply (statusReader text)) = (.ok, next) ∧ next.pos = 0 := by
  have unread : (startReply (statusReader text)).unread = '+'.toUInt8 :: (text ++ crlf) := rfl
  have item : processItemWith plenty DoubleParser.namesOnly emptyFunctions
      (startReply (statusReader text)) = processLineItem DoubleParser.namesOnly emptyFunctions
        (typed (startReply (statusReader text)) rootTask [] .status) := by
    unfold processItemWith
    rw [show (startReply (statusReader text)).task = [rootTask] from rfl]
    dsimp only [rootTask]
    rw [readBytes_one unread]
    rfl
  have found : seekNewline (typed (startReply (statusReader text)) rootTask [] .status).unread =
      some (2 ^ 32 - 3) := by
    rw [unread_typed unread, ← long]
    simpa [crlf] using (endsAtFirstNewline_of_not_mem noCR).seek []
  have back : moveCursor 1 (lineStep (2 ^ 32 - 3)) = 0 := by decide
  have negative : toInt32 ((2 ^ 32 - 3 : Nat) : Int) = -3 := by decide
  rw [item, processLineItem_of_line DoubleParser.namesOnly emptyFunctions
    (show (typed (startReply (statusReader text)) rootTask [] .status).task =
      [{ rootTask with type := some .status }] from rfl) (readLine_found found)]
  rw [negative]
  exact ⟨_, rfl, back⟩

/-- The status is read without progress, and it is there again. -/
theorem no_progress_of_longStatus {text : Bytes} (noCR : CR ∉ text)
    (long : text.length = 2 ^ 32 - 3) :
    ¬Always (readerStep plenty DoubleParser.namesOnly emptyFunctions)
      (AtReply (ReplyProgress plenty DoubleParser.namesOnly emptyFunctions))
      (newReader Unit () readerMaxArrayElements, [])
      [.receive (.feed ('+'.toUInt8 :: (text ++ crlf))), .getReply] := by
  intro always
  have possible : text.length + 3 ≤ ssizeMax := by
    rw [long]
    decide
  have received : readerStep plenty DoubleParser.namesOnly emptyFunctions
      (newReader Unit () readerMaxArrayElements, [])
      (.receive (.feed ('+'.toUInt8 :: (text ++ crlf)))) = .ok (statusReader text, []) := by
    rw [readerStep, readerCall, receive_status possible]
  obtain ⟨next, processed, stays⟩ := processItem_longStatus noCR long
  have progress := (always.2 _ received).1 rfl (Nat.succ_ne_zero _)
  have consumes := progress.items _ next .refl processed
  exact absurd consumes.moved (stays ▸ Nat.not_lt_zero _)

theorem long_status_stays :
    ¬Always (readerStep plenty DoubleParser.namesOnly emptyFunctions)
      (AtReply (ReplyProgress plenty DoubleParser.namesOnly emptyFunctions))
      (newReader Unit () readerMaxArrayElements, [])
      [.receive (.feed ('+'.toUInt8 :: (List.replicate (2 ^ 32 - 3) 'a'.toUInt8 ++ crlf))),
        .getReply] :=
  no_progress_of_longStatus (fun member => absurd (List.eq_of_mem_replicate member) (by decide))
    List.length_replicate

end Libvalkey
