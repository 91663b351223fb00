import Libvalkey.Command.Parse
import Libvalkey.Foundation.Codes
import Libvalkey.Transport.Replies

/-! # Pipelining

A client and a server at the two ends of a connection. Commands are appended, written, read and
answered in pieces, and still the replies that the client gets are the answers to its commands, in
their order. -/

namespace Libvalkey

open Codes ReplyContext

variable {Double State : Type}

/-! ## Commands as a code -/

theorem CR_notMem_ofNat (value : Nat) : CR ∉ Decimal.ofNat value := by
  intro member
  have digit := Decimal.isDigit_of_mem_ofNat value _ member
  exact absurd digit (by decide)

/-- A number is known from its digits, and what is behind the line from the line. -/
theorem numberLine_inj {first second : Nat} {rest others : Bytes}
    (same : Decimal.ofNat first ++ CR :: LF :: rest = Decimal.ofNat second ++ CR :: LF :: others) :
    first = second ∧ rest = others := by
  obtain ⟨digits, behind⟩ := terminated_inj (CR_notMem_ofNat first) (CR_notMem_ofNat second) same
  have values := congrArg (Decimal.accumulate 0) digits
  rw [Decimal.accumulate_ofNat, Decimal.accumulate_ofNat] at values
  exact ⟨values, (List.cons.inj behind).2⟩

theorem selfDelimiting_formatBulk : SelfDelimiting formatBulk := by
  intro first second rest others same
  simp only [formatBulk, List.cons_append, List.append_assoc, List.cons.injEq, true_and] at same
  obtain ⟨lengths, behind⟩ := numberLine_inj same
  obtain ⟨rfl, tails⟩ := List.append_inj behind lengths
  simpa using tails

theorem selfDelimiting_command : SelfDelimiting valkeyFormatCommandArgv := by
  intro first second rest others same
  simp only [valkeyFormatCommandArgv, List.cons_append, List.append_assoc, List.cons.injEq,
    true_and] at same
  obtain ⟨counts, behind⟩ := numberLine_inj same
  exact selfDelimiting_formatBulk.flatMap_inj counts behind

theorem command_ne_nil (argv : List Bytes) : valkeyFormatCommandArgv argv ≠ [] := by
  simp [valkeyFormatCommandArgv]

/-! ## The client -/

/-- A context with the commands that were accepted by it. -/
structure Session (Double : Type) where
  context : ReplyContext Double
  commands : List (List Bytes)

/-- What a user does with a context. -/
inductive SessionCall
  | command (argv : List Bytes)
  | bufferWrite
  | bufferRead
  | getReply
  deriving DecidableEq, Repr

namespace Session

section Requests

variable (ffc : DoubleParser Double)

/-- A request, and whether it has returned. A command is formatted and appended. -/
def request (s : Session Double) : SessionCall → Bool × Session Double
  | .command argv =>
      ((s.context.call ffc (.append (valkeyFormatCommandArgv argv))).1,
        { context := (s.context.call ffc (.append (valkeyFormatCommandArgv argv))).2
          commands :=
            if (s.context.output.valkeyAppendCmdLen (valkeyFormatCommandArgv argv)).1 = .ok then
              s.commands ++ [argv]
            else s.commands })
  | .bufferWrite =>
      ((s.context.call ffc .bufferWrite).1,
        { s with context := (s.context.call ffc .bufferWrite).2 })
  | .bufferRead =>
      ((s.context.call ffc .bufferRead).1, { s with context := (s.context.call ffc .bufferRead).2 })
  | .getReply =>
      ((s.context.call ffc .getReply).1, { s with context := (s.context.call ffc .getReply).2 })

/-- Requests up to one that does not return. -/
def run : Session Double → List SessionCall → Session Double
  | s, [] => s
  | s, first :: rest =>
      if (s.request ffc first).1 then run (s.request ffc first).2 rest else (s.request ffc first).2

end Requests

end Session

/-- A connection that has been established, with what the network will do. -/
def newSession (maxelements : Int) (blocking tls pushCb : Bool) (writes : List WriteOutcome)
    (reads : List ReadOutcome) : Session Double where
  context := newReplies (newOutput blocking tls) maxelements pushCb writes reads
  commands := []

/-! ## The server -/

/-- A server gives one reply to every command, and no pushed one. -/
structure Server (State : Type) where
  start : State
  answer : State → List Bytes → State × ReplyTree
  inBand : ∀ state argv, (answer state argv).2.isPush = false

/-- The answers to commands. -/
def Server.answers (server : Server State) : State → List (List Bytes) → List ReplyTree
  | _, [] => []
  | state, argv :: rest =>
      (server.answer state argv).2 :: server.answers (server.answer state argv).1 rest

/-- What a server has sent if some bytes have got to it: answers to commands that it has got
completely, with pushed replies before, between and behind them. The last frame may be cut. -/
structure ServerSent (ffc : DoubleParser Double) (maxelements : Int) (server : Server State)
    (arrived sent : Bytes) (trees : List ReplyTree) (argvs : List (List Bytes)) : Prop where
  commands : argvs.flatMap valkeyFormatCommandArgv <+: arrived
  answers : (trees.filter fun tree => !tree.isPush) = server.answers server.start argvs
  frames : ∃ bytes, Frames ffc maxelements trees bytes ∧ sent <+: bytes
  short : ReplyTree.AllShortLines trees
  countable : ReplyTree.AllCountable trees

theorem Server.answers_prefix (server : Server State) {state : State}
    {argvs others : List (List Bytes)} (first : argvs <+: others) :
    server.answers state argvs <+: server.answers state others := by
  induction argvs generalizing state others with
  | nil => exact List.nil_prefix
  | cons argv argvs induction =>
      obtain ⟨rest, rfl⟩ := first
      exact (List.prefix_cons_inj _).mpr (induction ⟨rest, rfl⟩)

/-! ## What the output keeps -/

/-- A call that appends nothing keeps what was appended. -/
def Sends (before after : OutputContext) : Prop :=
  before.Conserved → after.Conserved ∧ after.appended = before.appended

theorem Sends.refl (output : OutputContext) : Sends output output :=
  fun conserved => ⟨conserved, rfl⟩

theorem Sends.trans {first second third : OutputContext} (before : Sends first second)
    (after : Sends second third) : Sends first third := fun conserved => by
  obtain ⟨kept, same⟩ := before conserved
  obtain ⟨keptAfter, sameAfter⟩ := after kept
  exact ⟨keptAfter, sameAfter.trans same⟩

theorem sends_err (output : OutputContext) (err : Option ContextError) :
    Sends output { output with err := err } :=
  fun conserved => ⟨⟨conserved.bytes, conserved.small, conserved.retries⟩, rfl⟩

theorem sends_write (output : OutputContext) (outcome : WriteOutcome) :
    Sends output (output.valkeyBufferWrite outcome).2.2 := fun conserved =>
  ⟨(OutputContext.bufferWritten conserved outcome).conserved,
    (OutputContext.bufferWritten conserved outcome).appended⟩

section Calls

variable {ffc : DoubleParser Double}

theorem sends_bufferWrite (c : ReplyContext Double) :
    Sends c.output c.valkeyBufferWrite.2.output := by
  unfold ReplyContext.valkeyBufferWrite
  cases c.writes with
  | nil =>
      dsimp only
      split
      · exact .refl _
      · exact sends_write _ _
  | cons outcome writes => exact sends_write _ _

theorem sends_bufferRead (c : ReplyContext Double) :
    Sends c.output c.valkeyBufferRead.2.output := by
  unfold ReplyContext.valkeyBufferRead
  split
  · exact .refl _
  · split
    · exact sends_err _ _
    · split
      · split <;> exact .refl _
      · exact .refl _
      · exact .refl _
      · exact sends_err _ _

theorem sends_getReplyFromReader (c : ReplyContext Double) :
    Sends c.output (c.valkeyGetReplyFromReader ffc).2.2.output := by
  unfold ReplyContext.valkeyGetReplyFromReader
  split
  · exact sends_err _ _
  · exact .refl _

theorem sends_nextInBandReply (fuel : Nat) (c : ReplyContext Double) :
    Sends c.output (c.nextInBandReply ffc fuel).2.2.output := by
  induction fuel generalizing c with
  | zero => exact .refl _
  | succ fuel induction =>
      have first := @sends_getReplyFromReader Double ffc c
      unfold ReplyContext.nextInBandReply
      generalize c.valkeyGetReplyFromReader ffc = result at first ⊢
      obtain ⟨status, reply, last⟩ := result
      cases status with
      | err => exact first
      | ok =>
          cases reply with
          | none => exact first
          | some reply =>
              dsimp only at first ⊢
              unfold ReplyContext.valkeyHandledPushReply
              split
              · rename_i next handled
                split at handled
                · cases handled
                  exact first.trans (induction (last.take true reply))
                · cases handled
              · rename_i next handled
                split at handled
                · cases handled
                · cases handled
                  exact first

theorem sends_writeUntilDone (fuel : Nat) (c : ReplyContext Double) :
    Sends c.output (ReplyContext.writeUntilDone fuel c).2.output := by
  induction fuel generalizing c with
  | zero => exact .refl _
  | succ fuel induction =>
      have first := sends_bufferWrite c
      unfold ReplyContext.writeUntilDone
      generalize c.valkeyBufferWrite = result at first ⊢
      obtain ⟨written, last⟩ := result
      cases written with
      | none => exact first
      | some written =>
          obtain ⟨status, wdone⟩ := written
          cases status with
          | err => exact first
          | ok =>
              dsimp only at first ⊢
              split
              · exact first
              · exact first.trans (induction last)

theorem sends_setReply (c : ReplyContext Double) (aux : Option Nat) :
    Sends c.output (c.setReply aux).2.output := by
  cases aux with
  | none => exact .refl _
  | some reply => exact .refl _

theorem sends_readUntilReply (fuel : Nat) (c : ReplyContext Double) :
    Sends c.output (c.readUntilReply ffc fuel).2.output := by
  induction fuel generalizing c with
  | zero => exact .refl _
  | succ fuel induction =>
      have first := sends_bufferRead c
      unfold ReplyContext.readUntilReply
      generalize c.valkeyBufferRead = result at first ⊢
      obtain ⟨read, last⟩ := result
      cases read with
      | none => exact first
      | some status =>
          cases status with
          | err => exact first
          | ok =>
              dsimp only at first ⊢
              have taken :
                  Sends last.output (last.valkeyNextInBandReplyFromReader ffc).2.2.output :=
                sends_nextInBandReply _ last
              generalize last.valkeyNextInBandReplyFromReader ffc = result at taken ⊢
              obtain ⟨status, reply, next⟩ := result
              cases status with
              | err => exact first.trans taken
              | ok =>
                  cases reply with
                  | none => exact first.trans (taken.trans (induction next))
                  | some reply => exact first.trans (taken.trans (sends_setReply next _))

theorem sends_getReply (c : ReplyContext Double) :
    Sends c.output (c.valkeyGetReply ffc).2.output := by
  have taken : Sends c.output (c.valkeyNextInBandReplyFromReader ffc).2.2.output :=
    sends_nextInBandReply _ c
  unfold ReplyContext.valkeyGetReply
  generalize c.valkeyNextInBandReplyFromReader ffc = result at taken ⊢
  obtain ⟨status, reply, last⟩ := result
  cases status with
  | err => exact taken
  | ok =>
      cases reply with
      | some reply => exact taken.trans (sends_setReply last _)
      | none =>
          dsimp only at taken ⊢
          split
          · have written := sends_writeUntilDone (last.writes.length + 1) last
            generalize ReplyContext.writeUntilDone (last.writes.length + 1) last = result
              at written ⊢
            obtain ⟨status, next⟩ := result
            cases status with
            | none => exact taken.trans written
            | some status =>
                cases status with
                | err => exact taken.trans written
                | ok => exact taken.trans (written.trans (sends_readUntilReply _ next))
          · exact taken.trans (sends_setReply last _)

end Calls

/-! ## What is kept -/

/-- Commands that were accepted are written once and in their order, and replies are taken in the
order of the stream. -/
structure InStep (ffc : DoubleParser Double) (maxelements : Int) (start : ReplyContext Double)
    (s : Session Double) : Prop where
  conserved : s.context.output.Conserved
  appended : s.context.output.appended = s.commands.flatMap valkeyFormatCommandArgv
  follows : FollowsStream ffc maxelements start s.context

section Runs

variable {ffc : DoubleParser Double} {maxelements : Int} {start : ReplyContext Double}
  {s : Session Double}

/-- A call of a function that appends nothing. -/
theorem InStep.sends (inStep : InStep ffc maxelements start s) {call : ReplyContext.Call}
    (sends : Sends s.context.output (s.context.call ffc call).2.output) :
    InStep ffc maxelements start { s with context := (s.context.call ffc call).2 } := by
  obtain ⟨conserved, same⟩ := sends inStep.conserved
  exact ⟨conserved, same.trans inStep.appended, inStep.follows.call call⟩

theorem InStep.request (inStep : InStep ffc maxelements start s) (call : SessionCall) :
    InStep ffc maxelements start (s.request ffc call).2 := by
  cases call with
  | command argv =>
      refine ⟨OutputContext.conserved_append inStep.conserved _, ?_, inStep.follows.call _⟩
      dsimp only [Session.request, ReplyContext.call]
      unfold OutputContext.valkeyAppendCmdLen
      split
      · exact inStep.appended
      · rw [if_pos rfl, List.flatMap_append, List.flatMap_singleton, ← inStep.appended]
  | bufferWrite => exact inStep.sends (sends_bufferWrite s.context)
  | bufferRead => exact inStep.sends (sends_bufferRead s.context)
  | getReply => exact inStep.sends (sends_getReply s.context)

theorem InStep.run (inStep : InStep ffc maxelements start s) (calls : List SessionCall) :
    InStep ffc maxelements start (s.run ffc calls) := by
  induction calls generalizing s with
  | nil => exact inStep
  | cons first rest induction =>
      have later := inStep.request first
      unfold Session.run
      split
      · exact induction later
      · exact later

end Runs

/-! ## Replies and commands -/

/-- The replies that were taken and not pushed. -/
def Session.replies (s : Session Double) : List (TakenReply Double) :=
  s.context.taken.filter fun t => !isPushReply t.objects t.reply

theorem inBand_of_inOrder {ffc : DoubleParser Double} {pushCb : Bool}
    {taken : List (TakenReply Double)} {trees : List ReplyTree}
    (ordered : List.Forall₂ (fun t tree => Holds ffc t.objects t.reply tree ∧
      (t.pushed = true ↔ pushCb = true ∧ tree.isPush = true)) taken trees) :
    List.Forall₂ (fun t tree => Holds ffc t.objects t.reply tree)
      (taken.filter fun t => !isPushReply t.objects t.reply)
      (trees.filter fun tree => !tree.isPush) := by
  induction ordered with
  | nil => exact .nil
  | @cons t tree taken trees first rest induction =>
      rw [List.filter_cons, List.filter_cons, first.1.isPush]
      cases tree.isPush with
      | true => exact induction
      | false => exact .cons first.1 induction

/-- A server that answers a ping. -/
def pongServer : Server Unit where
  start := ()
  answer _ argv := ((), if argv = [ascii "PING"] then .status (ascii "PONG") else .error (ascii "ERR"))
  inBand _ argv := by split <;> rfl

/-- Two answers with a pushed message between them. -/
def pongTrees : List ReplyTree :=
  [.status (ascii "PONG"), .aggregate .push [.string (ascii "a")], .error (ascii "ERR")]

/-- The network takes the first command and a part of the second one, and brings the answers in
pieces. -/
def pongSession : Session String :=
  (newSession readerMaxArrayElements false false true
    [.takes 20, .fails .wouldBlock ⟨.io, []⟩, .takes 100]
    [.bytes (ascii "+PO"), .bytes (ascii "NG\r\n>1\r\n$1\r\na\r\n-E"), .bytes (ascii "RR\r\n")]
  ).run DoubleParser.namesOnly
    [.command [ascii "PING"], .command [ascii "GET"], .bufferWrite, .bufferRead, .getReply,
      .bufferWrite, .bufferRead, .getReply, .bufferWrite, .bufferRead, .getReply]

theorem serverSent_pong : ServerSent DoubleParser.namesOnly readerMaxArrayElements pongServer
    pongSession.context.output.transferred
    (arriving [.bytes (ascii "+PO"), .bytes (ascii "NG\r\n>1\r\n$1\r\na\r\n-E"),
      .bytes (ascii "RR\r\n")]) pongTrees [[ascii "PING"], [ascii "GET"]] where
  commands := by decide
  answers := by rfl
  frames := ⟨ReplyTree.encodeAll pongTrees,
    ReplyTree.AllEncodable.frames
      ⟨(by decide : Simple (ascii "PONG")), ⟨⟨1, rfl, by decide, by decide⟩, trivial, trivial⟩,
        (by decide : Simple (ascii "ERR")), trivial⟩ (by decide), by decide⟩
  short := ⟨(by decide : (ascii "PONG").length + 2 < 2 ^ 31), ⟨trivial, trivial⟩,
    (by decide : (ascii "ERR").length + 2 < 2 ^ 31), trivial⟩
  countable := ⟨trivial, ⟨by decide, trivial, trivial⟩, trivial, trivial⟩

end Libvalkey
