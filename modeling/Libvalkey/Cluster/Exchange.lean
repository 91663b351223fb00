import Libvalkey.Cluster.Execute

/-! # Exchanges on a connection

Which request a reply answers, and what the handshake on a new connection does. -/

namespace Libvalkey

open Checked

variable {outcome : Outcome} {c con : ValkeyContext}

/-! ## One connection -/

theorem ValkeyContext.outstanding_connected (id session : Nat) (host : Bytes)
    (outcome : Outcome) : (ValkeyContext.connected id session host outcome).outstanding = [] := by
  unfold ValkeyContext.outstanding ValkeyContext.connected
  split <;> rfl

theorem outstanding_append (c : ValkeyContext) (request : Request) :
    (valkeyAppendCommand c request).outstanding =
      c.outstanding ++ if c.err = none then [request] else [] := by
  unfold valkeyAppendCommand ValkeyContext.outstanding
  dsimp only
  split <;> simp

theorem valkeyBufferWrite_cases (outcome : Outcome) (c : ValkeyContext) :
    (valkeyBufferWrite outcome c =
        (.ok, { c with obuf := [], unanswered := c.unanswered ++ c.obuf }) ∧ c.err = none) ∨
      ∃ err, valkeyBufferWrite outcome c = (.err, { c with err := some err }) := by
  unfold valkeyBufferWrite
  cases known : c.err with
  | some err =>
      right
      refine ⟨err, ?_⟩
      rw [if_pos (by rfl), ← known]
  | none =>
      cases outcome.write with
      | some err => exact Or.inr ⟨err, rfl⟩
      | none => exact Or.inl ⟨rfl, rfl⟩

theorem request_answers (unanswered : List Request) (replies : List ReplyTree) :
    (answers unanswered replies).map (·.request) ++ unanswered.drop replies.length =
      unanswered := by
  unfold answers
  induction unanswered generalizing replies with
  | nil => simp
  | cons request rest induction =>
      cases replies with
      | nil => simp
      | cons reply replies => simpa using induction replies

/-- The reply that has been read is the one to the first of the outstanding requests. -/
structure Reads (c : ValkeyContext) (answer : Answer) (con : ValkeyContext) : Prop where
  id : con.id = c.id
  session : con.session = c.session
  host : con.host = c.host
  err : con.err = c.err
  outstanding : c.outstanding = answer.request :: con.outstanding
  obuf : ∀ request ∈ con.obuf, request ∈ c.obuf
  answered : con.answered = c.answered ++ [answer]

/-- The connection was lost before a reply came. -/
structure Lost (c con : ValkeyContext) : Prop where
  id : con.id = c.id
  session : con.session = c.session
  host : con.host = c.host
  err : con.err ≠ none
  outstanding : con.outstanding = []
  obuf : ∀ request ∈ con.obuf, request ∈ c.obuf
  answered : con.answered = c.answered

theorem valkeyGetReply_cases (outcome : Outcome) (c : ValkeyContext) :
    (∃ answer con, valkeyGetReply outcome c = (some answer, con) ∧ Reads c answer con) ∨
      ∃ con, valkeyGetReply outcome c = (none, con) ∧ Lost c con := by
  cases arrived : c.arrived with
  | cons first rest =>
      left
      refine ⟨first, { c with arrived := rest, answered := c.answered ++ [first] },
        by simp only [valkeyGetReply, arrived], rfl, rfl, rfl, rfl, ?_, fun _ => id, rfl⟩
      simp [ValkeyContext.outstanding, arrived]
  | nil =>
      have nothing : ∀ err, ({ c with err := some err } : ValkeyContext).outstanding = [] := by
        simp [ValkeyContext.outstanding, arrived]
      rcases valkeyBufferWrite_cases outcome c with ⟨written, alive⟩ | ⟨err, failed⟩
      · cases found : answers (c.unanswered ++ c.obuf) outcome.replies with
        | nil =>
            right
            refine ⟨{ c with
                err := some outcome.failure
                obuf := []
                unanswered := c.unanswered ++ c.obuf },
              by simp only [valkeyGetReply, arrived, written, found], rfl, rfl, rfl, by simp, ?_,
              by simp, rfl⟩
            simp [ValkeyContext.outstanding, arrived]
        | cons first rest =>
            left
            refine ⟨first,
              { c with
                obuf := []
                unanswered := (c.unanswered ++ c.obuf).drop outcome.replies.length
                arrived := rest
                answered := c.answered ++ [first] },
              by simp only [valkeyGetReply, arrived, written, found], rfl, rfl, rfl, rfl, ?_,
              by simp, rfl⟩
            have whole := request_answers (c.unanswered ++ c.obuf) outcome.replies
            rw [found] at whole
            simpa [ValkeyContext.outstanding, arrived, alive] using whole.symm
      · right
        exact ⟨{ c with err := some err }, by simp only [valkeyGetReply, arrived, failed], rfl,
          rfl, rfl, by simp, nothing err, fun _ => id, rfl⟩

/-- A request on an idle connection is the only one. -/
theorem Reads.single {request : Request} {answer : Answer}
    (reads : Reads (valkeyAppendCommand c request) answer con) (idle : c.outstanding = []) :
    answer.request = request ∧ con.outstanding = [] := by
  have first := reads.outstanding
  rw [outstanding_append, idle, List.nil_append] at first
  split at first
  · obtain ⟨same, rest⟩ := List.cons.inj first
    exact ⟨same.symm, rest.symm⟩
  · exact nomatch first

/-! ## What the client keeps -/

namespace ValkeyClusterContext

def nodeNames (cc : ValkeyClusterContext) : List Nat := cc.nodes.map (·.id)

def addrs (cc : ValkeyClusterContext) : List Bytes := cc.nodes.map (·.addr)

def contextNames (cc : ValkeyClusterContext) : List Nat := cc.contexts.map (·.id)

/-- Every reply has been read by the one who sent the request. -/
def Paired (cc : ValkeyClusterContext) : Prop :=
  ∀ reading ∈ cc.readings, reading.answer.request = reading.reader

theorem Paired.record {cc : ValkeyClusterContext} (paired : cc.Paired) {reader : Request}
    {answer : Option Answer} (matching : ∀ found, answer = some found → found.request = reader) :
    (cc.record reader answer).Paired := by
  cases answer with
  | none => exact paired
  | some found =>
      intro reading member
      rcases List.mem_append.mp member with old | new
      · exact paired reading old
      · obtain rfl := List.mem_singleton.mp new
        exact matching found rfl

/-- The requests that have to be accepted on a connection before it is used. -/
def handshake (cc : ValkeyClusterContext) : List Request :=
  (if cc.password.isSome then [.auth] else []) ++ if cc.selectDb ≠ 0 then [.select] else []

end ValkeyClusterContext

/-- A command of the user. -/
def Request.isCommand : Request → Bool
  | .command _ | .pipelined _ _ => true
  | _ => false

def ValkeyClusterContext.commandWrites (cc : ValkeyClusterContext) : List Write :=
  cc.writes.filter (·.request.isCommand)

/-- The server accepted a request. -/
def Granted (request : Request) (answered : List Answer) : Prop :=
  ∃ answer ∈ answered, answer.request = request ∧ ∀ str, answer.reply ≠ .error str

theorem Granted.mono {request : Request} {before after : List Answer}
    (accepted : Granted request before) (grows : before <+: after) :
    Granted request after := by
  obtain ⟨answer, member, rest⟩ := accepted
  exact ⟨answer, grows.subset member, rest⟩

/-- What talking to a server can change of the client. -/
inductive Talked (cc : ValkeyClusterContext) : ValkeyClusterContext → Prop
  | mk (err : Option ErrorType) (errstr : Bytes) (nextContext outcomes : Nat)
      (writes : List Write) (readings : List Reading) :
      Talked cc
        { cc with
          err := err
          errstr := errstr
          nextContext := nextContext
          outcomes := outcomes
          writes := writes
          readings := readings }

namespace Talked

variable {cc next last : ValkeyClusterContext}

theorem refl (cc : ValkeyClusterContext) : Talked cc cc := .mk _ _ _ _ _ _

theorem trans (first : Talked cc next) (second : Talked next last) : Talked cc last := by
  cases first
  cases second
  exact .mk _ _ _ _ _ _

theorem nodes (talked : Talked cc next) : next.nodes = cc.nodes := by cases talked; rfl

theorem table (talked : Talked cc next) : next.table = cc.table := by cases talked; rfl

theorem nextNode (talked : Talked cc next) : next.nextNode = cc.nextNode := by cases talked; rfl

theorem requests (talked : Talked cc next) : next.requests = cc.requests := by cases talked; rfl

theorem handshake (talked : Talked cc next) : next.handshake = cc.handshake := by
  cases talked; rfl

theorem setError (talked : Talked cc next) (type : ErrorType) (str : Bytes) :
    Talked cc (next.setError type str) := talked.trans (.mk _ _ _ _ _ _)

theorem setContextError (talked : Talked cc next) (c : ValkeyContext) :
    Talked cc (next.setContextError c) := by
  refine talked.trans ?_
  unfold ValkeyClusterContext.setContextError
  split <;> exact .mk _ _ _ _ _ _

theorem record (talked : Talked cc next) (writes : List Write) (reader : Request)
    (answer : Option Answer) :
    Talked cc ((next.advance.recordWrites writes).record reader answer) := by
  refine talked.trans ?_
  cases answer <;> exact .mk _ _ _ _ _ _

end Talked

/-- What a step of the handshake on a connection leaves of the client. -/
structure Handshake (cc : ValkeyClusterContext) (c : ValkeyContext)
    (next : ValkeyClusterContext) (con : ValkeyContext) : Prop where
  talked : Talked cc next
  nextContext : next.nextContext = cc.nextContext
  outcomes : cc.outcomes ≤ next.outcomes
  id : con.id = c.id
  session : con.session = c.session
  alive : con.err = none → c.err = none
  answered : c.answered <+: con.answered
  idle : c.outstanding = [] → con.outstanding = []
  paired : c.outstanding = [] → cc.Paired → next.Paired
  obuf : (∀ request ∈ c.obuf, ¬request.isCommand) → ∀ request ∈ con.obuf, ¬request.isCommand
  writes : (∀ request ∈ c.obuf, ¬request.isCommand) → next.commandWrites = cc.commandWrites

namespace Handshake

variable {cc next last : ValkeyClusterContext} {final : ValkeyContext}

theorem refl : Handshake cc c cc c :=
  ⟨.refl cc, rfl, Nat.le_refl _, rfl, rfl, fun alive => alive, List.prefix_rfl,
    fun idle => idle, fun _ paired => paired, fun quiet => quiet, fun _ => rfl⟩

theorem trans (first : Handshake cc c next con) (second : Handshake next con last final) :
    Handshake cc c last final where
  talked := first.talked.trans second.talked
  nextContext := second.nextContext.trans first.nextContext
  outcomes := Nat.le_trans first.outcomes second.outcomes
  id := second.id.trans first.id
  session := second.session.trans first.session
  alive := fun alive => first.alive (second.alive alive)
  answered := first.answered.trans second.answered
  idle := fun idle => second.idle (first.idle idle)
  paired := fun idle paired => second.paired (first.idle idle) (first.paired idle paired)
  obuf := fun quiet => second.obuf (first.obuf quiet)
  writes := fun quiet => (second.writes (first.obuf quiet)).trans (first.writes quiet)

/-- A change of the error of the client. -/
theorem of_error (first : Handshake cc c next con) (err : Option ErrorType) (errstr : Bytes) :
    Handshake cc c { next with err := err, errstr := errstr } con :=
  first.trans ⟨.mk _ _ _ _ _ _, rfl, Nat.le_refl _, rfl, rfl, fun alive => alive,
    List.prefix_rfl, fun idle => idle, fun _ paired => paired, fun quiet => quiet, fun _ => rfl⟩

theorem setError (first : Handshake cc c next con) (type : ErrorType) (str : Bytes) :
    Handshake cc c (next.setError type str) con := first.of_error _ _

theorem setContextError (first : Handshake cc c next con) :
    Handshake cc c (next.setContextError con) con := by
  unfold ValkeyClusterContext.setContextError
  split
  · exact first.of_error _ _
  · exact first.of_error _ _

end Handshake

section Handshake

variable (network : Nat → Outcome) (cc : ValkeyClusterContext) (c : ValkeyContext)

theorem commandWrites_record (writes : List Write) (reader : Request) (answer : Option Answer)
    (quiet : ∀ write ∈ writes, ¬write.request.isCommand) :
    ((cc.advance.recordWrites writes).record reader answer).commandWrites = cc.commandWrites := by
  have none : writes.filter (·.request.isCommand) = [] :=
    List.filter_eq_nil_iff.mpr quiet
  cases answer <;>
    simp [ValkeyClusterContext.commandWrites, ValkeyClusterContext.record,
      ValkeyClusterContext.recordWrites, ValkeyClusterContext.advance, none]

theorem mem_flushed {write : Write} (member : write ∈ c.flushed) :
    write.request ∈ c.obuf ∧ write.answered = c.answered ∧ c.err = none := by
  unfold ValkeyContext.flushed at member
  split at member
  · exact nomatch member
  · rename_i alive
    obtain ⟨request, inObuf, rfl⟩ := List.mem_map.mp member
    exact ⟨inObuf, rfl, by simpa using alive⟩

theorem mem_flushedToRead {write : Write} (member : write ∈ c.flushedToRead) :
    write ∈ c.flushed := by
  unfold ValkeyContext.flushedToRead at member
  split at member
  · exact member
  · exact nomatch member

theorem handshake_valkeyCommand (request : Request) (quiet : ¬request.isCommand) :
    Handshake cc c (valkeyCommand network cc c request).2.2
      (valkeyCommand network cc c request).2.1 := by
  unfold valkeyCommand
  have buffered : (∀ request ∈ c.obuf, ¬request.isCommand) →
      ∀ other ∈ (valkeyAppendCommand c request).obuf, ¬other.isCommand := by
    intro quietBefore other member
    rcases List.mem_append.mp member with old | new
    · exact quietBefore other old
    · exact List.mem_singleton.mp new ▸ quiet
  have written : (∀ request ∈ c.obuf, ¬request.isCommand) →
      ∀ write ∈ (valkeyAppendCommand c request).flushedToRead, ¬write.request.isCommand :=
    fun quietBefore write member =>
      buffered quietBefore _ (mem_flushed _ (mem_flushedToRead _ member)).1
  rcases valkeyGetReply_cases (network cc.outcomes) (valkeyAppendCommand c request) with
    ⟨answer, con, read, reads⟩ | ⟨con, read, lost⟩
  · simp only [read]
    refine ⟨(Talked.refl cc).record _ _ _, rfl, Nat.le_succ _, reads.id, reads.session,
      fun alive => reads.err.symm.trans alive, ⟨[answer], reads.answered.symm⟩,
      fun idle => (reads.single idle).2, fun idle paired => ?_,
      fun before other member => buffered before other (reads.obuf other member),
      fun before => commandWrites_record cc _ _ _ (written before)⟩
    have before : (cc.advance.recordWrites
      (valkeyAppendCommand c request).flushedToRead).Paired := paired
    refine before.record fun found equal => ?_
    exact Option.some.inj equal ▸ (reads.single idle).1
  · simp only [read]
    refine ⟨(Talked.refl cc).record _ _ none, rfl, Nat.le_succ _, lost.id, lost.session,
      fun alive => absurd alive lost.err, lost.answered ▸ List.prefix_rfl,
        fun _ => lost.outstanding,
      fun _ paired => paired,
      fun before other member => buffered before other (lost.obuf other member),
      fun before => commandWrites_record cc _ _ none (written before)⟩

theorem handshake_checkReply {request : Request} (quiet : ¬request.isCommand) (noReply : Bytes) :
    Handshake cc c (checkReply network cc c request noReply).2.2
      (checkReply network cc c request noReply).2.1 := by
  have command := handshake_valkeyCommand network cc c request quiet
  unfold checkReply
  generalize valkeyCommand network cc c request = result at command ⊢
  obtain ⟨answer, con, next⟩ := result
  cases answer with
  | none => exact command.setError _ _
  | some answer =>
      dsimp only
      split
      · exact command.setError _ _
      · exact command

theorem handshake_authenticate :
    Handshake cc c (authenticate network cc c).2.2 (authenticate network cc c).2.1 := by
  unfold authenticate
  split
  · exact .refl
  · exact handshake_checkReply network cc c (by simp [Request.isCommand]) _

theorem handshake_select_db :
    Handshake cc c (select_db network cc c).2.2 (select_db network cc c).2.1 := by
  unfold select_db
  split
  · exact .refl
  · exact handshake_checkReply network cc c (by simp [Request.isCommand]) _

theorem handshake_initTls :
    Handshake cc c (initTls network cc c).2.2 (initTls network cc c).2.1 := by
  unfold initTls
  split
  · split
    · exact ⟨.mk _ _ _ _ _ _, rfl, Nat.le_succ _, rfl, rfl, fun alive => alive,
        List.prefix_rfl, fun idle => idle, fun _ paired => paired, id, fun _ => rfl⟩
    · refine ⟨.mk _ _ _ _ _ _, rfl, Nat.le_succ _, rfl, rfl, fun alive => (nomatch alive),
        List.prefix_rfl, fun idle => ?_, fun _ paired => paired, id, fun _ => rfl⟩
      exact List.append_eq_nil_iff.mpr ⟨(List.append_eq_nil_iff.mp idle).1, if_neg (by simp)⟩
  · exact .refl

/-- An accepted request on an idle connection. -/
theorem granted_checkReply {request : Request} {noReply : Bytes} (idle : c.outstanding = [])
    (ok : (checkReply network cc c request noReply).1 = .ok) :
    Granted request (checkReply network cc c request noReply).2.1.answered := by
  unfold checkReply valkeyCommand at ok ⊢
  rcases valkeyGetReply_cases (network cc.outcomes) (valkeyAppendCommand c request) with
    ⟨answer, con, read, reads⟩ | ⟨con, read, lost⟩
  · simp only [read] at ok ⊢
    have same := (reads.single idle).1
    cases reply : answer.reply with
    | error str => simp [reply] at ok
    | _ =>
        refine ⟨answer, ?_, same, by simp [reply]⟩
        rw [reads.answered]
        exact List.mem_append_right _ (List.mem_singleton_self _)
  · simp only [read] at ok
    exact nomatch ok

theorem granted_authenticate (idle : c.outstanding = [])
    (ok : (authenticate network cc c).1 = .ok) (configured : cc.password.isSome) :
    Granted .auth (authenticate network cc c).2.1.answered := by
  unfold authenticate at ok ⊢
  split at ok
  · rename_i missing
    simp [missing] at configured
  · exact granted_checkReply network cc c idle ok

theorem granted_select_db (idle : c.outstanding = []) (ok : (select_db network cc c).1 = .ok)
    (configured : cc.selectDb ≠ 0) : Granted .select (select_db network cc c).2.1.answered := by
  unfold select_db at ok ⊢
  rw [if_neg configured] at ok ⊢
  exact granted_checkReply network cc c idle ok

/-- A step that fails sets an error of the client, and another one does not. -/
structure Reports (status : Status) (cc next : ValkeyClusterContext) : Prop where
  ok : status = .ok → next.err = cc.err
  err : status = .err → next.err ≠ none

theorem reports_checkReply (request : Request) (noReply : Bytes) :
    Reports (checkReply network cc c request noReply).1 cc
      (checkReply network cc c request noReply).2.2 := by
  unfold checkReply valkeyCommand
  rcases valkeyGetReply_cases (network cc.outcomes) (valkeyAppendCommand c request) with
    ⟨answer, con, read, _⟩ | ⟨con, read, _⟩
  · cases reply : answer.reply with
    | error str =>
        simp only [read, reply]
        exact ⟨fun ok => (nomatch ok), fun _ none => nomatch none⟩
    | _ =>
        simp only [read, reply]
        exact ⟨fun _ => rfl, fun err => nomatch err⟩
  · simp only [read]
    exact ⟨fun ok => (nomatch ok), fun _ none => nomatch none⟩

theorem reports_authenticate :
    Reports (authenticate network cc c).1 cc (authenticate network cc c).2.2 := by
  unfold authenticate
  split
  · exact ⟨fun _ => rfl, fun err => nomatch err⟩
  · exact reports_checkReply network cc c _ _

theorem reports_select_db :
    Reports (select_db network cc c).1 cc (select_db network cc c).2.2 := by
  unfold select_db
  split
  · exact ⟨fun _ => rfl, fun err => nomatch err⟩
  · exact reports_checkReply network cc c _ _

theorem reports_initTls : Reports (initTls network cc c).1 cc (initTls network cc c).2.2 := by
  unfold initTls
  split
  · split
    · exact ⟨fun _ => rfl, fun err => nomatch err⟩
    · exact ⟨fun ok => (nomatch ok), fun _ none => nomatch none⟩
  · exact ⟨fun _ => rfl, fun err => nomatch err⟩

/-- TLS that fails is also an error of the connection. -/
theorem initTls_alive (alive : (initTls network cc c).2.1.err = none) :
    (initTls network cc c).1 = .ok := by
  unfold initTls at alive ⊢
  split
  · rename_i configured
    rw [if_pos configured] at alive
    cases failed : (network cc.outcomes).tls with
    | none => rfl
    | some err => simp [failed] at alive
  · rfl

/-- Both steps of the handshake have been accepted. -/
theorem granted_handshake {con : ValkeyContext} (next : ValkeyClusterContext)
    (same : next.handshake = cc.handshake)
    (auth : next.password.isSome → Granted .auth con.answered)
    (select : next.selectDb ≠ 0 → Granted .select con.answered) :
    ∀ request ∈ cc.handshake, Granted request con.answered := by
  rw [← same]
  intro request member
  rcases List.mem_append.mp member with first | second
  · split at first
    · rename_i configured
      exact List.mem_singleton.mp first ▸ auth configured
    · exact nomatch first
  · split at second
    · rename_i configured
      exact List.mem_singleton.mp second ▸ select configured
    · exact nomatch second

end Handshake

end Libvalkey
