import Libvalkey.Cluster.Addressing
import Libvalkey.Cluster.NoDangling

/-! # Pipelined commands and their replies

A pipelined command is remembered with its slot or with the address of its node,
while its bytes are on one connection. The replies come to their commands as long as
the slot or the address leads back to that connection. -/

namespace Libvalkey

open Checked ValkeyClusterContext

/-- What is sent for a pipelined command. -/
def Pipelined.request (pipelined : Pipelined) : Request := .pipelined pipelined.index pipelined.cmd

/-- The commands that wait for their replies in a session. -/
def waitingFor (requests : List Pipelined) (session : Nat) : List Request :=
  (requests.filter (·.session == session)).map (·.request)

theorem waitingFor_append (requests more : List Pipelined) (session : Nat) :
    waitingFor (requests ++ more) session = waitingFor requests session ++
      waitingFor more session := by
  simp [waitingFor]

theorem waitingFor_cons_same (pipelined : Pipelined) (rest : List Pipelined) :
    waitingFor (pipelined :: rest) pipelined.session =
      pipelined.request :: waitingFor rest pipelined.session := by
  simp [waitingFor]

theorem waitingFor_cons_other {pipelined : Pipelined} {session : Nat} (rest : List Pipelined)
    (other : session ≠ pipelined.session) :
    waitingFor (pipelined :: rest) session = waitingFor rest session := by
  have different : (pipelined.session == session) = false := by simpa using other.symm
  simp [waitingFor, different]

theorem waitingFor_fresh {requests : List Pipelined} {session : Nat}
    (earlier : ∀ pipelined ∈ requests, pipelined.session < session) :
    waitingFor requests session = [] := by
  unfold waitingFor
  rw [List.filter_eq_nil_iff.mpr fun pipelined member => ?_, List.map_nil]
  simpa using Nat.ne_of_lt (earlier pipelined member)

/-- What is left to read on an open connection are the replies to its commands. -/
def Matched (requests : List Pipelined) (con : ValkeyContext) : Prop :=
  con.err = none → con.outstanding = waitingFor requests con.session

namespace ValkeyClusterContext

/-- The connections match the commands that wait, apart from the connection that is
being used. -/
structure Piped (cc : ValkeyClusterContext) (used : Option Nat) : Prop where
  wellFormed : cc.WellFormed
  matched : ∀ con ∈ cc.contexts, used ≠ some con.id → Matched cc.requests con
  established : ∀ con ∈ cc.contexts, con.session < cc.outcomes
  distinct : ∀ con ∈ cc.contexts, ∀ other ∈ cc.contexts, con.session = other.session →
    con.id = other.id
  waiting : ∀ pipelined ∈ cc.requests, pipelined.session < cc.outcomes
  bounded : cc.requests.length ≤ cc.appended
  numbered : cc.requests.map (·.index) =
    List.range' (cc.appended - cc.requests.length) cc.requests.length

variable {cc next : ValkeyClusterContext} {used : Option Nat}

/-- The commands that wait are the same, and time goes on. -/
structure SameRequests (cc next : ValkeyClusterContext) : Prop where
  requests : next.requests = cc.requests
  appended : next.appended = cc.appended
  outcomes : cc.outcomes ≤ next.outcomes

theorem SameRequests.refl (cc : ValkeyClusterContext) : SameRequests cc cc :=
  ⟨rfl, rfl, Nat.le_refl _⟩

theorem SameRequests.trans {last : ValkeyClusterContext} (first : SameRequests cc next)
    (second : SameRequests next last) : SameRequests cc last :=
  ⟨second.requests.trans first.requests, second.appended.trans first.appended,
    Nat.le_trans first.outcomes second.outcomes⟩

theorem SameRequests.of_talked (talked : Talked cc next) (outcomes : cc.outcomes ≤ next.outcomes) :
    SameRequests cc next := by
  refine ⟨talked.requests, ?_, outcomes⟩
  cases talked
  rfl

/-- Connections may go away. -/
theorem Piped.of_contexts (piped : cc.Piped used) (wellFormed : next.WellFormed)
    (same : SameRequests cc next) (contexts : ∀ con ∈ next.contexts, con ∈ cc.contexts) :
    next.Piped used where
  wellFormed := wellFormed
  matched con member unused := same.requests ▸ piped.matched con (contexts con member) unused
  established con member :=
    Nat.lt_of_lt_of_le (piped.established con (contexts con member)) same.outcomes
  distinct con member other otherMember :=
    piped.distinct con (contexts con member) other (contexts other otherMember)
  waiting pipelined member :=
    Nat.lt_of_lt_of_le (piped.waiting pipelined (same.requests ▸ member)) same.outcomes
  bounded := by
    rw [same.requests, same.appended]
    exact piped.bounded
  numbered := by
    rw [same.requests, same.appended]
    exact piped.numbered

/-- The connection that was being used matches as well. -/
theorem Piped.settle (piped : cc.Piped used)
    (matched : ∀ con ∈ cc.contexts, used = some con.id → Matched cc.requests con) :
    cc.Piped none where
  wellFormed := piped.wellFormed
  matched con member _ :=
    if here : used = some con.id then matched con member here else piped.matched con member here
  established := piped.established
  distinct := piped.distinct
  waiting := piped.waiting
  bounded := piped.bounded
  numbered := piped.numbered

/-- A connection has been set up since. -/
theorem Piped.of_fresh (piped : cc.Piped used) (wellFormed : next.WellFormed)
    (same : SameRequests cc next) (later : cc.outcomes < next.outcomes) {fresh : ValkeyContext}
    (session : fresh.session = cc.outcomes) (idle : fresh.outstanding = [])
    (contexts : ∀ con ∈ next.contexts, con = fresh ∨ con ∈ cc.contexts) : next.Piped used where
  wellFormed := wellFormed
  matched con member unused := by
    rw [same.requests]
    rcases contexts con member with rfl | old
    · intro _
      rw [idle, session, waitingFor_fresh piped.waiting]
    · exact piped.matched con old unused
  established con member := by
    rcases contexts con member with rfl | old
    · exact session ▸ later
    · exact Nat.lt_trans (piped.established con old) later
  distinct con member other otherMember equal := by
    rcases contexts con member with rfl | old
    · rcases contexts other otherMember with rfl | otherOld
      · rfl
      · exact absurd (piped.established other otherOld)
          (by rw [← equal, session]; exact Nat.lt_irrefl _)
    · rcases contexts other otherMember with rfl | otherOld
      · exact absurd (piped.established con old) (by rw [equal, session]; exact Nat.lt_irrefl _)
      · exact piped.distinct con old other otherOld equal
  waiting pipelined member :=
    Nat.lt_of_lt_of_le (piped.waiting pipelined (same.requests ▸ member)) same.outcomes
  bounded := by
    rw [same.requests, same.appended]
    exact piped.bounded
  numbered := by
    rw [same.requests, same.appended]
    exact piped.numbered

theorem Piped.of_obtains {network : Nat → Outcome} (piped : cc.Piped none) {port : Int}
    {held con : Option ValkeyContext}
    {store : ValkeyClusterContext → ValkeyContext → ValkeyClusterContext}
    (obtains : Obtains network cc port held store (con, next))
    (member : ∀ c ∈ held, c ∈ cc.contexts) (stores : held = none → StoresAt cc.nodes store) :
    next.Piped none ∧ ∀ c ∈ con, c ∈ next.contexts := by
  have wellFormed := (piped.wellFormed.of_obtains obtains member stores).1
  cases obtains with
  | unreachable without talked outcomes nextContext err paired commandWrites =>
      refine ⟨piped.of_contexts wellFormed (.of_talked talked outcomes) fun found inContexts => ?_,
        fun _ held => nomatch held⟩
      rwa [contexts, talked.nodes] at inContexts
  | @existing con known alive =>
        exact ⟨piped, fun c held => Option.some.inj held ▸ member con known⟩
  | @reconnected old con middle known lost made established id nextContext =>
      have talked := established.talked
      have sameContexts : middle.contexts = cc.contexts := by simp only [contexts, talked.nodes]
      have outcomes := Nat.le_of_lt established.outcomes
      refine ⟨piped.of_fresh wellFormed ⟨(SameRequests.of_talked talked outcomes).requests,
        (SameRequests.of_talked talked outcomes).appended, outcomes⟩ established.outcomes
        established.session established.idle fun found inContexts => ?_, fun c held => ?_⟩
      · rcases mem_contexts_putContext inContexts with same | ⟨inOld, _⟩
        · exact Or.inl same
        · exact Or.inr (sameContexts ▸ inOld)
      · obtain rfl := Option.some.inj held
        rw [contexts_putContext]
        exact List.mem_map.mpr ⟨old, sameContexts ▸ member old known, if_pos id.symm⟩
  | @new con middle without established id nextContext err accepted =>
      have talked := established.talked
      have sameContexts : middle.contexts = cc.contexts := by simp only [contexts, talked.nodes]
      have outcomes := Nat.le_of_lt established.outcomes
      have stored := stores without
      obtain ⟨changed, only⟩ := stored.only middle con
      have same : SameRequests middle (store middle con) := by
        rw [only]
        exact ⟨rfl, rfl, Nat.le_refl _⟩
      refine ⟨piped.of_fresh wellFormed ((SameRequests.of_talked talked outcomes).trans same)
        (Nat.lt_of_lt_of_le established.outcomes same.outcomes) established.session
        established.idle fun found inContexts => ?_, fun c held => ?_⟩
      · exact sameContexts ▸ stored.contexts _ _ found inContexts
      · obtain rfl := Option.some.inj held
        exact stored.here _ _ talked.nodes

/-- Sessions tell the connections apart. -/
theorem Piped.other_session (piped : cc.Piped used) {con other : ValkeyContext}
    (member : con ∈ cc.contexts) (otherMember : other ∈ cc.contexts)
    (different : other.id ≠ con.id) : other.session ≠ con.session := fun same =>
  different (piped.distinct other otherMember con member same)

theorem Piped.append (piped : cc.Piped none) {c : ValkeyContext} (member : c ∈ cc.contexts)
    (alive : c.err = none) (cmd : Bytes) (target : Target) :
    (cc.appendRequest c cmd target).Piped none := by
  have same : SameNames cc (cc.appendRequest c cmd target) :=
    (sameNames_putContext cc (valkeyAppendCommand c (.pipelined cc.appended cmd))).trans
      (.of_fields rfl rfl rfl rfl)
  have cases : ∀ con ∈ (cc.appendRequest c cmd target).contexts,
      con = valkeyAppendCommand c (.pipelined cc.appended cmd) ∨ con ∈ cc.contexts ∧
        con.id ≠ c.id :=
    fun con inContexts => mem_contexts_putContext inContexts
  have old : ∀ con ∈ (cc.appendRequest c cmd target).contexts,
      ∃ before ∈ cc.contexts, before.id = con.id ∧ before.session = con.session := by
    intro con inContexts
    rcases cases con inContexts with rfl | ⟨inOld, _⟩
    · exact ⟨c, member, rfl, rfl⟩
    · exact ⟨con, inOld, rfl, rfl⟩
  refine ⟨piped.wellFormed.of_sameNames same, ?_, ?_, ?_, ?_, ?_, ?_⟩
  · intro con inContexts _ conAlive
    change con.outstanding = waitingFor (cc.requests ++ [⟨cc.appended, cmd, target, c.session⟩]) _
    rw [waitingFor_append]
    rcases cases con inContexts with rfl | ⟨inOld, different⟩
    · rw [outstanding_append, if_pos alive, piped.matched c member nofun alive]
      simp [waitingFor, valkeyAppendCommand, Pipelined.request]
    · rw [waitingFor_cons_other [] (piped.other_session member inOld different),
        piped.matched con inOld nofun conAlive]
      exact (List.append_nil _).symm
  · intro con inContexts
    obtain ⟨before, inOld, _, session⟩ := old con inContexts
    exact session ▸ piped.established before inOld
  · intro con inContexts other otherContexts equal
    obtain ⟨before, inOld, name, session⟩ := old con inContexts
    obtain ⟨otherBefore, otherOld, otherName, otherSession⟩ := old other otherContexts
    rw [← name, ← otherName]
    exact piped.distinct before inOld otherBefore otherOld
      (session.trans (equal.trans otherSession.symm))
  · intro pipelined inRequests
    rcases List.mem_append.mp inRequests with inOld | new
    · exact piped.waiting pipelined inOld
    · obtain rfl := List.mem_singleton.mp new
      exact piped.established c member
  · have bounded := piped.bounded
    simpa [appendRequest] using bounded
  · have bounded := piped.bounded
    have index : cc.appended + 1 - (cc.requests.length + 1) = cc.appended - cc.requests.length := by
      omega
    have last : cc.appended - cc.requests.length + cc.requests.length = cc.appended := by omega
    simp only [appendRequest, List.map_append, List.map_cons, List.map_nil, List.length_append,
      List.length_singleton, index]
    rw [List.range'_1_concat, last, piped.numbered]

/-- The first of the waiting commands is taken. -/
theorem Piped.numbered_rest {request : Pipelined} {rest : List Pipelined} (piped : cc.Piped used)
    (known : cc.requests = request :: rest) :
    request.index = cc.appended - cc.requests.length ∧ rest.length ≤ cc.appended ∧
      rest.map (·.index) = List.range' (cc.appended - rest.length) rest.length := by
  have numbered := piped.numbered
  have bounded := piped.bounded
  rw [known] at numbered bounded ⊢
  rw [List.length_cons] at bounded
  rw [List.map_cons, List.length_cons, List.range'_succ] at numbered
  obtain ⟨first, others⟩ := List.cons.inj numbered
  refine ⟨first, by omega, others.trans ?_⟩
  rw [show cc.appended - (rest.length + 1) + 1 = cc.appended - rest.length by omega]

/-- The first of the waiting commands is taken, after what has been read from its
connection. -/
theorem Piped.take (piped : cc.Piped none) {request : Pipelined} {rest : List Pipelined}
    (known : cc.requests = request :: rest) (same : SameNames cc next)
    (requests : next.requests = rest) (appended : next.appended = cc.appended)
    (outcomes : cc.outcomes ≤ next.outcomes)
    (contexts : ∀ con ∈ next.contexts, ∃ old ∈ cc.contexts, con.id = old.id ∧
      con.session = old.session ∧ (con.err = none → old.err = none ∧
        if old.session = request.session then old.outstanding = request.request :: con.outstanding
        else con.outstanding = old.outstanding)) : next.Piped none := by
  obtain ⟨_, bounded, numbered⟩ := piped.numbered_rest known
  refine ⟨piped.wellFormed.of_sameNames same, ?_, ?_, ?_, ?_, ?_, ?_⟩
  · intro con member _ alive
    obtain ⟨old, inOld, _, session, kept⟩ := contexts con member
    obtain ⟨oldAlive, read⟩ := kept alive
    have before := piped.matched old inOld nofun oldAlive
    rw [known] at before
    rw [requests, session]
    by_cases here : old.session = request.session
    · rw [if_pos here] at read
      rw [here] at before ⊢
      rw [waitingFor_cons_same, read] at before
      exact (List.cons.inj before).2
    · rw [if_neg here] at read
      rw [waitingFor_cons_other rest here] at before
      rw [read, before]
  · intro con member
    obtain ⟨old, inOld, _, session, _⟩ := contexts con member
    exact Nat.lt_of_lt_of_le (session ▸ piped.established old inOld) outcomes
  · intro con member other otherMember equal
    obtain ⟨old, inOld, name, session, _⟩ := contexts con member
    obtain ⟨otherOld, otherInOld, otherName, otherSession, _⟩ := contexts other otherMember
    rw [name, otherName]
    exact piped.distinct old inOld otherOld otherInOld
      (session.symm.trans (equal.trans otherSession))
  · intro pipelined member
    rw [requests] at member
    exact Nat.lt_of_lt_of_le
      (piped.waiting pipelined (known ▸ List.mem_cons_of_mem _ member)) outcomes
  · rw [requests, appended]
    exact bounded
  · rw [requests, appended]
    exact numbered

/-! ## The slot-map update -/

/-- A node holds a connection. -/
def HoldsAt (cc : ValkeyClusterContext) (node c : Nat) : Prop :=
  ∃ known ∈ cc.nodes, known.id = node ∧ ∃ con, known.con = some con ∧ con.id = c

theorem HoldsAt.put {node c : Nat} (holds : cc.HoldsAt node c) (after : ValkeyContext)
    (nodes : next.nodes = (cc.putContext after).nodes) : next.HoldsAt node c := by
  obtain ⟨known, member, name, con, held, id⟩ := holds
  have inPut : known.mapCon (fun con => if con.id = after.id then after else con) ∈
      (cc.putContext after).nodes := List.mem_map_of_mem member
  refine ⟨known.mapCon fun con => if con.id = after.id then after else con, nodes ▸ inPut, name,
    if con.id = after.id then after else con, ?_, ?_⟩
  · simp [ValkeyClusterNode.mapCon, held]
  · split
    · rename_i same
      exact same.symm.trans id
    · exact id

/-- What one use of a connection changes. -/
structure Touched (cc : ValkeyClusterContext) (con after : ValkeyContext)
    (next : ValkeyClusterContext) : Prop where
  id : after.id = con.id
  session : after.session = con.session
  nodes : next.nodes = (cc.putContext after).nodes
  same : SameRequests cc next

theorem Touched.contexts {con after : ValkeyContext} (touched : Touched cc con after next)
    {found : ValkeyContext} (member : found ∈ next.contexts) :
    found = after ∨ found ∈ cc.contexts ∧ found.id ≠ con.id := by
  rw [ValkeyClusterContext.contexts, touched.nodes] at member
  exact touched.id ▸ mem_contexts_putContext member

theorem SameRequests.setContextError (cc : ValkeyClusterContext) (con : ValkeyContext) :
    SameRequests cc (cc.setContextError con) := by
  unfold ValkeyClusterContext.setContextError
  split <;> exact ⟨rfl, rfl, Nat.le_refl _⟩

section Update

variable (network : Nat → Outcome) (order : IterationOrder)

theorem touched_sendCommand (c : Nat) :
    Ensures (clusterUpdateRouteSendCommand network cc c) anyFault fun result =>
      ∃ con ∈ cc.contexts, con.id = c ∧ ∃ after, Touched cc con after result.2 ∧
        SentRoute con result.1 after := by
  refine (ensures_context fun _ => trivial).bind fun con ⟨member, name⟩ => ?_
  have sent := sentRoute (network cc.outcomes) con
  have kept : ∀ {status : Status} {after : ValkeyContext},
      valkeyBufferWrite (network cc.outcomes) (valkeyAppendCommand con .route) = (status, after) →
        after.id = con.id ∧ after.session = con.session := by
    intro status after written
    rcases valkeyBufferWrite_cases (network cc.outcomes) (valkeyAppendCommand con .route) with
      ⟨result, _⟩ | ⟨err, result⟩
    · rw [result] at written
      obtain ⟨_, rfl⟩ := Prod.mk.inj written
      exact ⟨rfl, rfl⟩
    · rw [result] at written
      obtain ⟨_, rfl⟩ := Prod.mk.inj written
      exact ⟨rfl, rfl⟩
  cases written : valkeyBufferWrite (network cc.outcomes) (valkeyAppendCommand con .route) with
  | mk status after =>
      obtain ⟨id, session⟩ := kept written
      rw [written] at sent
      have touched : Touched cc con after ((cc.advance.putContext after).recordWrites
          (valkeyAppendCommand con .route).flushed) :=
        ⟨id, session, rfl, rfl, rfl, Nat.le_succ _⟩
      simp only [written]
      cases status with
      | ok => exact ⟨con, member, name, after, touched, sent⟩
      | err =>
          exact ⟨con, member, name, after, ⟨id, session,
            (nodes_setContextError _ _).trans touched.nodes,
            touched.same.trans (.setContextError _ _)⟩, sent⟩

/-- What reading does to a connection. -/
theorem touched_exchange (con : ValkeyContext) (reader : Request) :
    Touched cc con (valkeyGetReply (network cc.outcomes) con).2
      (cc.exchange con (valkeyGetReply (network cc.outcomes) con).2 reader
        (valkeyGetReply (network cc.outcomes) con).1) := by
  have same : ∀ answer, SameRequests cc (cc.exchange con
      (valkeyGetReply (network cc.outcomes) con).2 reader answer) := by
    intro answer
    cases answer <;> exact ⟨rfl, rfl, Nat.le_succ _⟩
  have nodes : ∀ answer, (cc.exchange con (valkeyGetReply (network cc.outcomes) con).2 reader
      answer).nodes = (cc.putContext (valkeyGetReply (network cc.outcomes) con).2).nodes := by
    intro answer
    cases answer <;> rfl
  rcases valkeyGetReply_cases (network cc.outcomes) con with
    ⟨answer, after, read, reads⟩ | ⟨after, read, lost⟩
  · exact ⟨by rw [read]; exact reads.id, by rw [read]; exact reads.session, nodes _, same _⟩
  · exact ⟨by rw [read]; exact lost.id, by rw [read]; exact lost.session, nodes _, same _⟩

/-- The reply to a route query has been handled. -/
structure Handled (cc : ValkeyClusterContext) (con : ValkeyContext)
    (result : Status × ValkeyClusterContext) : Prop where
  same : SameRequests cc result.2
  contexts : ∀ found ∈ result.2.contexts,
    found.id = con.id ∧ found.session = con.session ∧
        (con.outstanding = [.route] → found.err = none → found.outstanding = []) ∨
      found ∈ cc.contexts ∧ found.id ≠ con.id
  failed : result.1 = .err → ∀ node, cc.HoldsAt node con.id → result.2.HoldsAt node con.id

theorem handled_handleReply (c : Nat) :
    Ensures (clusterUpdateRouteHandleReply network order cc c) anyFault fun result =>
      ∃ con ∈ cc.contexts, con.id = c ∧ Handled cc con result := by
  refine (ensures_context fun _ => trivial).bind fun con ⟨member, name⟩ => ?_
  have touched : Touched cc con (valkeyGetReply (network cc.outcomes) con).2
      (cc.exchange con (valkeyGetReply (network cc.outcomes) con).2 .route
        (valkeyGetReply (network cc.outcomes) con).1) := touched_exchange network con .route
  have read : con.outstanding = [.route] →
      (valkeyGetReply (network cc.outcomes) con).2.err = none →
        (valkeyGetReply (network cc.outcomes) con).2.outstanding = [] := by
    intro one alive
    rcases valkeyGetReply_cases (network cc.outcomes) con with
      ⟨answer, after, result, reads⟩ | ⟨after, result, lost⟩
    · rw [result]
      have outstanding := reads.outstanding
      rw [one] at outstanding
      exact (List.cons.inj outstanding).2.symm
    · rw [result] at alive
      exact absurd alive lost.err
  have failed : ∀ {next : ValkeyClusterContext},
      next.nodes = (cc.putContext (valkeyGetReply (network cc.outcomes) con).2).nodes →
        SameRequests cc next → Handled cc con (.err, next) := by
    intro next nodes same
    refine ⟨same, fun found inContexts => ?_, fun _ node holds => holds.put _ nodes⟩
    have changed : Touched cc con _ next := ⟨touched.id, touched.session, nodes, same⟩
    rcases changed.contexts inContexts with rfl | old
    · exact Or.inl ⟨touched.id, touched.session, read⟩
    · exact Or.inr old
  refine Ensures.mono (?_ : Ensures _ anyFault (Handled cc con))
    fun result handled => ⟨con, member, name, handled⟩
  dsimp only
  generalize cc.exchange con (valkeyGetReply (network cc.outcomes) con).2 .route
    (valkeyGetReply (network cc.outcomes) con).1 = last at touched ⊢
  split
  · exact failed ((nodes_setContextError _ _).trans touched.nodes)
      (touched.same.trans (.setContextError _ _))
  split
  · exact failed touched.nodes (touched.same.trans ⟨rfl, rfl, Nat.le_refl _⟩)
  split
  · exact failed touched.nodes (touched.same.trans ⟨rfl, rfl, Nat.le_refl _⟩)
  · rename_i made
    have new := (parses_routeReply last _ _).of_ok made
    rcases updateNodesAndSlotmap_cases order true last _ with
      ⟨type, str, updated⟩ | ⟨table, _, _, updated⟩
    · rw [updated]
      exact failed touched.nodes (touched.same.trans ⟨rfl, rfl, Nat.le_refl _⟩)
    · rw [updated]
      refine ⟨touched.same.trans ⟨rfl, rfl, Nat.le_refl _⟩, fun found inContexts => ?_,
        fun err => nomatch err⟩
      rcases touched.contexts (contexts_replaceNodes new inContexts) with rfl | old
      · exact Or.inl ⟨touched.id, touched.session, read⟩
      · exact Or.inr old

/-- A route query has been sent and its reply handled, or not. -/
structure Queried (cc : ValkeyClusterContext) (con : ValkeyContext)
    (result : Status × ValkeyClusterContext) : Prop where
  same : SameRequests cc result.2
  contexts : ∀ found ∈ result.2.contexts,
    found.id = con.id ∧ found.session = con.session ∧
        (result.1 = .ok → con.outstanding = [] → found.err = none → found.outstanding = []) ∨
      found ∈ cc.contexts ∧ found.id ≠ con.id
  alive : result.1 = .ok → con.err = none
  failed : result.1 = .err → ∀ node, cc.HoldsAt node con.id → result.2.HoldsAt node con.id

theorem queried_queryRoute (wellFormed : cc.WellFormed) {con : ValkeyContext}
    (member : con ∈ cc.contexts) :
    Ensures (queryRoute network order cc con.id) anyFault (Queried cc con) := by
  refine (touched_sendCommand network con.id).bind
    fun ⟨status, next⟩ ⟨used, usedMember, name, after, touched, sent⟩ => ?_
  obtain rfl := List.inj_on_of_nodup_map wellFormed.contextNames_nodup usedMember member name
  dsimp only at touched sent ⊢
  cases status with
  | err =>
      refine ⟨touched.same, fun found inContexts => ?_, fun ok => (nomatch ok), fun _ node holds =>
        holds.put after touched.nodes⟩
      rcases touched.contexts inContexts with rfl | old
      · exact Or.inl ⟨touched.id, touched.session, fun ok => nomatch ok⟩
      · exact Or.inr old
  | ok =>
      refine (handled_handleReply network order used.id).mono
        fun ⟨status, last⟩ ⟨read, readMember, readName, handled⟩ => ?_
      obtain rfl : read = after := (touched.contexts readMember).resolve_right
        fun old => old.2 readName
      refine ⟨touched.same.trans handled.same, fun found inContexts => ?_,
        fun _ => (sent.sent rfl).1, fun err node holds => ?_⟩
      · rcases handled.contexts found inContexts with ⟨id, session, idle⟩ | ⟨inNext, different⟩
        · refine Or.inl ⟨id.trans touched.id, session.trans touched.session, fun _ quiet => idle ?_⟩
          rw [(sent.sent rfl).2.2, quiet, List.nil_append]
        · refine Or.inr ((touched.contexts inNext).resolve_left fun same => ?_)
          exact different (same ▸ rfl)
      · exact touched.id ▸ handled.failed err node (touched.id.symm ▸ holds.put _ touched.nodes)

/-- A connection that its node drops is no longer one of the client's. -/
theorem not_mem_contexts_close (wellFormed : cc.WellFormed) {node c : Nat}
    (holds : cc.HoldsAt node c) {found : ValkeyContext}
    (member : found ∈ (cc.setCon node none).contexts) : found.id ≠ c := by
  obtain ⟨known, inNodes, rfl, con, held, rfl⟩ := holds
  have names := contextNames_close wellFormed.nodeNames_nodup inNodes held
  have unique := (List.nodup_cons.mp (names.nodup_iff.mp wellFormed.contextNames_nodup)).1
  exact fun same => unique (same ▸ List.mem_map_of_mem member)

/-- A query that succeeds over a connection with nothing to read changes nothing there,
and a connection over which a query fails is dropped. -/
theorem piped_queryRoute (piped : cc.Piped none) {con : ValkeyContext} (member : con ∈ cc.contexts)
    {node : Nat} (holds : cc.HoldsAt node con.id)
    (quiet : ∀ last, queryRoute network order cc con.id = .ok (.ok, last) → con.outstanding = []) :
    Ensures (queryRoute network order cc con.id) anyFault fun result =>
      (result.1 = .ok → result.2.Piped none) ∧
        (result.1 = .err → (result.2.setCon node none).Piped none) := by
  have attempted : Ensures (queryRoute network order cc con.id) anyFault (Attempted cc) :=
    (ensures_queryRoute network order piped.wellFormed (List.mem_map_of_mem member)).allow
      fun _ _ => trivial
  have queried := queried_queryRoute network order piped.wellFormed member
  refine (attempted.and queried).computed.mono fun ⟨status, next⟩ ⟨result, attempted, queried⟩ => ?_
  have sessions : ∀ found ∈ next.contexts, ∃ old ∈ cc.contexts,
      found.id = old.id ∧ found.session = old.session := by
    intro found inContexts
    rcases queried.contexts found inContexts with ⟨id, session, _⟩ | ⟨old, _⟩
    · exact ⟨con, member, id, session⟩
    · exact ⟨found, old, rfl, rfl⟩
  have others : next.Piped (some con.id) := by
    refine ⟨attempted.wellFormed, ?_, ?_, ?_, ?_, ?_, ?_⟩
    · intro found inContexts unused
      have old := (queried.contexts found inContexts).resolve_left fun here =>
        unused (congrArg some here.1.symm)
      exact queried.same.requests ▸ piped.matched found old.1 nofun
    · intro found inContexts
      obtain ⟨old, inOld, _, session⟩ := sessions found inContexts
      exact Nat.lt_of_lt_of_le (session ▸ piped.established old inOld) queried.same.outcomes
    · intro found inContexts other otherContexts equal
      obtain ⟨old, inOld, name, session⟩ := sessions found inContexts
      obtain ⟨otherOld, otherInOld, otherName, otherSession⟩ := sessions other otherContexts
      rw [name, otherName]
      exact piped.distinct old inOld otherOld otherInOld
        (session.symm.trans (equal.trans otherSession))
    · intro pipelined inRequests
      exact Nat.lt_of_lt_of_le (piped.waiting pipelined (queried.same.requests ▸ inRequests))
        queried.same.outcomes
    · rw [queried.same.requests, queried.same.appended]
      exact piped.bounded
    · rw [queried.same.requests, queried.same.appended]
      exact piped.numbered
  refine ⟨fun ok => others.settle fun found inContexts here => ?_, fun err => ?_⟩
  · obtain rfl : status = .ok := ok
    have nothing := quiet next result
    have waiting := piped.matched con member nofun (queried.alive rfl)
    rcases queried.contexts found inContexts with ⟨_, session, idle⟩ | ⟨_, different⟩
    · intro alive
      rw [idle rfl nothing alive, queried.same.requests, session, ← waiting, nothing]
    · exact absurd (Option.some.inj here).symm different
  · have holdsNext := queried.failed err node holds
    have gone : ∀ found ∈ (next.setCon node none).contexts, found ∈ next.contexts := by
      intro found inContexts
      rcases mem_contexts_setCon inContexts with closed | old
      · exact nomatch closed
      · exact old
    have closed := others.of_contexts (attempted.wellFormed.close node)
      ⟨rfl, rfl, Nat.le_refl _⟩ gone
    refine closed.settle fun found inContexts here => ?_
    exact absurd (Option.some.inj here).symm
      (not_mem_contexts_close attempted.wellFormed holdsNext inContexts)

end Update

end ValkeyClusterContext

end Libvalkey
