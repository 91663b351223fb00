import Libvalkey.Cluster.Addressing
import Libvalkey.Cluster.Admission
import Libvalkey.Cluster.Ports

/-! # Errors of a call

Whether `valkeyClusterFormattedCommand` sets the error of the client exactly when it
returns no reply. An error is left over when a connection is kept although its
handshake was rejected, and an error is lost when the slot-map update at the end
clears it. -/

namespace Libvalkey

open Checked ValkeyClusterContext

/-! ## Errors of the client's functions -/

section Functions

variable (network : Nat → Outcome) (order : IterationOrder) {cc next : ValkeyClusterContext}

theorem Reports.trans {status : Status} {middle last : ValkeyClusterContext}
    (reports : Reports status cc next) (before : middle.err = cc.err)
    (after : last.err = next.err) : Reports status middle last :=
  ⟨fun ok => after.trans ((reports.ok ok).trans before.symm), fun err => after ▸ reports.err err⟩

/-- A connection with an error passes it on. -/
theorem err_setContextError (cc : ValkeyClusterContext) {con : ValkeyContext}
    (lost : con.err ≠ none) : (cc.setContextError con).err ≠ none := by
  unfold ValkeyClusterContext.setContextError
  split
  · exact fun none => nomatch none
  · rename_i alive
    exact absurd alive lost

/-- The nodes are still there. -/
structure SamePorts (cc next : ValkeyClusterContext) : Prop where
  ports : next.nodes.map (·.port) = cc.nodes.map (·.port)

theorem SamePorts.of_nodes (nodes : next.nodes = cc.nodes) : SamePorts cc next := ⟨by rw [nodes]⟩

theorem SamePorts.trans {last : ValkeyClusterContext} (first : SamePorts cc next)
    (second : SamePorts next last) : SamePorts cc last := ⟨second.ports.trans first.ports⟩

theorem SamePorts.havePorts (same : SamePorts cc next) (ports : HavePorts cc.nodes) :
    HavePorts next.nodes := ports.of_ports same.ports

theorem SamePorts.populated (same : SamePorts cc next) (populated : cc.nodes ≠ []) :
    next.nodes ≠ [] := by
  intro empty
  have ports := same.ports
  rw [empty] at ports
  exact populated (List.map_eq_nil_iff.mp ports.symm)

theorem SamePorts.of_put {con : ValkeyContext} (nodes : next.nodes = (cc.putContext con).nodes) :
    SamePorts cc next := by
  refine ⟨?_⟩
  rw [nodes]
  unfold putContext
  rw [List.map_map]
  rfl

theorem samePorts_setCon (cc : ValkeyClusterContext) (node : Nat) (con : Option ValkeyContext) :
    SamePorts cc (cc.setCon node con) := by
  refine ⟨?_⟩
  unfold setCon
  rw [List.map_map]
  refine List.map_congr_left fun other _ => ?_
  dsimp only [Function.comp]
  split <;> rfl

/-- What asking for the connection of a node does to the error of the client. -/
structure GotContext (cc : ValkeyClusterContext) (node : Nat)
    (result : Option ValkeyContext × ValkeyClusterContext) : Prop where
  samePorts : SamePorts cc result.2
  populated : result.2.nodes ≠ []
  unreachable : result.1 = none → result.2.err ≠ none
  regained : ∀ c ∈ result.1, c.err = none → NodeRegains network cc node → result.2.err = cc.err
  rejected : ¬NodeRegains network cc node → result.2.err ≠ none

theorem gotContext (ports : HavePorts cc.nodes) (node : Nat) :
    Ensures (valkeyClusterGetValkeyContext network cc node) anyFault
      (GotContext network cc node) := by
  refine (ensures_node fun _ => trivial).computed.bind fun known ⟨found, member, name⟩ => ?_
  have populated : cc.nodes ≠ [] := List.ne_nil_of_mem member
  have regains : NodeRegains network cc node ↔ Regains network cc known.con := by
    refine ⟨fun regains => regains known found, fun regains other named => ?_⟩
    obtain rfl := Except.ok.inj (found.symm.trans named)
    exact regains
  have obtains := getContext_obtains network cc known.host known.port known.con
    fun cc c => cc.setCon node (some c)
  change GotContext network cc node (getContext network cc known.host known.port known.con
    fun cc c => cc.setCon node (some c))
  generalize getContext network cc known.host known.port known.con
    (fun cc c => cc.setCon node (some c)) = result at obtains ⊢
  -- Only a connection that is set up again can be rejected and kept.
  have unheld : known.con = none → NodeRegains network cc node := fun none =>
    regains.mpr fun c held => nomatch none.symm.trans held
  cases obtains with
  | unreachable without talked outcomes nextContext err paired commandWrites =>
      have same : SamePorts cc _ := .of_nodes talked.nodes
      exact ⟨same, same.populated populated, fun _ => err (ports known member),
        fun _ held => (nomatch held), fun rejected => absurd (unheld without) rejected⟩
  | @existing con held alive =>
      refine ⟨⟨rfl⟩, populated, fun none => (nomatch none), fun _ _ _ _ => rfl,
        fun rejected => absurd (regains.mpr fun c same lost => ?_) rejected⟩
      obtain rfl := Option.some.inj (held.symm.trans same)
      exact absurd alive lost
  | @reconnected old con middle held lost made established id nextContext =>
      have same : SamePorts cc (middle.putContext con) :=
        (SamePorts.of_nodes established.talked.nodes).trans (.of_put rfl)
      have afterwards : (reconnect network cc old).2.err = (middle.putContext con).err := by
        rw [made]
        rfl
      refine ⟨same, same.populated populated, fun none => (nomatch none),
        fun c equal alive regain => ?_, fun rejected => ?_⟩
      · obtain rfl := Option.some.inj equal
        have open_ : (reconnect network cc old).1.err = none := by rw [made]; exact alive
        have accepted := regains.mp regain old held lost open_
        exact afterwards ▸ err_reconnect network cc accepted open_
      · rw [← afterwards]
        refine err_reconnect_rejected network cc fun accepted => rejected (regains.mpr ?_)
        intro c same _ _
        obtain rfl := Option.some.inj (held.symm.trans same)
        exact accepted
  | @new con middle without established id nextContext err accepted =>
      have same : SamePorts cc (middle.setCon node (some con)) :=
        (SamePorts.of_nodes established.talked.nodes).trans (samePorts_setCon middle node _)
      exact ⟨same, same.populated populated, fun none => (nomatch none), fun _ _ _ _ => err,
        fun rejected => absurd (unheld without) rejected⟩

/-- What a route query, or a part of it, does to the error of the client. -/
structure Asked (cc : ValkeyClusterContext) (result : Status × ValkeyClusterContext) : Prop where
  ports : HavePorts result.2.nodes
  populated : result.1 = .err → result.2.nodes ≠ []
  reports : Reports result.1 cc result.2

theorem populated_of_contexts {con : ValkeyContext} (member : con ∈ cc.contexts) :
    cc.nodes ≠ [] := by
  obtain ⟨node, inNodes, _⟩ := List.mem_flatMap.mp member
  exact List.ne_nil_of_mem inNodes

theorem bufferWrite_status (outcome : Outcome) {con other : ValkeyContext}
    (same : other.err = con.err) :
    (valkeyBufferWrite outcome other).1 = (valkeyBufferWrite outcome con).1 := by
  unfold valkeyBufferWrite
  rw [same]
  split
  · rfl
  split <;> rfl

/-- The query is sent, or its connection is lost with what is in the reader. -/
structure SentQuery (cc : ValkeyClusterContext) (con : ValkeyContext)
    (result : Status × ValkeyClusterContext) : Prop where
  asked : Asked cc result
  status : result.1 = (valkeyBufferWrite (network cc.outcomes) con).1
  after : ∀ found ∈ result.2.contexts, found.id = con.id →
    found.arrived = con.arrived ∧ (result.1 = .err → found.err ≠ none)

theorem sentQuery (ports : HavePorts cc.nodes) (c : Nat) :
    Ensures (clusterUpdateRouteSendCommand network cc c) anyFault fun result =>
      ∃ con ∈ cc.contexts, con.id = c ∧ SentQuery network cc con result := by
  refine (ensures_context fun _ => trivial).bind fun con held => ?_
  obtain ⟨member, name⟩ := held
  have status := bufferWrite_status (network cc.outcomes)
    (show (valkeyAppendCommand con .route).err = con.err from rfl)
  dsimp only
  rcases valkeyBufferWrite_cases (network cc.outcomes) (valkeyAppendCommand con .route) with
    ⟨written, alive⟩ | ⟨err, written⟩
  · rw [written] at status ⊢
    refine ⟨con, member, name, ⟨SamePorts.havePorts (.of_put rfl) ports, fun err => (by cases err),
      fun _ => rfl, fun err => by cases err⟩, status, fun found inContexts id => ?_⟩
    obtain rfl := (mem_contexts_putContext inContexts).resolve_right fun old => old.2 id
    exact ⟨rfl, fun err => by cases err⟩
  · rw [written] at status ⊢
    have same : SamePorts cc (((cc.advance.putContext
        { valkeyAppendCommand con .route with err := some err }).recordWrites
          (valkeyAppendCommand con .route).flushed).setContextError
            { valkeyAppendCommand con .route with err := some err }) :=
      .of_put (nodes_setContextError _ _)
    refine ⟨con, member, name, ⟨same.havePorts ports,
      fun _ => same.populated (populated_of_contexts member), fun ok => (by cases ok),
      fun _ => err_setContextError _ nofun⟩, status, fun found inContexts id => ?_⟩
    dsimp only at inContexts
    rw [ValkeyClusterContext.contexts, nodes_setContextError] at inContexts
    obtain rfl := (mem_contexts_putContext inContexts).resolve_right fun old => old.2 id
    exact ⟨rfl, fun _ none => by cases none⟩

theorem asked_sendCommand (ports : HavePorts cc.nodes) (c : Nat) :
    Ensures (clusterUpdateRouteSendCommand network cc c) anyFault (Asked cc) :=
  (sentQuery network ports c).mono fun _ ⟨_, _, _, sent⟩ => sent.asked

theorem ports_swap {old new : List (ValkeyClusterNode ValkeyContext)} (ports : HavePorts new) :
    HavePorts (cluster_nodes_swap_ctx old new) := by
  refine ports.of_ports ?_
  unfold cluster_nodes_swap_ctx
  rw [List.map_map]
  refine List.map_congr_left fun node _ => ?_
  dsimp only [Function.comp]
  split <;> rfl

theorem ports_routeReply (cc : ValkeyClusterContext) (host : Bytes) (reply : ReplyTree) :
    Parses (parseRouteReply cc host reply) HavePorts := by
  unfold parseRouteReply
  split
  · exact ports_cluster_nodes _ host _ reply
  · exact ports_cluster_slots _ host _ reply

theorem asked_handleReply (ports : HavePorts cc.nodes) (c : Nat) :
    Ensures (clusterUpdateRouteHandleReply network order cc c) anyFault (Asked cc) := by
  refine (ensures_context fun _ => trivial).bind fun con ⟨member, _⟩ => ?_
  have populated := populated_of_contexts member
  dsimp only
  rcases valkeyGetReply_cases (network cc.outcomes) con with
    ⟨answer, after, read, _⟩ | ⟨after, read, lost⟩
  · rw [read]
    have same : SamePorts cc (cc.exchange con after .route (some answer)) := .of_put rfl
    have failed : ∀ (type : ErrorType) (str : Bytes),
        Asked cc (.err, (cc.exchange con after .route (some answer)).setError type str) :=
      fun type str => ⟨same.havePorts ports, fun _ => same.populated populated, fun ok =>
        (nomatch ok),
        fun _ none => nomatch none⟩
    dsimp only
    split
    · exact failed _ _
    split
    · exact failed _ _
    · rename_i nodes made
      have newPorts := (ports_routeReply _ _ _).of_ok made
      rcases updateNodesAndSlotmap_cases order true (cc.exchange con after .route (some answer))
        nodes with ⟨type, str, updated⟩ | ⟨table, _, _, updated⟩
      · rw [updated]
        exact failed _ _
      · rw [updated]
        exact ⟨ports_swap newPorts, fun err => (nomatch err), fun _ => rfl, fun err => nomatch err⟩
  · rw [read]
    have same : SamePorts cc ((cc.exchange con after .route none).setContextError after) :=
      .of_put (nodes_setContextError _ after)
    exact ⟨same.havePorts ports, fun _ => same.populated populated, fun ok => (nomatch ok),
      fun _ => err_setContextError _ lost.err⟩

theorem asked_queryRoute (ports : HavePorts cc.nodes) (c : Nat) :
    Ensures (queryRoute network order cc c) anyFault (Asked cc) := by
  refine (asked_sendCommand network ports c).bind fun ⟨status, next⟩ sent => ?_
  cases status with
  | err => exact sent
  | ok =>
      exact (asked_handleReply network order sent.ports c).mono fun _ handled =>
        ⟨handled.ports, handled.populated, handled.reports.trans (sent.reports.ok rfl).symm rfl⟩

/-- What the slot-map update does to the error of the client. -/
structure UpdatedSlots (result : Status × ValkeyClusterContext) : Prop where
  ports : HavePorts result.2.nodes
  ok : result.1 = .ok → result.2.err = none
  err : result.1 = .err → result.2.err ≠ none

theorem updatedSlots_from (ports : HavePorts cc.nodes) (nodes : List Nat)
    (tries : cc.err ≠ none ∨ nodes ≠ []) :
    Ensures (updateSlotmapFrom network order cc nodes) anyFault UpdatedSlots := by
  induction nodes generalizing cc with
  | nil =>
      exact ⟨ports, fun ok => (nomatch ok), fun _ => tries.resolve_right fun none => none rfl⟩
  | cons node rest induction =>
      refine (gotContext network ports node).bind fun ⟨con, next⟩ got => ?_
      have ports := got.samePorts.havePorts ports
      cases con with
      | none => exact induction ports (Or.inl (got.unreachable rfl))
      | some c =>
          refine (asked_queryRoute network order ports c.id).bind fun ⟨status, last⟩ asked => ?_
          cases status with
          | ok => exact ⟨asked.ports, fun _ => rfl, fun err => nomatch err⟩
          | err =>
              exact induction ((samePorts_setCon last node none).havePorts asked.ports)
                (Or.inl (asked.reports.err rfl))

theorem updatedSlots (ports : HavePorts cc.nodes) (tries : cc.err ≠ none ∨ cc.nodes ≠ []) :
    Ensures (valkeyClusterUpdateSlotmap network order cc) anyFault UpdatedSlots := by
  refine updatedSlots_from network order ports _ (tries.imp_right fun populated none => ?_)
  have empty := (order.perm cc.nodes).length_eq
  rw [List.map_eq_nil_iff.mp none] at empty
  exact populated (List.length_eq_zero_iff.mp empty.symm)

end Functions

/-! ## The executor -/

section Executor

variable (network : Nat → Outcome) (order : IterationOrder) (command : Command)

/-- The states that a call has gone through, the latest first. -/
inductive Trace (start : ExecutorState) : List ExecutorState → ExecutorState → Prop
  | start : Trace start [] start
  | step {earlier : List ExecutorState} {state next : ExecutorState}
      (trace : Trace start earlier state)
      (step : executorStep network order command state = .ok next) :
      Trace start (state :: earlier) next

/-- A step after which an error is left over although the call can go on: a lost
connection is kept when AUTH or SELECT are rejected after it has been set up again, or a
query can not be sent over a connection that has a reply in its reader. -/
def Spoils : ExecutorState → Prop
  | (.connect node, s) | (.movedConnect node, s) => ¬NodeRegains network s.cc node
  | (.updateUnreachable, s) => ∃ cc node next,
      valkeyClusterUpdateSlotmap network order s.cc = .ok (.ok, cc) ∧
        node_get_by_table cc command.slot = (some node, next) ∧ ¬NodeRegains network next node
  | (.ask c, s) => ∃ node slot cc,
      getNodeFromRedirectReply s.cc c s.text = .ok (some (node, slot), cc) ∧
        ¬NodeRegains network cc node
  | (.movedRetry c, s) => s.cc.needUpdateRoute ∧ s.updating = none ∧ ∃ con,
      s.cc.context c = .ok con ∧ con.arrived ≠ [] ∧
        (valkeyBufferWrite (network s.cc.outcomes) con).1 = .err
  | _ => False

/-- The slot map is updated in between, which clears the error when it succeeds. -/
def Label.updates : Label → Bool
  | .updateUnserved | .updateUnreachable | .movedUpdate _ => true
  | _ => false

/-- A step has left an error over since the last update. -/
def LeftOver : List ExecutorState → Prop
  | [] => False
  | state :: earlier =>
      Spoils network order command state ∨ ¬state.1.updates ∧ LeftOver earlier

/-- Where the client has an error. -/
def ErrorAt (leftOver : Prop) : ExecutorState → Prop
  | (.updateUnserved, s) | (.movedUpdate _, s) | (.error, s) => s.cc.err ≠ none
  | (.updateUnreachable, s) => s.cc.err ≠ none ∨ s.cc.nodes ≠ []
  | (.replied _, s) => s.reply ≠ none ∧ (s.cc.err ≠ none ↔ leftOver)
  | (.done, s) =>
      (s.reply = none → s.cc.err ≠ none) ∧ (s.reply ≠ none → (s.cc.err ≠ none ↔ leftOver))
  | (.returned, _) => True
  | (_, s) => s.cc.err ≠ none ↔ leftOver

/-- The invariant of a call. -/
structure Agrees (leftOver : Prop) (state : ExecutorState) : Prop where
  ports : HavePorts state.2.cc.nodes
  error : ErrorAt leftOver state

variable {s : Executor} {leftOver : Prop}

/-- With an open connection the client has an error if it had one before or if the
connection was rejected. -/
theorem GotContext.err_iff {cc next : ValkeyClusterContext} {node : Nat}
    {con : Option ValkeyContext} {c : ValkeyContext} (got : GotContext network cc node (con, next))
    (agrees : cc.err ≠ none ↔ leftOver) (held : con = some c) (alive : c.err = none) :
    next.err ≠ none ↔ ¬NodeRegains network cc node ∨ leftOver := by
  by_cases regains : NodeRegains network cc node
  · have same : next.err = cc.err := got.regained c held alive regains
    rw [same, agrees]
    simp [regains]
  · exact ⟨fun _ => Or.inl regains, fun _ => got.rejected regains⟩

theorem agrees_useConnection {cc : ValkeyClusterContext} {node : Nat}
    {con : Option ValkeyContext} {next : ValkeyClusterContext} {label : Nat → Label}
    (ports : HavePorts cc.nodes) (got : GotContext network cc node (con, next))
    (agrees : cc.err ≠ none ↔ leftOver)
    (goesOn : ∀ c leftOver, ErrorAt leftOver (label c, { s with cc := next }) ↔
      (next.err ≠ none ↔ leftOver)) :
    Agrees (¬NodeRegains network cc node ∨ leftOver)
      (useConnection { s with cc := next } con label) := by
  have nextPorts := got.samePorts.havePorts ports
  cases con with
  | none => exact ⟨nextPorts, got.unreachable rfl⟩
  | some c =>
      unfold useConnection
      dsimp only
      split
      · rename_i lost
        refine ⟨?_, err_setContextError next (Option.isSome_iff_ne_none.mp lost)⟩
        exact (nodes_setContextError next c).symm ▸ nextPorts
      · rename_i alive
        refine ⟨nextPorts, (goesOn c.id _).mpr ?_⟩
        exact got.err_iff network agrees rfl (by simpa using alive)

theorem agrees_retryStep (ports : HavePorts s.cc.nodes) (agrees : s.cc.err ≠ none ↔ leftOver) :
    Ensures (retryStep command s) anyFault (Agrees leftOver) := by
  unfold retryStep
  rcases node_get_by_table_found s.cc command.slot with ⟨node, found⟩ | ⟨str, missing⟩
  · rw [found]
    exact ⟨ports, agrees⟩
  · rw [missing]
    exact ⟨ports, fun none => nomatch none⟩

theorem agrees_updateUnservedStep (ports : HavePorts s.cc.nodes) (err : s.cc.err ≠ none) :
    Ensures (updateUnservedStep network order command s) anyFault (Agrees False) := by
  refine (updatedSlots network order ports (Or.inl err)).bind fun ⟨status, cc⟩ updated => ?_
  cases status with
  | err => exact ⟨updated.ports, updated.err rfl⟩
  | ok =>
      dsimp only
      rcases node_get_by_table_found cc command.slot with ⟨node, found⟩ | ⟨str, missing⟩
      · rw [found]
        exact ⟨updated.ports, by simp [ErrorAt, show cc.err = none from updated.ok rfl]⟩
      · rw [missing]
        exact ⟨updated.ports, fun none => nomatch none⟩

theorem agrees_connectStep {node : Nat} (ports : HavePorts s.cc.nodes)
    (agrees : s.cc.err ≠ none ↔ leftOver) :
    Ensures (connectStep network s node) anyFault
      (Agrees (¬NodeRegains network s.cc node ∨ leftOver)) := by
  refine (gotContext network ports node).bind fun ⟨con, cc⟩ got => ?_
  have nextPorts := got.samePorts.havePorts ports
  cases con with
  | none => exact ⟨nextPorts, Or.inl (got.unreachable rfl)⟩
  | some c =>
      dsimp only
      split
      · exact ⟨nextPorts, Or.inr got.populated⟩
      · rename_i alive
        exact ⟨nextPorts, got.err_iff network agrees rfl (by simpa using alive)⟩

theorem agrees_updateUnreachableStep (ports : HavePorts s.cc.nodes)
    (tries : s.cc.err ≠ none ∨ s.cc.nodes ≠ []) :
    Ensures (updateUnreachableStep network order command s) anyFault
      (Agrees (Spoils network order command (.updateUnreachable, s))) := by
  refine (updatedSlots network order ports tries).computed.bind
    fun ⟨status, cc⟩ ⟨result, updated⟩ => ?_
  cases status with
  | err => exact ⟨updated.ports, updated.err rfl⟩
  | ok =>
      dsimp only
      rcases node_get_by_table_found cc command.slot with ⟨node, found⟩ | ⟨str, missing⟩
      · rw [found]
        refine (gotContext network updated.ports node).bind fun ⟨con, next⟩ got => ?_
        have none : cc.err ≠ none ↔ False := by simp [show cc.err = none from updated.ok rfl]
        have used : Agrees (¬NodeRegains network cc node ∨ False)
            (useConnection { s with cc := next } con .movedRetry) :=
          agrees_useConnection network updated.ports got none fun _ _ => Iff.rfl
        refine cast (congrArg (Agrees · _) (propext ?_)) used
        refine ⟨fun rejected => ⟨cc, node, cc, result, found, rejected.resolve_right id⟩,
          fun ⟨other, otherNode, last, otherResult, otherFound, rejected⟩ => Or.inl ?_⟩
        obtain ⟨_, rfl⟩ := Prod.mk.inj (Except.ok.inj (result.symm.trans otherResult))
        obtain ⟨same, rfl⟩ := Prod.mk.inj (found.symm.trans otherFound)
        obtain rfl := Option.some.inj same
        exact rejected
      · rw [missing]
        exact ⟨updated.ports, fun none => nomatch none⟩

theorem agrees_movedConnectStep {node : Nat} (ports : HavePorts s.cc.nodes)
    (agrees : s.cc.err ≠ none ↔ leftOver) :
    Ensures (movedConnectStep network s node) anyFault
      (Agrees (¬NodeRegains network s.cc node ∨ leftOver)) :=
  (gotContext network ports node).bind fun _ got =>
    agrees_useConnection network ports got agrees fun _ _ => Iff.rfl

theorem agrees_movedUpdateStep {node : Nat} (ports : HavePorts s.cc.nodes) (err : s.cc.err ≠ none) :
    Ensures (movedUpdateStep network order s node) anyFault (Agrees False) := by
  refine (updatedSlots network order ports (Or.inl err)).bind fun ⟨status, cc⟩ updated => ?_
  cases status with
  | err => exact ⟨updated.ports, updated.err rfl⟩
  | ok => exact ⟨updated.ports, by simp [ErrorAt, clearError]⟩

/-- The node of a redirect, which may have been added. -/
theorem gotRedirect {cc : ValkeyClusterContext} (ports : HavePorts cc.nodes) (c : Nat)
    (str : Bytes) : Ensures (getNodeFromRedirectReply cc c str) anyFault fun result =>
      HavePorts result.2.nodes ∧ result.2.nodes ≠ [] ∧ (result.1 = none → result.2.err ≠ none) ∧
        (result.1 ≠ none → result.2.err = cc.err) := by
  refine (ensures_context fun _ => trivial).bind fun con ⟨member, _⟩ => ?_
  have populated := populated_of_contexts member
  split
  · exact ⟨ports, populated, fun _ none => (nomatch none), fun some => absurd rfl some⟩
  · rename_i redirect parsed
    split
    · exact ⟨ports, populated, fun none => (nomatch none), fun _ => rfl⟩
    · exact ⟨ports.append ((port_redirect con.host str).of_ok parsed), by simp [addNode],
        fun none => (nomatch none), fun _ => rfl⟩

theorem agrees_askStep {c : Nat} (ports : HavePorts s.cc.nodes)
    (agrees : s.cc.err ≠ none ↔ leftOver) :
    Ensures (askStep network s c) anyFault
      (Agrees (Spoils network order command (.ask c, s) ∨ leftOver)) := by
  refine (gotRedirect ports c s.text).computed.bind
    fun ⟨target, cc⟩ ⟨result, redirectPorts, _, failed, kept⟩ => ?_
  cases target with
  | none => exact ⟨redirectPorts, failed rfl⟩
  | some target =>
      obtain ⟨node, slot⟩ := target
      have same : cc.err = s.cc.err := kept nofun
      refine (gotContext network redirectPorts node).bind fun ⟨con, next⟩ got => ?_
      have used : Agrees (¬NodeRegains network cc node ∨ leftOver)
          (useConnection { s with cc := next, reply := none } con .asking) :=
        agrees_useConnection network (s := { s with reply := none }) redirectPorts got
          (same ▸ agrees) fun _ _ => Iff.rfl
      refine cast (congrArg (Agrees · _) (propext ?_)) used
      refine or_congr ⟨fun rejected => ⟨node, slot, cc, result, rejected⟩,
        fun ⟨otherNode, otherSlot, other, otherResult, rejected⟩ => ?_⟩ Iff.rfl
      obtain ⟨sameTarget, rfl⟩ := Prod.mk.inj (Except.ok.inj (result.symm.trans otherResult))
      obtain ⟨rfl, _⟩ := Prod.mk.inj (Option.some.inj sameTarget)
      exact rejected

theorem agrees_askingStep {c : Nat} (ports : HavePorts s.cc.nodes)
    (agrees : s.cc.err ≠ none ↔ leftOver) :
    Ensures (askingStep network s c) anyFault (Agrees leftOver) := by
  refine (ensures_context fun _ => trivial).bind fun con _ => ?_
  unfold valkeyCommand
  rcases valkeyGetReply_cases (network s.cc.outcomes) (valkeyAppendCommand con .asking) with
    ⟨answer, after, read, _⟩ | ⟨after, read, lost⟩
  · simp only [read]
    have same : SamePorts s.cc (((s.cc.advance.recordWrites
        (valkeyAppendCommand con .asking).flushedToRead).record .asking (some answer)).putContext
          after) := .of_put rfl
    exact ⟨same.havePorts ports, agrees⟩
  · simp only [read]
    have same : SamePorts s.cc ((((s.cc.advance.recordWrites
        (valkeyAppendCommand con .asking).flushedToRead).record .asking none).putContext
          after).setContextError after) := .of_put (nodes_setContextError _ after)
    exact ⟨same.havePorts ports, err_setContextError _ lost.err⟩

theorem agrees_movedStep {c : Nat} (ports : HavePorts s.cc.nodes)
    (agrees : s.cc.err ≠ none ↔ leftOver) :
    Ensures (movedStep network s c) anyFault (Agrees leftOver) := by
  refine (gotRedirect ports c s.text).bind fun ⟨target, cc⟩ ⟨redirectPorts, _, failed, kept⟩ => ?_
  cases target with
  | none => exact ⟨redirectPorts, failed rfl⟩
  | some target =>
      obtain ⟨node, slot⟩ := target
      have same : cc.err = s.cc.err := kept nofun
      have set : Ensures (updateSlot cc slot node) anyFault fun next =>
          next.nodes = cc.nodes ∧ next.err = cc.err := by
        unfold updateSlot setTable
        split
        · split
          · trivial
          split
          · exact ⟨rfl, rfl⟩
          · trivial
        · exact ⟨rfl, rfl⟩
      refine set.bind fun next ⟨nodes, err⟩ => ?_
      have ports : HavePorts next.nodes := nodes ▸ redirectPorts
      have agrees : next.err ≠ none ↔ leftOver := by rw [err, same, agrees]
      dsimp only
      split
      · exact ⟨ports, agrees⟩
      · refine (asked_sendCommand network ports c).bind fun ⟨status, last⟩ asked => ?_
        cases status with
        | ok =>
            refine ⟨asked.ports, ?_⟩
            change last.err ≠ none ↔ leftOver
            rw [asked.reports.ok rfl, agrees]
        | err => exact ⟨asked.ports, asked.reports.err rfl⟩

theorem agrees_repliedStep {c : Nat} (ports : HavePorts s.cc.nodes) (reply : s.reply ≠ none)
    (agrees : s.cc.err ≠ none ↔ leftOver) :
    Ensures (repliedStep s c) anyFault (Agrees leftOver) := by
  unfold repliedStep
  split
  · rename_i missing
    exact absurd missing reply
  dsimp only
  split
  · exact ⟨ports, fun none => absurd none reply, fun _ => agrees⟩
  split
  · exact ⟨ports, fun none => nomatch none⟩
  split
  · exact ⟨ports, agrees⟩
  · exact ⟨ports, agrees⟩
  · exact ⟨ports, agrees⟩

theorem scheduleUpdate_fields (cc : ValkeyClusterContext) :
    (scheduleUpdate cc).err = cc.err ∧ (scheduleUpdate cc).nodes = cc.nodes := by
  unfold scheduleUpdate
  split <;> exact ⟨rfl, rfl⟩

/-- A lost connection brings only the replies in its reader. -/
theorem readable_of_reply {outcome : Outcome} {con after : ValkeyContext} {answer : Answer}
    (read : valkeyGetReply outcome con = (some answer, after)) : con.err = none ∨
    con.arrived ≠ [] := by
  by_cases alive : con.err = none
  · exact Or.inl alive
  · refine Or.inr fun empty => ?_
    have lost : con.err.isSome := Option.isSome_iff_ne_none.mpr alive
    simp [valkeyGetReply, empty, valkeyBufferWrite, lost] at read

/-- The scheduled query can not be sent. -/
def Blocked (cc : ValkeyClusterContext) (updating : Option Nat) (con : ValkeyContext) : Prop :=
  cc.needUpdateRoute ∧ updating = none ∧ (valkeyBufferWrite (network cc.outcomes) con).1 = .err

/-- A scheduled query has been sent with the command, or could not be. -/
structure Scheduled (cc : ValkeyClusterContext) (updating : Option Nat) (con : ValkeyContext)
    (result : Status × ValkeyClusterContext) : Prop where
  ports : HavePorts result.2.nodes
  arrived : ∀ found ∈ result.2.contexts, found.id = con.id → found.arrived = con.arrived
  lost : Blocked network cc updating con →
    result.2.err ≠ none ∧ ∀ found ∈ result.2.contexts, found.id = con.id → found.err ≠ none
  kept : ¬Blocked network cc updating con → result.2.err = cc.err

theorem scheduled {cc : ValkeyClusterContext} (ports : HavePorts cc.nodes) (updating : Option Nat)
    {con : ValkeyContext} (only : ∀ found ∈ cc.contexts, found.id = con.id → found = con) :
    Ensures (scheduledUpdate network cc updating con.id) anyFault
      (Scheduled network cc updating con) := by
  unfold scheduledUpdate
  split
  · rename_i due
    refine (sentQuery network ports con.id).mono fun ⟨status, next⟩ ⟨used, member, name, sent⟩ => ?_
    obtain rfl := only used member name
    have blocked : Blocked network cc updating used ↔ status = .err := by
      rw [show status = _ from sent.status]
      exact ⟨fun blocked => blocked.2.2, fun failed => ⟨due.1, due.2, failed⟩⟩
    refine ⟨sent.asked.ports, fun found inContexts same => (sent.after found inContexts same).1,
      fun isBlocked => ?_, fun notBlocked => ?_⟩
    · have failed := blocked.mp isBlocked
      exact ⟨sent.asked.reports.err failed,
        fun found inContexts same => (sent.after found inContexts same).2 failed⟩
    · cases status with
      | ok => exact sent.asked.reports.ok rfl
      | err => exact absurd (blocked.mpr rfl) notBlocked
  · rename_i notDue
    refine ⟨ports, fun found inContexts same => ?_,
      fun blocked => absurd ⟨blocked.1, blocked.2.1⟩ notDue, fun _ => rfl⟩
    rw [only found inContexts same]

theorem agrees_movedRetryStep {c : Nat} (ports : HavePorts s.cc.nodes)
    (agrees : s.cc.err ≠ none ↔ leftOver) :
    Ensures (movedRetryStep network command s c) anyFault
      (Agrees (Spoils network order command (.movedRetry c, s) ∨ leftOver)) := by
  refine (ensures_context fun _ => trivial).computed.bind fun con ⟨named, member, name⟩ => ?_
  subst name
  have appended : HavePorts
      (s.cc.putContext (valkeyAppendCommand con (.command command.cmd))).nodes :=
    SamePorts.havePorts (.of_put rfl) ports
  have only : ∀ found ∈ (s.cc.putContext (valkeyAppendCommand con (.command command.cmd))).contexts,
      found.id = (valkeyAppendCommand con (.command command.cmd)).id →
        found = valkeyAppendCommand con (.command command.cmd) := fun found inContexts same =>
    (mem_contexts_putContext inContexts).resolve_right fun old => old.2 same
  refine (scheduled network appended s.updating only).bind fun ⟨status, next⟩ scheduled => ?_
  refine (ensures_context fun _ => trivial).bind fun last ⟨lastMember, lastName⟩ => ?_
  have arrived : last.arrived = con.arrived := scheduled.arrived last lastMember lastName
  have spoils : Blocked network (s.cc.putContext (valkeyAppendCommand con (.command command.cmd)))
      s.updating (valkeyAppendCommand con (.command command.cmd)) ∧ con.arrived ≠ [] ↔
        Spoils network order command (.movedRetry con.id, s) := by
    have sameStatus := bufferWrite_status (network s.cc.outcomes)
      (show (valkeyAppendCommand con (.command command.cmd)).err = con.err from rfl)
    refine ⟨fun ⟨⟨due, first, failed⟩, waits⟩ =>
      ⟨due, first, con, named, waits, sameStatus.symm.trans failed⟩,
      fun ⟨due, first, other, otherNamed, waits, failed⟩ => ?_⟩
    obtain rfl := Except.ok.inj (named.symm.trans otherNamed)
    exact ⟨⟨due, first, sameStatus.trans failed⟩, waits⟩
  rcases read : valkeyGetReply (network next.outcomes) last with ⟨answer, after⟩
  dsimp only
  cases answer with
  | some answer =>
      have same : SamePorts next (next.exchange last after (.command command.cmd) (some answer)) :=
        .of_put rfl
      refine ⟨same.havePorts scheduled.ports, nofun, ?_⟩
      change next.err ≠ none ↔ _
      by_cases blocked : Blocked network
        (s.cc.putContext (valkeyAppendCommand con (.command command.cmd))) s.updating
        (valkeyAppendCommand con (.command command.cmd))
      · have waits : con.arrived ≠ [] := arrived ▸ (readable_of_reply read).resolve_left
          ((scheduled.lost blocked).2 last lastMember lastName)
        exact ⟨fun _ => Or.inl (spoils.mp ⟨blocked, waits⟩), fun _ => (scheduled.lost blocked).1⟩
      · have same : next.err = s.cc.err := scheduled.kept blocked
        rw [same, agrees, ← spoils]
        simp [blocked]
  | none =>
      have lost : after.err ≠ none := by
        rcases valkeyGetReply_cases (network next.outcomes) last with
          ⟨answer, con, found, _⟩ | ⟨con, found, lost⟩
        · exact nomatch read.symm.trans found
        · obtain ⟨_, rfl⟩ := Prod.mk.inj (read.symm.trans found)
          exact lost.err
      have failed := err_setContextError
        (next.exchange last after (.command command.cmd) none) lost
      have nodes : SamePorts next
          ((next.exchange last after (.command command.cmd) none).setContextError after) :=
        .of_put (nodes_setContextError _ after)
      obtain ⟨err, same⟩ := scheduleUpdate_fields
        ((next.exchange last after (.command command.cmd) none).setContextError after)
      exact ⟨same ▸ nodes.havePorts scheduled.ports, fun none => failed (err.symm.trans none)⟩

/-- The reply to the deferred query can not be used. -/
def DeferredFails (s : Executor) : Prop :=
  ∃ c ∈ s.updating, ∃ cc, clusterUpdateRouteHandleReply network order s.cc c = .ok (.err, cc)

/-- The reply to the deferred query can not be used, but the update that is made
instead succeeds. -/
def DeferredRecovers (s : Executor) : Prop :=
  ∃ c ∈ s.updating, ∃ cc last, clusterUpdateRouteHandleReply network order s.cc c = .ok (.err, cc) ∧
    valkeyClusterUpdateSlotmap network order cc.clearError = .ok (.ok, last)

/-- At its end the call keeps the error if it has no reply, and has no error left over
if it has one. -/
def KeepsError (leftOver : Prop) (s : Executor) : Prop :=
  match s.reply with
  | none => ¬DeferredRecovers network order s
  | some _ => leftOver → DeferredFails network order s

/-- The error of the client tells whether there is a reply. -/
def Reported (reply : Option Answer) (cc : ValkeyClusterContext) : Prop :=
  reply = none ↔ cc.err ≠ none

theorem reported_doneStep (agrees : Agrees leftOver (.done, s)) :
    Ensures (doneStep network order s) anyFault fun next =>
      next.1 = .returned ∧ HavePorts next.2.cc.nodes ∧
        (Reported next.2.reply next.2.cc ↔ KeepsError network order leftOver s) := by
  obtain ⟨ports, missing, present⟩ := agrees
  -- The reply and the error stay as they are.
  have unchanged : ∀ {cc : ValkeyClusterContext}, cc.err = s.cc.err →
      ¬DeferredFails network order s →
        (Reported s.reply cc ↔ KeepsError network order leftOver s) := by
    intro cc err succeeds
    unfold Reported KeepsError
    cases reply : s.reply with
    | none =>
        refine iff_of_true (iff_of_true rfl (err ▸ missing reply))
          fun ⟨c, held, next, _, failed, _⟩ => ?_
        exact succeeds ⟨c, held, next, failed⟩
    | some answer =>
        rw [err, present (by simp [reply])]
        simp [succeeds]
  unfold doneStep
  split
  · rename_i none
    exact ⟨rfl, ports, unchanged rfl fun ⟨c, held, _⟩ => by simp [none] at held⟩
  · rename_i c held
    refine (asked_handleReply network order ports c).computed.bind
      fun ⟨status, cc⟩ ⟨handled, asked⟩ => ?_
    cases status with
    | ok =>
        refine ⟨rfl, asked.ports, unchanged (asked.reports.ok rfl)
          fun ⟨other, otherHeld, next, failed⟩ => ?_⟩
        obtain rfl := Option.some.inj (held.symm.trans otherHeld)
        exact nomatch handled.symm.trans failed
    | err =>
        have fails : DeferredFails network order s := ⟨c, held, cc, handled⟩
        have populated : cc.clearError.nodes ≠ [] := asked.populated rfl
        have clearedPorts : HavePorts cc.clearError.nodes := asked.ports
        refine (updatedSlots network order clearedPorts (Or.inr populated)).computed.bind
          fun ⟨status, last⟩ ⟨updated, slots⟩ => ?_
        cases status with
        | ok =>
            refine ⟨rfl, slots.ports, ?_⟩
            have recovers : DeferredRecovers network order s :=
              ⟨c, held, cc, last, handled, updated⟩
            have noError : last.err = none := slots.ok rfl
            unfold Reported KeepsError
            cases reply : s.reply with
            | none => simp [noError, recovers]
            | some answer => simp [noError, fails]
        | err =>
            refine ⟨rfl, slots.ports, ?_⟩
            have error : last.err ≠ none := slots.err rfl
            have fatal : ¬DeferredRecovers network order s := by
              rintro ⟨other, otherHeld, next, final, failed, recovered⟩
              obtain rfl := Option.some.inj (held.symm.trans otherHeld)
              obtain ⟨_, rfl⟩ := Prod.mk.inj (Except.ok.inj (handled.symm.trans failed))
              exact nomatch updated.symm.trans recovered
            unfold Reported KeepsError
            refine iff_of_true (iff_of_true rfl error) ?_
            cases reply : s.reply with
            | none => exact fatal
            | some answer => exact fun _ => fails

/-- One step of a call that has not come to its end. -/
theorem agrees_executorStep {state : ExecutorState} (agrees : Agrees leftOver state) :
    Ensures (executorStep network order command state) anyFault
      (Agrees (Spoils network order command state ∨ ¬state.1.updates ∧ leftOver)) := by
  obtain ⟨label, s⟩ := state
  obtain ⟨ports, error⟩ := agrees
  have kept : ∀ {next : ExecutorState} {more : Prop}, Agrees (more ∨ leftOver) next →
      Agrees (more ∨ ¬(false = true) ∧ leftOver) next := fun {next more} agrees =>
    cast (congrArg (Agrees · next) (propext (or_congr Iff.rfl (by simp)))) agrees
  have plain : ∀ {next : ExecutorState}, Agrees leftOver next →
      Agrees (False ∨ ¬(false = true) ∧ leftOver) next := fun {next} agrees =>
    cast (congrArg (Agrees · next) (propext (by simp))) agrees
  have cleared : ∀ {next : ExecutorState} {more : Prop}, Agrees more next →
      Agrees (more ∨ ¬(true = true) ∧ leftOver) next := fun {next more} agrees =>
    cast (congrArg (Agrees · next) (propext (by simp))) agrees
  cases label with
  | retry => exact (agrees_retryStep command ports error).mono fun _ => plain
  | updateUnserved =>
      exact (agrees_updateUnservedStep network order command ports error).mono fun _ => cleared
  | connect node => exact (agrees_connectStep network ports error).mono fun _ => kept
  | updateUnreachable =>
      exact (agrees_updateUnreachableStep network order command ports error).mono fun _ => cleared
  | movedRetry c =>
      exact (agrees_movedRetryStep network order command ports error).mono fun _ => kept
  | replied c => exact (agrees_repliedStep ports error.1 error.2).mono fun _ => plain
  | moved c => exact (agrees_movedStep network ports error).mono fun _ => plain
  | movedUpdate node =>
      exact (agrees_movedUpdateStep network order ports error).mono fun _ => cleared
  | movedConnect node => exact (agrees_movedConnectStep network ports error).mono fun _ => kept
  | ask c => exact (agrees_askStep network order command ports error).mono fun _ => kept
  | asking c => exact (agrees_askingStep network ports error).mono fun _ => plain
  | error => exact ⟨ports, fun _ => error, fun some => absurd rfl some⟩
  | done =>
      refine (reported_doneStep network order ⟨ports, error⟩).mono
        fun ⟨label, next⟩ ⟨returned, nextPorts, _⟩ => ?_
      obtain rfl : label = .returned := returned
      exact ⟨nextPorts, trivial⟩
  | returned => exact ⟨ports, trivial⟩

theorem Trace.agrees {start state : ExecutorState} {earlier : List ExecutorState}
    (trace : Trace network order command start earlier state) (first : Agrees False start) :
    Agrees (LeftOver network order command earlier) state := by
  induction trace with
  | start => exact first
  | step trace step induction =>
        exact (agrees_executorStep network order command induction).of_ok step

/-! ## The call -/

/-- A call of `valkeyClusterFormattedCommand` that returns, with the states that the
executor has gone through. -/
inductive FormattedCommand (cc : ValkeyClusterContext) (cmd : Bytes) :
    List ExecutorState → Option Answer → ValkeyClusterContext → Prop
  | refused {next : ValkeyClusterContext}
      (refused : prepareCommand cc.clearError cmd = .error next) :
      FormattedCommand cc cmd [] none { next with retryCount := 0 }
  | executed {command : Command} {earlier : List ExecutorState} {s last : Executor}
      (prepared : prepareCommand cc.clearError cmd = .ok command)
      (trace : Trace network order command (executorStart cc.clearError) earlier (.done, s))
      (finish : executorStep network order command (.done, s) = .ok (.returned, last)) :
      FormattedCommand cc cmd ((.done, s) :: earlier) last.reply { last.cc with retryCount := 0 }

/-- A call with an empty command reports nothing. Another one does unless an error is left
over or lost. -/
def CallReports (cc : ValkeyClusterContext) (cmd : Bytes) : List ExecutorState → Prop
  | [] => cmd ≠ []
  | (_, s) :: earlier => ∀ command, prepareCommand cc.clearError cmd = .ok command →
      KeepsError network order (LeftOver network order command earlier) s

end Executor

/-! ## A command in slot 0 -/

def getInSlotZero : Bytes := valkeyFormatCommandArgv [ascii "GET", ascii "06S"]

theorem prepareCommand_getInSlotZero (cc : ValkeyClusterContext) :
    prepareCommand cc getInSlotZero = .ok ⟨0, getInSlotZero⟩ := by
  have parsed : valkey_parse_cmd getInSlotZero = .ok (some (ascii "06S")) := by decide +kernel
  have slot : keyHashSlot (ascii "06S") = 0 := by decide
  have key : ascii "06S" = ['0'.toUInt8, '6'.toUInt8, 'S'.toUInt8] := rfl
  have notEmpty : getInSlotZero.length ≠ 0 := by decide
  rw [key] at parsed slot
  simp [prepareCommand, parsed, slot, notEmpty]

/-- The connection to the first node has been lost. -/
def lostNodes : ValkeyClusterContext :=
  { databaseNodes.setCon 0 (some
      { ValkeyContext.connected 0 0 (ascii "a") (calmNetwork (fun _ => .nil .null) 0) with
        err := some ⟨.io, ascii "Resource temporarily unavailable"⟩ }) with
    nextContext := 1
    outcomes := 1 }

/-- The server rejects the database after the connection has been set up again. -/
def rejectsSelect : Nat → Outcome :=
  calmNetwork fun time =>
    if time = 2 then .error (ascii "ERR DB index is out of range") else .string (ascii "v")

end Libvalkey
