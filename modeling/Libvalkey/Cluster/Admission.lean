import Libvalkey.Cluster.Addressing
import Libvalkey.Cluster.NoDangling
import Libvalkey.Cluster.Settled

/-! # Commands after an accepted handshake

A connection that is used was set up with an accepted AUTH and SELECT, as long as a
connection that is set up again is not kept when the server rejects one of them. -/

namespace Libvalkey

open Checked ValkeyClusterContext

/-- Every request of a list has been accepted. -/
def AllGranted (requests : List Request) (answered : List Answer) : Prop :=
  ∀ request ∈ requests, Granted request answered

/-- The connections that can be used have an accepted handshake behind them, and the
commands that were written had one before them. -/
structure ValkeyClusterContext.Admits (cc : ValkeyClusterContext) (requests : List Request) :
    Prop where
  handshake : cc.handshake = requests
  contexts : ∀ con ∈ cc.contexts, con.err = none → AllGranted requests con.answered
  writes : ∀ write ∈ cc.commandWrites, AllGranted requests write.answered

/-- A connection goes on: it is not revived, and what has been read stays read. -/
structure Follows (old con : ValkeyContext) : Prop where
  id : con.id = old.id
  alive : con.err = none → old.err = none
  answered : old.answered <+: con.answered

theorem Follows.refl (con : ValkeyContext) : Follows con con :=
  ⟨rfl, fun alive => alive, List.prefix_rfl⟩

theorem Follows.trans {old con last : ValkeyContext} (first : Follows old con)
    (second : Follows con last) : Follows old last :=
  ⟨second.id.trans first.id, fun alive => first.alive (second.alive alive),
    first.answered.trans second.answered⟩

theorem follows_append (con : ValkeyContext) (request : Request) :
    Follows con (valkeyAppendCommand con request) := ⟨rfl, fun alive => alive, List.prefix_rfl⟩

theorem follows_bufferWrite (outcome : Outcome) (con : ValkeyContext) :
    Follows con (valkeyBufferWrite outcome con).2 := by
  rcases valkeyBufferWrite_cases outcome con with ⟨written, alive⟩ | ⟨err, failed⟩
  · rw [written]
    exact ⟨rfl, fun _ => alive, List.prefix_rfl⟩
  · rw [failed]
    exact ⟨rfl, fun alive => (nomatch alive), List.prefix_rfl⟩

theorem follows_getReply (outcome : Outcome) (con : ValkeyContext) :
    Follows con (valkeyGetReply outcome con).2 := by
  rcases valkeyGetReply_cases outcome con with ⟨answer, after, read, reads⟩ | ⟨after, read, lost⟩
  · rw [read]
    exact ⟨reads.id, fun alive => reads.err ▸ alive, ⟨[answer], reads.answered.symm⟩⟩
  · rw [read]
    exact ⟨lost.id, fun alive => absurd alive lost.err, lost.answered ▸ List.prefix_rfl⟩

namespace ValkeyClusterContext

variable {cc next : ValkeyClusterContext} {requests : List Request}

/-- Connections and writes that are new are admitted as well. -/
theorem Admits.of_changes (admits : cc.Admits requests) (handshake : next.handshake = cc.handshake)
    (contexts : ∀ con ∈ next.contexts, con ∈ cc.contexts ∨
      (con.err = none → AllGranted requests con.answered))
    (writes : ∀ write ∈ next.commandWrites, write ∈ cc.commandWrites ∨
      AllGranted requests write.answered) : next.Admits requests := by
  refine ⟨handshake.trans admits.handshake, fun con member alive => ?_, fun write member => ?_⟩
  · rcases contexts con member with old | new
    · exact admits.contexts con old alive
    · exact new alive
  · exact (writes write member).elim (admits.writes write) id

theorem Admits.of_nodes (admits : cc.Admits requests) (nodes : next.nodes = cc.nodes)
    (handshake : next.handshake = cc.handshake)
    (writes : next.commandWrites = cc.commandWrites) : next.Admits requests :=
  admits.of_changes handshake
    (fun con member => Or.inl (by rwa [ValkeyClusterContext.contexts, nodes] at member))
    fun _ member => Or.inl (writes ▸ member)

theorem Admits.of_contexts (admits : cc.Admits requests)
    (contexts : ∀ con ∈ next.contexts, con ∈ cc.contexts)
    (handshake : next.handshake = cc.handshake) (writes : next.commandWrites = cc.commandWrites) :
    next.Admits requests :=
  admits.of_changes handshake (fun con member => Or.inl (contexts con member))
    fun _ member => Or.inl (writes ▸ member)

theorem Admits.setContextError (admits : cc.Admits requests) (con : ValkeyContext) :
    (cc.setContextError con).Admits requests := by
  unfold ValkeyClusterContext.setContextError
  split
  · exact admits.of_nodes rfl rfl rfl
  · exact admits.of_nodes rfl rfl rfl

/-- A connection that goes on takes its place, and what was written over it is recorded. -/
theorem Admits.put (admits : cc.Admits requests) {con after : ValkeyContext}
    (member : con ∈ cc.contexts) (follows : Follows con after)
    (nodes : next.nodes = (cc.putContext after).nodes) (handshake : next.handshake = cc.handshake)
    (writes : ∀ write ∈ next.commandWrites, write ∈ cc.commandWrites ∨
      write.answered = con.answered ∧ con.err = none) : next.Admits requests := by
  refine admits.of_changes handshake (fun found inContexts => ?_) fun write inWrites => ?_
  · have inPut : found ∈ (cc.putContext after).contexts := by
      rwa [ValkeyClusterContext.contexts, nodes] at inContexts
    rcases mem_contexts_putContext inPut with rfl | ⟨old, _⟩
    · exact Or.inr fun alive request configured =>
        (admits.contexts con member (follows.alive alive) request configured).mono follows.answered
    · exact Or.inl old
  · refine (writes write inWrites).imp_right fun recorded => ?_
    obtain ⟨answered, alive⟩ := recorded
    rw [answered]
    exact admits.contexts con member alive

theorem mem_commandWrites_append {writes : List Write} {write : Write}
    (member : write ∈ (cc.recordWrites writes).commandWrites) :
    write ∈ cc.commandWrites ∨ write ∈ writes := by
  unfold commandWrites recordWrites at member
  rw [List.filter_append, List.mem_append] at member
  exact member.imp_right List.mem_of_mem_filter

end ValkeyClusterContext

/-! ## Connections that are set up again -/

section Regains

variable (network : Nat → Outcome) (order : IterationOrder)

/-- A lost connection that is set up again stays lost, or its handshake is accepted. -/
def Regains (cc : ValkeyClusterContext) (held : Option ValkeyContext) : Prop :=
  ∀ c ∈ held, c.err ≠ none → (reconnect network cc c).1.err = none → reconnectAccepted network cc c

def NodeRegains (cc : ValkeyClusterContext) (node : Nat) : Prop :=
  ∀ known, cc.node node = .ok known → Regains network cc known.con

def AddresseeRegains (cc : ValkeyClusterContext) (addressee : Addressee) : Prop :=
  ∀ known, cc.addressed addressee = .ok known → Regains network cc known.con

/-- The connections that the loop of `valkeyClusterUpdateSlotmap` sets up again. -/
def LoopRegains (cc : ValkeyClusterContext) : List Nat → Prop
  | [] => True
  | node :: rest => NodeRegains network cc node ∧
      ∀ con next, valkeyClusterGetValkeyContext network cc node = .ok (con, next) →
        match con with
        | none => LoopRegains next rest
        | some c => ∀ last, queryRoute network order next c.id = .ok (.err, last) →
            LoopRegains (last.setCon node none) rest

def UpdateRegains (cc : ValkeyClusterContext) : Prop :=
  LoopRegains network order cc ((order.order cc.nodes).map (·.id))

/-- The connections that the loop of `valkeyClusterSendAll` sets up again. -/
def SendRegains (cc : ValkeyClusterContext) : List Nat → Prop
  | [] => True
  | node :: rest => NodeRegains network cc node ∧
      ∀ con next, valkeyClusterGetValkeyContext network cc node = .ok (con, next) →
        match con with
        | none => SendRegains next rest
        | some c => ∀ after, valkeyBufferWrite (network next.outcomes) c = (.ok, after) →
            SendRegains ((next.advance.putContext after).recordWrites c.flushed) rest

/-- The connections that a step of the executor sets up again. -/
def StepRegains (command : Command) : ExecutorState → Prop
  | (.connect node, s) | (.movedConnect node, s) => NodeRegains network s.cc node
  | (.updateUnserved, s) | (.movedUpdate _, s) => UpdateRegains network order s.cc
  | (.updateUnreachable, s) => UpdateRegains network order s.cc ∧
      ∀ cc node next, valkeyClusterUpdateSlotmap network order s.cc = .ok (.ok, cc) →
        node_get_by_table cc command.slot = (some node, next) → NodeRegains network next node
  | (.ask c, s) => ∀ node slot cc,
      getNodeFromRedirectReply s.cc c s.text = .ok (some (node, slot), cc) →
        NodeRegains network cc node
  | (.done, s) => ∀ c ∈ s.updating, ∀ cc,
      clusterUpdateRouteHandleReply network order s.cc c = .ok (.err, cc) →
        UpdateRegains network order cc.clearError
  | _ => True

/-- The connections that a call sets up again. -/
def CallRegains (cc : ValkeyClusterContext) : Call → Prop
  | .command _ | .getReply => True
  | .commandToNode addressee _ | .appendToNode addressee _ => AddresseeRegains network cc addressee
  | .append cmd => ∀ command node next, prepareCommand cc cmd = .ok command →
      node_get_by_table cc command.slot = (some node, next) → NodeRegains network next node
  | .updateSlotmap => UpdateRegains network order cc
  | .reset =>
      (cc.err = none → SendRegains network cc ((order.order cc.nodes).map (·.id))) ∧
        ∀ next, resetRequests network order cc = .ok next → next.needUpdateRoute →
          UpdateRegains network order { next with requests := [] }

def ClientRegains (call : Call) : Client → Prop
  | .idle cc => CallRegains network order cc call
  | .executing command state => StepRegains network order command state

end Regains

/-! ## Admission is kept -/

section Keeps

variable (network : Nat → Outcome) (order : IterationOrder) {cc : ValkeyClusterContext}
  {requests : List Request}

/-- The client still admits, and the connection that was asked for is one of its own. -/
structure Obtained (requests : List Request)
    (result : Option ValkeyContext × ValkeyClusterContext) : Prop where
  admits : result.2.Admits requests
  member : ∀ c ∈ result.1, c ∈ result.2.contexts

theorem Obtained.of_obtains (admits : cc.Admits requests) {port : Int} {held : Option ValkeyContext}
    {store : ValkeyClusterContext → ValkeyContext → ValkeyClusterContext}
    {result : Option ValkeyContext × ValkeyClusterContext}
    (obtains : Obtains network cc port held store result) (regains : Regains network cc held)
    (member : ∀ c ∈ held, c ∈ cc.contexts) (stores : held = none → StoresAt cc.nodes store) :
    Obtained requests result := by
  cases obtains with
  | unreachable without talked outcomes nextContext err paired commandWrites =>
      exact ⟨admits.of_nodes talked.nodes talked.handshake commandWrites,
        fun _ held => nomatch held⟩
  | @existing con known alive =>
        exact ⟨admits, fun c held => Option.some.inj held ▸ member con known⟩
  | @reconnected old con middle known lost made established id nextContext =>
      have talked := established.talked
      have before := admits.of_nodes talked.nodes talked.handshake established.commandWrites
      have accepted : con.err = none → AllGranted requests con.answered := by
        intro alive
        rw [← admits.handshake]
        have granted := reconnect_accepted network cc
          (regains old known lost (by rw [made]; exact alive))
        rwa [made] at granted
      have inContexts : old ∈ middle.contexts := by
        rw [ValkeyClusterContext.contexts, talked.nodes]
        exact member old known
      refine ⟨before.of_changes rfl (fun found inPut => ?_) fun _ inWrites => Or.inl inWrites,
        fun c held => ?_⟩
      · rcases mem_contexts_putContext inPut with rfl | ⟨inOld, _⟩
        · exact Or.inr accepted
        · exact Or.inl inOld
      · obtain rfl := Option.some.inj held
        rw [contexts_putContext]
        exact List.mem_map.mpr ⟨old, inContexts, if_pos id.symm⟩
  | @new con middle without established id nextContext err accepted =>
      have talked := established.talked
      have before := admits.of_nodes talked.nodes talked.handshake established.commandWrites
      have stored := stores without
      obtain ⟨changed, only⟩ := stored.only middle con
      have handshake : (store middle con).handshake = middle.handshake := by rw [only]; rfl
      have writes : (store middle con).commandWrites = middle.commandWrites := by rw [only]; rfl
      refine ⟨before.of_changes handshake (fun found inStored => ?_)
        (fun write inWrites => Or.inl (writes ▸ inWrites)), fun c held => ?_⟩
      · rcases stored.contexts _ _ found inStored with rfl | inOld
        · exact Or.inr fun _ => admits.handshake ▸ accepted
        · exact Or.inl inOld
      · obtain rfl := Option.some.inj held
        exact stored.here _ _ talked.nodes

theorem obtained_node (admits : cc.Admits requests) {node : Nat}
    (regains : NodeRegains network cc node) :
    Ensures (valkeyClusterGetValkeyContext network cc node) anyFault
      (Obtained requests) := by
  refine (ensures_node fun _ => trivial).computed.bind fun known ⟨found, member, name⟩ => ?_
  subst name
  exact .of_obtains network admits (getContext_obtains network cc _ _ _ _) (regains known found)
    (fun c held => mem_contexts member held) (storesAt_setCon member)

theorem admits_sendCommand (admits : cc.Admits requests) (c : Nat) :
    Ensures (clusterUpdateRouteSendCommand network cc c) anyFault fun result =>
      result.2.Admits requests := by
  refine (ensures_context fun _ => trivial).bind fun con ⟨member, _⟩ => ?_
  have follows := (follows_append con .route).trans
    (follows_bufferWrite (network cc.outcomes) (valkeyAppendCommand con .route))
  have sent : ((cc.advance.putContext (valkeyBufferWrite (network cc.outcomes)
      (valkeyAppendCommand con .route)).2).recordWrites
        (valkeyAppendCommand con .route).flushed).Admits requests := by
    refine admits.put member follows rfl rfl fun write inWrites => ?_
    refine (mem_commandWrites_append inWrites).imp_right fun flushed => ?_
    obtain ⟨_, answered, alive⟩ := mem_flushed _ flushed
    exact ⟨answered, alive⟩
  dsimp only
  split
  · exact sent
  · exact sent.setContextError _

/-- The writes that are recorded when a reply is read. -/
theorem mem_commandWrites_record (before : ValkeyContext) (reader : Request)
    (answer : Option Answer) {write : Write}
    (member : write ∈ ((cc.recordWrites before.flushedToRead).record reader answer).commandWrites) :
    write ∈ cc.commandWrites ∨ write.answered = before.answered ∧ before.err = none := by
  have recorded : write ∈ (cc.recordWrites before.flushedToRead).commandWrites := by
    cases answer <;> exact member
  refine (mem_commandWrites_append recorded).imp_right fun flushed => ?_
  obtain ⟨_, answered, alive⟩ := mem_flushed _ (mem_flushedToRead _ flushed)
  exact ⟨answered, alive⟩

theorem admits_exchange (admits : cc.Admits requests) {con : ValkeyContext}
    (member : con ∈ cc.contexts) (outcome : Outcome) (reader : Request) :
    (cc.exchange con (valkeyGetReply outcome con).2 reader
      (valkeyGetReply outcome con).1).Admits requests := by
  have follows := follows_getReply outcome con
  generalize valkeyGetReply outcome con = result at follows ⊢
  obtain ⟨answer, after⟩ := result
  refine admits.put member follows ?_ ?_ fun write inWrites =>
    mem_commandWrites_record con reader answer ?_
  all_goals cases answer
  all_goals first | rfl | exact inWrites

theorem admits_handleReply (admits : cc.Admits requests) (c : Nat) :
    Ensures (clusterUpdateRouteHandleReply network order cc c) anyFault fun result =>
      result.2.Admits requests := by
  refine (ensures_context fun _ => trivial).bind fun con ⟨member, _⟩ => ?_
  have read := admits_exchange admits member (network cc.outcomes) .route
  dsimp only
  generalize cc.exchange con (valkeyGetReply (network cc.outcomes) con).2 .route
    (valkeyGetReply (network cc.outcomes) con).1 = last at read ⊢
  split
  · exact read.setContextError _
  split
  · exact read.of_nodes rfl rfl rfl
  split
  · exact read.of_nodes rfl rfl rfl
  · rename_i made
    have new := (parses_routeReply last _ _).of_ok made
    rcases updateNodesAndSlotmap_cases order true last _ with
      ⟨type, str, updated⟩ | ⟨table, _, _, updated⟩
    · rw [updated]
      exact read.of_nodes rfl rfl rfl
    · rw [updated]
      exact read.of_contexts (fun _ inContexts => contexts_replaceNodes new inContexts) rfl rfl

theorem admits_queryRoute (admits : cc.Admits requests) (c : Nat) :
    Ensures (queryRoute network order cc c) anyFault fun result => result.2.Admits requests := by
  refine (admits_sendCommand network admits c).bind fun ⟨status, next⟩ sent => ?_
  cases status with
  | err => exact sent
  | ok => exact admits_handleReply network order sent c

theorem admits_close (admits : cc.Admits requests) (node : Nat) :
    (cc.setCon node none).Admits requests := by
  refine admits.of_contexts (fun con member => ?_) rfl rfl
  rcases mem_contexts_setCon member with closed | old
  · exact nomatch closed
  · exact old

theorem admits_updateSlotmapFrom (admits : cc.Admits requests) (nodes : List Nat)
    (regains : LoopRegains network order cc nodes) :
    Ensures (updateSlotmapFrom network order cc nodes) anyFault fun result =>
      result.2.Admits requests := by
  induction nodes generalizing cc with
  | nil => exact admits
  | cons node rest induction =>
      refine (obtained_node network admits regains.1).computed.bind
        fun ⟨con, next⟩ ⟨got, obtained⟩ => ?_
      have later := regains.2 con next got
      cases con with
      | none => exact induction obtained.admits later
      | some c =>
          refine (admits_queryRoute network order obtained.admits c.id).computed.bind
            fun ⟨status, last⟩ ⟨queried, admits⟩ => ?_
          cases status with
          | ok => exact admits.of_nodes rfl rfl rfl
          | err => exact induction (admits_close admits node) (later last queried)

theorem admits_updateSlotmap (admits : cc.Admits requests)
    (regains : UpdateRegains network order cc) :
    Ensures (valkeyClusterUpdateSlotmap network order cc) anyFault fun result =>
      result.2.Admits requests := admits_updateSlotmapFrom network order admits _ regains

/-! ## The executor -/

variable (command : Command) {s : Executor}

theorem admits_useConnection (admits : s.cc.Admits requests) (con : Option ValkeyContext)
    (label : Nat → Label) : (useConnection s con label).2.cc.Admits requests := by
  unfold useConnection
  split
  · exact admits
  split
  · exact admits.setContextError _
  · exact admits

theorem admits_table (admits : cc.Admits requests) (slot : Nat) :
    (node_get_by_table cc slot).2.Admits requests := by
  rcases node_get_by_table_found cc slot with ⟨node, found⟩ | ⟨str, missing⟩
  · rwa [found]
  · rw [missing]
    exact admits.of_nodes rfl rfl rfl

theorem admits_retryStep (admits : s.cc.Admits requests) :
    Ensures (retryStep command s) anyFault fun next => next.2.cc.Admits requests := by
  have looked := admits_table admits command.slot
  unfold retryStep
  split
  · rename_i found
    rwa [found] at looked
  · rename_i found
    rwa [found] at looked

theorem admits_updateUnservedStep (admits : s.cc.Admits requests)
    (regains : UpdateRegains network order s.cc) :
    Ensures (updateUnservedStep network order command s) anyFault fun next =>
      next.2.cc.Admits requests := by
  refine (admits_updateSlotmap network order admits regains).bind fun ⟨status, cc⟩ updated => ?_
  cases status with
  | err => exact updated
  | ok =>
      have looked := admits_table updated command.slot
      dsimp only at looked ⊢
      split
      · rename_i found
        rwa [found] at looked
      · rename_i found
        rwa [found] at looked

theorem admits_connectStep (admits : s.cc.Admits requests) {node : Nat}
    (regains : NodeRegains network s.cc node) :
    Ensures (connectStep network s node) anyFault fun next => next.2.cc.Admits requests := by
  refine (obtained_node network admits regains).bind fun ⟨con, cc⟩ obtained => ?_
  cases con with
  | none => exact obtained.admits
  | some c =>
      dsimp only
      split <;> exact obtained.admits

theorem admits_updateUnreachableStep (admits : s.cc.Admits requests)
    (regains : StepRegains network order command (.updateUnreachable, s)) :
    Ensures (updateUnreachableStep network order command s) anyFault fun next =>
      next.2.cc.Admits requests := by
  refine (admits_updateSlotmap network order admits regains.1).computed.bind
    fun ⟨status, cc⟩ ⟨result, updated⟩ => ?_
  cases status with
  | err => exact updated
  | ok =>
      have looked := admits_table updated command.slot
      dsimp only at looked ⊢
      split
      · rename_i found
        rwa [found] at looked
      · rename_i node next found
        rw [found] at looked
        refine (obtained_node network looked (regains.2 cc node next result found)).bind
          fun ⟨con, cc⟩ obtained => ?_
        exact admits_useConnection (s := { s with cc := cc }) obtained.admits con _

theorem admits_scheduledUpdate (admits : cc.Admits requests) (updating : Option Nat) (c : Nat) :
    Ensures (scheduledUpdate network cc updating c) anyFault fun result =>
      result.2.Admits requests := by
  unfold scheduledUpdate
  split
  · exact admits_sendCommand network admits c
  · exact admits

theorem admits_append (admits : cc.Admits requests) {con : ValkeyContext}
    (member : con ∈ cc.contexts)
    (request : Request) : (cc.putContext (valkeyAppendCommand con request)).Admits requests :=
  admits.put member (follows_append con request) rfl rfl fun _ inWrites => Or.inl inWrites

theorem admits_scheduleUpdate (admits : cc.Admits requests) :
    (scheduleUpdate cc).Admits requests := by
  unfold scheduleUpdate
  split
  · exact admits.of_nodes rfl rfl rfl
  · exact admits

theorem admits_movedRetryStep (admits : s.cc.Admits requests) (c : Nat) :
    Ensures (movedRetryStep network command s c) anyFault fun next =>
      next.2.cc.Admits requests := by
  refine (ensures_context fun _ => trivial).bind fun con ⟨member, _⟩ => ?_
  have appended := admits_append admits member (.command command.cmd)
  refine (admits_scheduledUpdate network appended s.updating c).bind fun ⟨status, cc⟩ sent => ?_
  refine (ensures_context fun _ => trivial).bind fun con ⟨member, _⟩ => ?_
  have read := admits_exchange sent member (network cc.outcomes) (.command command.cmd)
  dsimp only at read ⊢
  split
  · exact read
  · exact admits_scheduleUpdate (read.setContextError _)

theorem admits_repliedStep (admits : s.cc.Admits requests) (c : Nat) :
    Ensures (repliedStep s c) anyFault fun next => next.2.cc.Admits requests := by
  have kept : ∀ {next : ValkeyClusterContext}, next.nodes = s.cc.nodes →
      next.handshake = s.cc.handshake → next.commandWrites = s.cc.commandWrites →
        next.Admits requests :=
    admits.of_nodes
  unfold repliedStep
  split
  · exact admits
  dsimp only
  split
  · exact admits
  split
  · exact kept rfl rfl rfl
  split
  · exact kept rfl rfl rfl
  · exact kept rfl rfl rfl
  · exact kept rfl rfl rfl

theorem admits_redirect (admits : cc.Admits requests) (c : Nat) (str : Bytes) :
    Ensures (getNodeFromRedirectReply cc c str) anyFault fun result =>
      result.2.Admits requests := by
  refine (ensures_context fun _ => trivial).bind fun con _ => ?_
  split
  · exact admits.of_nodes rfl rfl rfl
  split
  · exact admits
  · refine admits.of_contexts (fun con member => ?_) rfl rfl
    rwa [contexts_addNode] at member

theorem admits_updateSlot (admits : cc.Admits requests) (slot : Int) (node : Nat) :
    Ensures (updateSlot cc slot node) anyFault fun next => next.Admits requests := by
  unfold updateSlot
  split
  · unfold setTable
    split
    · trivial
    split
    · exact admits.of_nodes rfl rfl rfl
    · trivial
  · exact admits

theorem admits_movedStep (admits : s.cc.Admits requests) (c : Nat) :
    Ensures (movedStep network s c) anyFault fun next => next.2.cc.Admits requests := by
  refine (admits_redirect admits c s.text).bind fun ⟨target, cc⟩ redirected => ?_
  cases target with
  | none => exact redirected
  | some target =>
      refine (admits_updateSlot redirected target.2 target.1).bind fun cc updated => ?_
      dsimp only
      split
      · exact updated
      refine (admits_sendCommand network updated c).bind fun ⟨status, cc⟩ sent => ?_
      cases status <;> exact sent

theorem admits_movedUpdateStep (admits : s.cc.Admits requests)
    (regains : UpdateRegains network order s.cc) (node : Nat) :
    Ensures (movedUpdateStep network order s node) anyFault fun next =>
      next.2.cc.Admits requests := by
  refine (admits_updateSlotmap network order admits regains).bind fun ⟨status, cc⟩ updated => ?_
  cases status with
  | ok => exact updated.of_nodes rfl rfl rfl
  | err => exact updated

theorem admits_movedConnectStep (admits : s.cc.Admits requests) {node : Nat}
    (regains : NodeRegains network s.cc node) :
    Ensures (movedConnectStep network s node) anyFault fun next => next.2.cc.Admits requests :=
  (obtained_node network admits regains).bind fun ⟨con, cc⟩ obtained =>
    admits_useConnection (s := { s with cc := cc }) obtained.admits con _

theorem admits_askStep (admits : s.cc.Admits requests) {c : Nat}
    (regains : StepRegains network order command (.ask c, s)) :
    Ensures (askStep network s c) anyFault fun next => next.2.cc.Admits requests := by
  refine (admits_redirect admits c s.text).computed.bind
    fun ⟨target, cc⟩ ⟨result, redirected⟩ => ?_
  cases target with
  | none => exact redirected
  | some target =>
      refine (obtained_node network redirected (regains target.1 target.2 cc result)).bind
        fun ⟨con, cc⟩ obtained => ?_
      exact admits_useConnection (s := { s with cc := cc, reply := none }) obtained.admits con _

theorem admits_valkeyCommand (admits : cc.Admits requests) {con : ValkeyContext}
    (member : con ∈ cc.contexts) (request : Request) :
    ((valkeyCommand network cc con request).2.2.putContext
      (valkeyCommand network cc con request).2.1).Admits requests := by
  have follows := (follows_append con request).trans
    (follows_getReply (network cc.outcomes) (valkeyAppendCommand con request))
  unfold valkeyCommand
  dsimp only
  generalize valkeyGetReply (network cc.outcomes) (valkeyAppendCommand con request) = result
    at follows ⊢
  obtain ⟨answer, after⟩ := result
  refine admits.put member follows ?_ ?_ fun write inWrites =>
    mem_commandWrites_record (valkeyAppendCommand con request) request answer ?_
  all_goals cases answer
  all_goals first | rfl | exact inWrites

theorem admits_askingStep (admits : s.cc.Admits requests) (c : Nat) :
    Ensures (askingStep network s c) anyFault fun next => next.2.cc.Admits requests := by
  refine (ensures_context fun _ => trivial).bind fun con ⟨member, _⟩ => ?_
  have asked := admits_valkeyCommand network admits member .asking
  dsimp only
  split
  · exact asked.setContextError _
  · exact asked

theorem admits_doneStep (admits : s.cc.Admits requests)
    (regains : StepRegains network order command (.done, s)) :
    Ensures (doneStep network order s) anyFault fun next => next.2.cc.Admits requests := by
  unfold doneStep
  split
  · exact admits
  rename_i c updating
  refine (admits_handleReply network order admits c).computed.bind
    fun ⟨status, cc⟩ ⟨result, handled⟩ => ?_
  cases status with
  | ok => exact handled
  | err =>
      have cleared : cc.clearError.Admits requests := handled.of_nodes rfl rfl rfl
      refine (admits_updateSlotmap network order cleared (regains c updating cc result)).bind
        fun ⟨status, cc⟩ updated => ?_
      cases status <;> exact updated

theorem admits_executorStep {state : ExecutorState} (admits : state.2.cc.Admits requests)
    (regains : StepRegains network order command state) :
    Ensures (executorStep network order command state) anyFault fun next =>
      next.2.cc.Admits requests := by
  obtain ⟨label, s⟩ := state
  cases label with
  | retry => exact admits_retryStep command admits
  | updateUnserved => exact admits_updateUnservedStep network order command admits regains
  | connect node => exact admits_connectStep network admits regains
  | updateUnreachable => exact admits_updateUnreachableStep network order command admits regains
  | movedRetry c => exact admits_movedRetryStep network command admits c
  | replied c => exact admits_repliedStep admits c
  | moved c => exact admits_movedStep network admits c
  | movedUpdate node => exact admits_movedUpdateStep network order admits regains node
  | movedConnect node => exact admits_movedConnectStep network admits regains
  | ask c => exact admits_askStep network order command admits regains
  | asking c => exact admits_askingStep network admits c
  | error => exact admits
  | done => exact admits_doneStep network order command admits regains
  | returned => exact admits

/-! ## The calls -/

theorem obtained_addressee (admits : cc.Admits requests) {addressee : Addressee}
    (regains : AddresseeRegains network cc addressee) :
    Ensures (contextOf network cc addressee) anyFault fun result =>
      Obtained requests result.2 := by
  unfold contextOf
  cases named : cc.addressed addressee with
  | error fault => trivial
  | ok known =>
      exact .of_obtains network admits (getContext_obtains network cc _ _ _ _)
        (regains known named) (fun c held => mem_contexts_addressed named held)
        (storesAt_storeCon named)

/-- A command is appended to a connection that has been obtained. -/
theorem admits_appendRequest (admits : cc.Admits requests) {c : ValkeyContext}
    (member : c ∈ cc.contexts) (cmd : Bytes)
    (target : Target) : (cc.appendRequest c cmd target).Admits requests :=
  (admits_append admits member _).of_nodes rfl rfl rfl

theorem admits_appendFormattedCommand (admits : cc.Admits requests) {cmd : Bytes}
    (regains : CallRegains network order cc (.append cmd)) :
    Ensures (valkeyClusterAppendFormattedCommand network cc cmd) anyFault fun result =>
      result.2.Admits requests := by
  unfold valkeyClusterAppendFormattedCommand
  cases prepared : prepareCommand cc cmd with
  | error next =>
      obtain ⟨err, errstr, rfl⟩ := prepareCommand_refused prepared
      exact admits.of_nodes rfl rfl rfl
  | ok command =>
      have looked := admits_table admits command.slot
      dsimp only
      split
      · rename_i found
        rwa [found] at looked
      · rename_i node next found
        rw [found] at looked
        refine (obtained_node network looked (regains command node next prepared found)).bind
          fun ⟨con, cc⟩ obtained => ?_
        cases con with
        | none => exact obtained.admits
        | some c =>
            dsimp only
            split
            · exact obtained.admits.setContextError c
            · exact admits_appendRequest obtained.admits (obtained.member c rfl) _ _

theorem admits_appendCommandToNode (admits : cc.Admits requests) {addressee : Addressee}
    (regains : AddresseeRegains network cc addressee) (formatted : Option Bytes) :
    Ensures (valkeyClusterAppendCommandToNode network cc addressee formatted) anyFault
      fun result => result.2.Admits requests := by
  refine (obtained_addressee network admits regains).bind fun ⟨addr, con, cc⟩ obtained => ?_
  cases con with
  | none => exact obtained.admits
  | some c =>
      dsimp only
      split
      · exact obtained.admits.setContextError c
      · cases formatted with
        | none => exact obtained.admits.of_nodes rfl rfl rfl
        | some cmd => exact admits_appendRequest obtained.admits (obtained.member c rfl) _ _

theorem admits_getReplyFromNode (admits : cc.Admits requests) {con : Option ValkeyContext}
    (member : ∀ c ∈ con, c ∈ cc.contexts) (request : Pipelined) :
    (valkeyClusterGetReplyFromNode network cc con request).2.2.Admits requests := by
  unfold valkeyClusterGetReplyFromNode
  cases con with
  | none => exact admits
  | some c =>
      dsimp only
      split
      · have counted : cc.countFailure.Admits requests := by
          unfold countFailure
          split
          · exact admits
          split
          · exact admits.of_nodes rfl rfl rfl
          · exact admits.of_nodes rfl rfl rfl
        exact counted.setContextError c
      · have read := admits_exchange admits (member c rfl) (network cc.outcomes)
          (.pipelined request.index request.cmd)
        split
        · exact read.setContextError _
        split
        · exact read.of_nodes rfl rfl rfl
        · exact read

theorem admits_getReply (admits : cc.Admits requests) :
    Ensures (valkeyClusterGetReply network cc) anyFault fun result =>
      result.2.2.Admits requests := by
  unfold valkeyClusterGetReply
  split
  · exact admits.of_nodes rfl rfl rfl
  rename_i request rest _
  have taken : { cc.clearError with requests := rest }.Admits requests :=
    admits.of_nodes rfl rfl rfl
  dsimp only
  split
  · rename_i slot _
    have looked := admits_table taken slot
    split
    · rename_i found
      rwa [found] at looked
    · rename_i found
      rw [found] at looked
      refine (ensures_node fun _ => trivial).bind fun known ⟨member, _⟩ => ?_
      exact admits_getReplyFromNode network looked (fun c held => mem_contexts member held) request
  · split
    · exact taken.of_nodes rfl rfl rfl
    · rename_i known found
      exact admits_getReplyFromNode network taken
        (fun c held => mem_contexts (List.mem_of_find?_eq_some found) held) request

theorem admits_clearAll (admits : cc.Admits requests) : cc.clearAll.Admits requests := by
  refine admits.of_contexts (fun con member => ?_) rfl rfl
  obtain ⟨changed, inNodes, held⟩ := List.mem_flatMap.mp member
  obtain ⟨node, inOld, rfl⟩ := List.mem_map.mp inNodes
  exact List.mem_flatMap.mpr ⟨node, inOld, List.mem_append_right _ held⟩

theorem admits_sendAll (admits : cc.Admits requests) (nodes : List Nat)
    (regains : SendRegains network cc nodes) :
    Ensures (valkeyClusterSendAll network cc nodes) anyFault fun next => next.Admits requests := by
  induction nodes generalizing cc with
  | nil => exact admits
  | cons node rest induction =>
      refine (obtained_node network admits regains.1).computed.bind
        fun ⟨con, next⟩ ⟨got, obtained⟩ => ?_
      have later := regains.2 con next got
      cases con with
      | none => exact induction obtained.admits later
      | some c =>
          have follows := follows_bufferWrite (network next.outcomes) c
          dsimp only at later ⊢
          generalize valkeyBufferWrite (network next.outcomes) c = result at follows later ⊢
          obtain ⟨status, after⟩ := result
          have sent : ((next.advance.putContext after).recordWrites c.flushed).Admits requests := by
            refine obtained.admits.put (obtained.member c rfl) follows rfl rfl
              fun write inWrites => ?_
            refine (mem_commandWrites_append inWrites).imp_right fun flushed => ?_
            obtain ⟨_, answered, alive⟩ := mem_flushed _ flushed
            exact ⟨answered, alive⟩
          cases status with
          | ok => exact induction sent (later after rfl)
          | err => exact sent

theorem admits_readReplies (admits : cc.Admits requests) (count : Nat) :
    Ensures (readReplies network cc count) anyFault fun next => next.Admits requests := by
  induction count generalizing cc with
  | zero => exact admits
  | succ count induction =>
      refine (admits_getReply network admits).bind fun ⟨status, answer, cc⟩ read => ?_
      dsimp only
      split
      · exact admits_clearAll read
      · exact read
      · exact induction read

theorem admits_resetRequests (admits : cc.Admits requests)
    (regains : CallRegains network order cc .reset) :
    Ensures (resetRequests network order cc) anyFault fun next => next.Admits requests := by
  unfold resetRequests
  split
  · exact admits_clearAll admits
  · rename_i noError
    have sent := admits_sendAll network admits _ (regains.1 (by simpa using noError))
    exact sent.bind fun next admits => admits_readReplies network admits _

theorem admits_reset (admits : cc.Admits requests) (regains : CallRegains network order cc .reset) :
    Ensures (valkeyClusterReset network order cc) anyFault fun next => next.Admits requests := by
  refine (admits_resetRequests network order admits regains).computed.bind
    fun next ⟨result, admits⟩ => ?_
  have admits : { next with requests := [] }.Admits requests := admits.of_nodes rfl rfl rfl
  dsimp only
  split
  · rename_i scheduled
    refine (admits_updateSlotmap network order admits (regains.2 next result scheduled)).bind
      fun ⟨status, last⟩ updated => ?_
    cases status with
    | err => exact updated
    | ok => exact updated.of_nodes rfl rfl rfl
  · exact admits

theorem admits_finishUpdate (admits : cc.Admits requests) (c : Nat) (updating : Bool) :
    Ensures (finishUpdate network order cc c updating) anyFault fun next =>
      next.Admits requests := by
  unfold finishUpdate
  split
  · refine (admits_handleReply network order admits c).bind fun ⟨status, next⟩ handled => ?_
    cases status with
    | ok => exact handled
    | err => exact handled.of_nodes rfl rfl rfl
  · exact admits

theorem admits_commandToNode (admits : cc.Admits requests) {addressee : Addressee}
    (regains : AddresseeRegains network cc addressee) (formatted : Option Bytes) :
    Ensures (valkeyClusterCommandToNode network order cc addressee formatted) anyFault
      fun result => result.2.Admits requests := by
  refine (obtained_addressee network admits regains).bind fun ⟨addr, con, cc⟩ obtained => ?_
  cases con with
  | none => exact obtained.admits
  | some c =>
      dsimp only
      split
      · exact obtained.admits.setContextError c
      have member : c ∈ cc.clearError.contexts := obtained.member c rfl
      have cleared : cc.clearError.Admits requests := obtained.admits.of_nodes rfl rfl rfl
      cases formatted with
      | none =>
          have follows : Follows c (formatError c) :=
            ⟨rfl, fun alive => (nomatch alive), List.prefix_rfl⟩
          have failed : (cc.clearError.putContext (formatError c)).Admits requests :=
            cleared.put member follows rfl rfl fun _ inWrites => Or.inl inWrites
          exact (ensures_pure _).mpr (failed.setContextError (formatError c))
      | some cmd =>
          refine (admits_scheduledUpdate network (admits_append cleared member (.command cmd))
            none c.id).bind fun ⟨status, cc⟩ sent => ?_
          refine (ensures_context fun _ => trivial).bind fun con ⟨member, _⟩ => ?_
          have read := admits_exchange sent member (network cc.outcomes) (.command cmd)
          dsimp only at read ⊢
          split
          · exact admits_scheduleUpdate (read.setContextError _)
          · exact (admits_finishUpdate network order read c.id _).bind fun _ finished => finished

theorem admits_clientStep (call : Call) {client : Client} (admits : client.cc.Admits requests)
    (regains : ClientRegains network order call client) :
    Ensures (clientStep network order call client) anyFault fun next =>
      next.cc.Admits requests := by
  cases client with
  | executing command state =>
      have stepped := admits_executorStep network order command admits regains
      obtain ⟨label, s⟩ := state
      cases label with
      | returned => exact admits.of_nodes rfl rfl rfl
      | _ => exact stepped.bind fun _ next => next
  | idle cc =>
      cases call with
      | command cmd =>
          have cleared : cc.clearError.Admits requests := admits.of_nodes rfl rfl rfl
          unfold clientStep makeCall
          dsimp only
          split
          · rename_i next refused
            obtain ⟨err, errstr, rfl⟩ := prepareCommand_refused refused
            exact admits.of_nodes rfl rfl rfl
          · exact cleared
      | commandToNode addressee formatted =>
          exact (admits_commandToNode network order admits regains formatted).bind
            fun _ next => next
      | append cmd =>
          exact (admits_appendFormattedCommand network order admits regains).bind fun _ next => next
      | appendToNode addressee formatted =>
          exact (admits_appendCommandToNode network admits regains formatted).bind
            fun _ next => next
      | getReply => exact (admits_getReply network admits).bind fun _ next => next
      | updateSlotmap =>
          exact (admits_updateSlotmap network order admits regains).bind fun _ next => next
      | reset => exact (admits_reset network order admits regains).bind fun _ next => next

/-- A command is written only after the configured AUTH and SELECT have been accepted
on the connection since it was set up. -/
theorem clientRun_admits {cc : ValkeyClusterContext} (unconnected : cc.contexts = [])
    (unwritten : cc.writes = []) {client : Client}
    (run : ClientRun network order (ClientRegains network order) (.idle cc) client) :
    ∀ write ∈ client.cc.writes, write.request.isCommand → ∀ request ∈ cc.handshake,
      Granted request write.answered := by
  have first : cc.Admits cc.handshake := by
    refine ⟨rfl, fun con member => ?_, fun write member => ?_⟩
    · rw [unconnected] at member
      exact nomatch member
    · unfold commandWrites at member
      rw [unwritten] at member
      exact nomatch member
  have admits := ClientRun.invariant network order (fun client => client.cc.Admits cc.handshake)
    run first fun call client admits meets => admits_clientStep network order call admits meets
  exact fun write member isCommand =>
    admits.writes write (List.mem_filter.mpr ⟨member, isCommand⟩)

end Keeps

/-! ## A client with a logical database -/

/-- Every connection is to use the second database. -/
def databaseNodes : ValkeyClusterContext := { twoNodes with selectDb := 1 }

def getFromFirst : Call := .commandToNode (.primary 0) (some (ascii "GET x"))

theorem clientRun_admits_get :
    ∃ client : Client,
      (∀ write ∈ client.cc.writes, write.request.isCommand → Granted .select write.answered) ∧
        client.cc.commandWrites.length = 1 := by
  let network := calmNetwork fun _ => .status (ascii "OK")
  have started : ClientRun network inOrder (ClientRegains network inOrder) (.idle databaseNodes)
    (.idle databaseNodes) := .start
  have called := started.step getFromFirst (fun known named c held => by
    obtain rfl := Except.ok.inj named
    exact nomatch held) rfl
  have admitted := clientRun_admits network inOrder rfl rfl called
  exact ⟨_, fun write member isCommand => admitted write member isCommand .select (by decide), rfl⟩

/-- The connection is lost before the reply to the first command, and the server rejects
the database after it has been set up again. -/
def rejectsDatabase (time : Nat) : Outcome :=
  { calmNetwork (fun time =>
      if time = 4 then .error (ascii "ERR DB index is out of range") else .status (ascii "OK"))
      time with
    replies := if time = 2 then [] else
      [if time = 4 then .error (ascii "ERR DB index is out of range") else .status (ascii "OK")] }

/-- The second command is written on the connection all the same. -/
theorem client_writes_unadmitted :
    ∃ client : Client, ClientRun rejectsDatabase inOrder (fun _ _ => True) (.idle databaseNodes)
        client ∧
      ∃ write ∈ client.cc.writes, write.request.isCommand ∧ ∃ request ∈ databaseNodes.handshake,
        ¬Granted request write.answered := by
  have started : ClientRun rejectsDatabase inOrder (fun _ _ => True) (.idle databaseNodes)
    (.idle databaseNodes) := .start
  have lost := started.step getFromFirst trivial rfl
  have again := lost.step getFromFirst trivial rfl
  refine ⟨_, again, _, List.mem_of_getElem? (i := 3) rfl, rfl, .select, by decide, ?_⟩
  rintro ⟨answer, member, _, accepted⟩
  obtain rfl := List.mem_singleton.mp member
  exact accepted _ rfl

end Libvalkey
