import Libvalkey.Cluster.Pipeline

/-! # Runs of a pipelining client

Every reply that `valkeyClusterGetReply` returns answers the next of the appended
commands, as long as the connection that it looks up is still the session over which
that command was sent. -/

namespace Libvalkey

open Checked ValkeyClusterContext

section Conditions

variable (network : Nat → Outcome) (order : IterationOrder)

/-- The connection from which `valkeyClusterGetReply` reads the reply to a command. -/
def replySource (cc : ValkeyClusterContext) (request : Pipelined) : Option ValkeyContext :=
  match request.target with
  | .slot slot => (node_get_by_table cc slot).1.bind fun node => (cc.findNode node).bind (·.con)
  | .node addr => (findByAddr cc.nodes addr).bind (·.con)

/-- The open connection that is looked up for a command is the session to which it was
appended. Where that session has ended, no open connection is found. -/
def KeepsSession (cc : ValkeyClusterContext) (request : Pipelined) : Prop :=
  ∀ con ∈ cc.contexts, con.err = none →
    (replySource cc request = some con ↔ con.session = request.session)

/-- A query of the loop of `valkeyClusterUpdateSlotmap` that succeeds goes over a connection
with nothing to read. -/
def LoopQuiet (cc : ValkeyClusterContext) : List Nat → Prop
  | [] => True
  | node :: rest =>
      ∀ con next, valkeyClusterGetValkeyContext network cc node = .ok (con, next) →
        match con with
        | none => LoopQuiet next rest
        | some c =>
            (∀ last, queryRoute network order next c.id = .ok (.ok, last) → c.outstanding = []) ∧
              ∀ last, queryRoute network order next c.id = .ok (.err, last) →
                LoopQuiet (last.setCon node none) rest

/-- The calls of a pipelining client. -/
def Pipelining : Call → Client → Prop
  | .append _, .idle _ | .appendToNode _ _, .idle _ | .updateSlotmap, .idle _
  | .getReply, .idle _ => True
  | _, _ => False

/-- What a call of a pipelining client needs. -/
def Steady : Call → Client → Prop
  | .append _, .idle _ | .appendToNode _ _, .idle _ => True
  | .updateSlotmap, .idle cc => LoopQuiet network order cc ((order.order cc.nodes).map (·.id))
  | .getReply, .idle cc => ∀ request ∈ cc.requests.head?, KeepsSession cc request
  | _, _ => False

end Conditions

section Keeps

variable (network : Nat → Outcome) (order : IterationOrder) {cc next : ValkeyClusterContext}

/-! ## The slot-map update -/

/-- The node that a connection was asked for holds it. -/
theorem holdsAt_obtained {node : Nat} {c : ValkeyContext}
    (obtains : ObtainsFor network cc node (some c, next)) : next.HoldsAt node c.id := by
  obtain ⟨known, member, name, obtains⟩ := obtains
  cases obtains with
  | existing held alive => exact ⟨known, member, name, c, held, rfl⟩
  | @reconnected old _ middle held lost made established id nextContext =>
      have before : middle.HoldsAt node old.id :=
        ⟨known, established.talked.nodes ▸ member, name, old, held, rfl⟩
      exact id ▸ before.put c rfl
  | @new _ middle without established id nextContext err accepted =>
      exact ⟨{ known with con := some c },
        List.mem_map.mpr ⟨known, established.talked.nodes ▸ member, if_pos rfl⟩, name, c, rfl, rfl⟩

/-- A connection has been asked for, and the client still matches. -/
structure PipedFor (node : Nat) (result : Option ValkeyContext × ValkeyClusterContext) : Prop where
  piped : result.2.Piped none
  member : ∀ c ∈ result.1, c ∈ result.2.contexts
  holds : ∀ c ∈ result.1, result.2.HoldsAt node c.id

theorem pipedFor_node (piped : cc.Piped none) (node : Nat) :
    Ensures (valkeyClusterGetValkeyContext network cc node) anyFault (PipedFor node) := by
  refine (ensures_obtains network cc fun _ => trivial).mono fun ⟨con, next⟩ obtainsFor => ?_
  have ⟨known, member, name, obtains⟩ := obtainsFor
  obtain ⟨pipedNext, inNext⟩ := piped.of_obtains obtains (fun c held => mem_contexts member held)
    (storesAt_setCon member)
  refine ⟨pipedNext, inNext, fun c held => ?_⟩
  obtain rfl : con = some c := held
  exact holdsAt_obtained network obtainsFor

theorem piped_updateSlotmapFrom (piped : cc.Piped none) (nodes : List Nat)
    (quiet : LoopQuiet network order cc nodes) :
    Ensures (updateSlotmapFrom network order cc nodes) anyFault fun result =>
      result.2.Piped none := by
  induction nodes generalizing cc with
  | nil => exact piped
  | cons node rest induction =>
      refine (pipedFor_node network piped node).computed.bind
        fun ⟨con, next⟩ ⟨got, obtained⟩ => ?_
      have later := quiet con next got
      cases con with
      | none => exact induction obtained.piped later
      | some c =>
          refine (piped_queryRoute network order obtained.piped (obtained.member c rfl)
            (obtained.holds c rfl) later.1).computed.bind
            fun ⟨status, last⟩ ⟨queried, succeeded, failed⟩ => ?_
          cases status with
          | ok =>
              exact (succeeded rfl).of_contexts ((succeeded rfl).wellFormed.of_sameNames
                (sameNames_clearError last)) ⟨rfl, rfl, Nat.le_refl _⟩ fun _ member => member
          | err => exact induction (failed rfl) (later.2 last queried)

/-! ## Appending -/

/-- The errors of the client may change. -/
theorem piped_of_fields (piped : cc.Piped none) (nodes : next.nodes = cc.nodes)
    (table : next.table = cc.table) (nextNode : next.nextNode = cc.nextNode)
    (nextContext : next.nextContext = cc.nextContext) (same : SameRequests cc next) :
    next.Piped none :=
  piped.of_contexts (piped.wellFormed.of_sameNames (.of_fields nodes table nextNode nextContext))
    same
    fun con member => by rwa [ValkeyClusterContext.contexts, nodes] at member

theorem piped_table (piped : cc.Piped none) (slot : Nat) :
    (node_get_by_table cc slot).2.Piped none := by
  rcases node_get_by_table_found cc slot with ⟨node, found⟩ | ⟨str, missing⟩
  · rwa [found]
  · rw [missing]
    exact piped_of_fields piped rfl rfl rfl rfl ⟨rfl, rfl, Nat.le_refl _⟩

theorem piped_setContextError (piped : cc.Piped none) (con : ValkeyContext) :
    (cc.setContextError con).Piped none :=
  piped.of_contexts (piped.wellFormed.of_sameNames (sameNames_setContextError cc con))
    (.setContextError cc con) fun found member => by
      rwa [ValkeyClusterContext.contexts, nodes_setContextError] at member

theorem piped_appendFormattedCommand (piped : cc.Piped none) (cmd : Bytes) :
    Ensures (valkeyClusterAppendFormattedCommand network cc cmd) anyFault fun result =>
      result.2.Piped none := by
  unfold valkeyClusterAppendFormattedCommand
  cases prepared : prepareCommand cc cmd with
  | error next =>
      obtain ⟨err, errstr, rfl⟩ := prepareCommand_refused prepared
      exact piped_of_fields piped rfl rfl rfl rfl ⟨rfl, rfl, Nat.le_refl _⟩
  | ok command =>
      have looked := piped_table piped command.slot
      dsimp only
      split
      · rename_i found
        rwa [found] at looked
      · rename_i node next found
        rw [found] at looked
        refine (pipedFor_node network looked node).bind fun ⟨con, cc⟩ obtained => ?_
        cases con with
        | none => exact obtained.piped
        | some c =>
            dsimp only
            split
            · exact piped_setContextError obtained.piped c
            · rename_i alive
              exact obtained.piped.append (obtained.member c rfl) (by simpa using alive) _ _

theorem piped_addressee (piped : cc.Piped none) (addressee : Addressee) :
    Ensures (contextOf network cc addressee) anyFault fun result =>
      result.2.2.Piped none ∧ ∀ c ∈ result.2.1, c ∈ result.2.2.contexts := by
  unfold contextOf
  cases named : cc.addressed addressee with
  | error fault => trivial
  | ok known =>
      exact piped.of_obtains (getContext_obtains network cc known.host known.port known.con _)
        (fun c held => mem_contexts_addressed named held) (storesAt_storeCon named)

theorem piped_appendCommandToNode (piped : cc.Piped none) (addressee : Addressee)
    (formatted : Option Bytes) :
    Ensures (valkeyClusterAppendCommandToNode network cc addressee formatted) anyFault
      fun result => result.2.Piped none := by
  refine (piped_addressee network piped addressee).bind fun ⟨addr, con, cc⟩ ⟨obtained, member⟩ => ?_
  cases con with
  | none => exact obtained
  | some c =>
      dsimp only
      split
      · exact piped_setContextError obtained c
      · rename_i alive
        cases formatted with
        | none => exact piped_of_fields obtained rfl rfl rfl rfl ⟨rfl, rfl, Nat.le_refl _⟩
        | some cmd => exact obtained.append (member c rfl) (by simpa using alive) _ _

/-! ## Reading replies -/

/-- The first of the waiting commands has been taken, and nothing has been read yet. -/
structure Taken (cc : ValkeyClusterContext) (rest : List Pipelined) (next : ValkeyClusterContext) :
    Prop where
  same : SameNames cc next
  nodes : next.nodes = cc.nodes
  requests : next.requests = rest
  appended : next.appended = cc.appended
  outcomes : next.outcomes = cc.outcomes

/-- `valkeyClusterGetReply` reads from the connection that it looks up. -/
theorem getReply_source {request : Pipelined} {rest : List Pipelined}
    (known : cc.requests = request :: rest) :
    Ensures (valkeyClusterGetReply network cc) anyFault fun result =>
      ∃ taken, Taken cc rest taken ∧
        result = valkeyClusterGetReplyFromNode network taken (replySource cc request) request := by
  unfold valkeyClusterGetReply replySource
  have first : cc.clearError.requests = request :: rest := known
  rw [first]
  dsimp only
  have taken : Taken cc rest { cc.clearError with requests := rest } :=
    ⟨.of_fields rfl rfl rfl rfl, rfl, rfl, rfl, rfl⟩
  cases request.target with
  | node addr =>
      dsimp only
      have same : findByAddr { cc.clearError with requests := rest }.nodes addr =
        findByAddr cc.nodes addr := rfl
      rw [same]
      cases findByAddr cc.nodes addr with
      | none =>
          exact ⟨{ cc.clearError with requests := rest }.setError .other _,
            ⟨.of_fields rfl rfl rfl rfl, rfl, rfl, rfl, rfl⟩, rfl⟩
      | some node => exact ⟨_, taken, rfl⟩
  | slot slot =>
      dsimp only
      have same : (node_get_by_table { cc.clearError with requests := rest } slot).1 =
          (node_get_by_table cc slot).1 := by
        unfold node_get_by_table
        split
        · rfl
        dsimp only [clearError]
        split
        · rfl
        split <;> rfl
      rw [← same]
      rcases node_get_by_table_found { cc.clearError with requests := rest } slot with
        ⟨node, found⟩ | ⟨str, missing⟩
      · rw [found]
        dsimp only [Option.bind_some]
        have sameNode : { cc.clearError with requests := rest }.findNode node = cc.findNode node :=
          rfl
        unfold ValkeyClusterContext.node
        rw [sameNode]
        cases cc.findNode node with
        | none => trivial
        | some known => exact ⟨_, taken, rfl⟩
      · rw [missing]
        exact ⟨{ cc.clearError with requests := rest }.setError .other str,
          ⟨.of_fields rfl rfl rfl rfl, rfl, rfl, rfl, rfl⟩, rfl⟩

theorem replySource_mem {request : Pipelined} {c : ValkeyContext}
    (source : replySource cc request = some c) : c ∈ cc.contexts := by
  unfold replySource at source
  split at source
  · obtain ⟨node, _, source⟩ := Option.bind_eq_some_iff.mp source
    obtain ⟨known, found, held⟩ := Option.bind_eq_some_iff.mp source
    exact mem_contexts (List.mem_of_find?_eq_some found) held
  · obtain ⟨known, found, held⟩ := Option.bind_eq_some_iff.mp source
    exact mem_contexts (List.mem_of_find?_eq_some found) held

/-- Nothing is read: the connection of the command has been lost. -/
theorem piped_take_unread (piped : cc.Piped none) {request : Pipelined} {rest : List Pipelined}
    (known : cc.requests = request :: rest) (taken : Taken cc rest next)
    (lost : ∀ con ∈ cc.contexts, con.err = none → con.session ≠ request.session) :
    next.Piped none := by
  refine piped.take known taken.same taken.requests taken.appended
    (Nat.le_of_eq taken.outcomes.symm) fun con member => ?_
  rw [ValkeyClusterContext.contexts, taken.nodes] at member
  refine ⟨con, member, rfl, rfl, fun alive => ⟨alive, ?_⟩⟩
  rw [if_neg (lost con member alive)]

theorem Taken.setContextError {rest : List Pipelined} (taken : Taken cc rest next)
    (con : ValkeyContext) : Taken cc rest (next.setContextError con) where
  same := taken.same.trans (sameNames_setContextError next con)
  nodes := (nodes_setContextError next con).trans taken.nodes
  requests := (SameRequests.setContextError next con).requests.trans taken.requests
  appended := (SameRequests.setContextError next con).appended.trans taken.appended
  outcomes := by
    unfold ValkeyClusterContext.setContextError
    split <;> exact taken.outcomes

theorem Taken.countFailure {rest : List Pipelined} (taken : Taken cc rest next) :
    Taken cc rest next.countFailure := by
  have counted : ∀ {last : ValkeyClusterContext}, last.nodes = next.nodes →
      SameNames next last → last.requests = next.requests → last.appended = next.appended →
        last.outcomes = next.outcomes → Taken cc rest last :=
    fun nodes same requests appended outcomes =>
      ⟨taken.same.trans same, nodes.trans taken.nodes, requests.trans taken.requests,
        appended.trans taken.appended, outcomes.trans taken.outcomes⟩
  unfold ValkeyClusterContext.countFailure
  split
  · exact taken
  split <;> exact counted rfl (.of_fields rfl rfl rfl rfl) rfl rfl rfl

/-- The reply answers the first of the waiting commands, and the others still match. -/
structure Delivered (request : Pipelined) (result : Status × Option Answer × ValkeyClusterContext) :
    Prop where
  piped : result.2.2.Piped none
  answers : ∀ answer ∈ result.2.1, answer.request = request.request

theorem delivered_getReplyFromNode (piped : cc.Piped none) {request : Pipelined}
    {rest : List Pipelined} (known : cc.requests = request :: rest) (taken : Taken cc rest next)
    (keeps : KeepsSession cc request) :
    Delivered request
      (valkeyClusterGetReplyFromNode network next (replySource cc request) request) := by
  unfold valkeyClusterGetReplyFromNode
  cases source : replySource cc request with
  | none =>
      refine ⟨piped_take_unread piped known taken fun con member alive here => ?_,
        fun _ none => by cases none⟩
      cases source.symm.trans ((keeps con member alive).mpr here)
  | some c =>
      have member := replySource_mem source
      have others : ∀ con ∈ cc.contexts, con.err = none → con.id ≠ c.id →
          con.session ≠ request.session := fun con inContexts alive different here =>
        different (congrArg ValkeyContext.id
          (Option.some.inj (source.symm.trans ((keeps con inContexts alive).mpr here)))).symm
      dsimp only
      split
      · rename_i dead
        refine ⟨piped_take_unread piped known (taken.countFailure.setContextError c)
          fun con inContexts alive here => ?_, fun _ none => by cases none⟩
        obtain rfl := Option.some.inj (source.symm.trans ((keeps con inContexts alive).mpr here))
        simp [alive] at dead
      · rename_i alive
        have alive : c.err = none := by simpa using alive
        have here : c.session = request.session := (keeps c member alive).mp source
        have waiting : c.outstanding = request.request :: waitingFor rest request.session := by
          rw [piped.matched c member nofun alive, known, here, waitingFor_cons_same]
        have touched : Touched next c (valkeyGetReply (network next.outcomes) c).2
            (next.exchange c (valkeyGetReply (network next.outcomes) c).2
              (.pipelined request.index request.cmd)
              (valkeyGetReply (network next.outcomes) c).1) := touched_exchange network c _
        have read : ∀ {last : ValkeyClusterContext},
            last.nodes = (next.putContext (valkeyGetReply (network next.outcomes) c).2).nodes →
              SameNames next last → SameRequests next last →
              ((valkeyGetReply (network next.outcomes) c).2.err = none →
                c.outstanding = request.request ::
                  (valkeyGetReply (network next.outcomes) c).2.outstanding) → last.Piped none := by
          intro last nodes names same consumed
          have changed : Touched next c _ last := ⟨touched.id, touched.session, nodes, same⟩
          refine piped.take known (taken.same.trans names) (same.requests.trans taken.requests)
            (same.appended.trans taken.appended) (taken.outcomes ▸ same.outcomes)
            fun con inContexts => ?_
          rcases changed.contexts inContexts with rfl | ⟨old, different⟩
          · refine ⟨c, member, touched.id, touched.session, fun open_ => ⟨alive, ?_⟩⟩
            rw [if_pos here]
            exact consumed open_
          · rw [ValkeyClusterContext.contexts, taken.nodes] at old
            refine ⟨con, old, rfl, rfl, fun open_ => ⟨open_, ?_⟩⟩
            rw [if_neg (others con old open_ different)]
        have names := sameNames_exchange next c (valkeyGetReply (network next.outcomes) c).2
          (.pipelined request.index request.cmd) (valkeyGetReply (network next.outcomes) c).1
        generalize next.exchange c (valkeyGetReply (network next.outcomes) c).2
          (.pipelined request.index request.cmd)
          (valkeyGetReply (network next.outcomes) c).1 = last at touched names ⊢
        rcases valkeyGetReply_cases (network next.outcomes) c with
          ⟨answer, after, result, reads⟩ | ⟨after, result, lost⟩
        · rw [result] at read touched ⊢
          have first := reads.outstanding
          rw [waiting] at first
          obtain ⟨answered, remaining⟩ := List.cons.inj first
          have consumed : c.outstanding = request.request :: after.outstanding := by
            rw [waiting, remaining]
          refine ⟨?_, fun found same => ?_⟩
          · dsimp only
            split
            · exact read touched.nodes (names.trans (.of_fields rfl rfl rfl rfl))
                (touched.same.trans ⟨rfl, rfl, Nat.le_refl _⟩) fun _ => consumed
            · exact read touched.nodes names touched.same fun _ => consumed
          · obtain rfl := Option.some.inj same
            exact answered.symm
        · rw [result] at read touched ⊢
          exact ⟨read ((nodes_setContextError _ _).trans touched.nodes)
            (names.trans (sameNames_setContextError _ _))
            (touched.same.trans (.setContextError _ _)) fun open_ => absurd open_ lost.err,
            fun _ none => by cases none⟩

theorem delivered_getReply (piped : cc.Piped none) {request : Pipelined} {rest : List Pipelined}
    (known : cc.requests = request :: rest) (keeps : KeepsSession cc request) :
    Ensures (valkeyClusterGetReply network cc) anyFault (Delivered request) := by
  refine (getReply_source network known).mono fun result ⟨taken, isTaken, read⟩ => ?_
  rw [read]
  exact delivered_getReplyFromNode network piped known isTaken keeps

/-! ## Runs -/

theorem piped_clientStep (call : Call) {client : Client} (piped : client.cc.Piped none)
    (steady : Steady network order call client) :
    Ensures (clientStep network order call client) anyFault fun next => next.cc.Piped none := by
  cases client with
  | executing command state => cases call <;> exact steady.elim
  | idle cc =>
      cases call with
      | command _ | commandToNode _ _ | reset => exact steady.elim
      | append cmd => exact (piped_appendFormattedCommand network piped cmd).bind fun _ next => next
      | appendToNode addressee formatted =>
          exact (piped_appendCommandToNode network piped addressee formatted).bind
            fun _ next => next
      | updateSlotmap =>
          exact (piped_updateSlotmapFrom network order piped _ steady).bind fun _ next => next
      | getReply =>
          change Ensures (valkeyClusterGetReply network cc >>= _) _ _
          cases known : cc.requests with
          | nil =>
              unfold valkeyClusterGetReply
              have none : cc.clearError.requests = [] := known
              rw [none]
              exact piped_of_fields piped rfl rfl rfl rfl ⟨rfl, rfl, Nat.le_refl _⟩
          | cons request rest =>
              have keeps : KeepsSession cc request := steady request (by rw [known]; rfl)
              exact (delivered_getReply network piped known keeps).bind fun _ next => next.piped

/-- The reply that `valkeyClusterGetReply` returns is the answer to the next of the
commands in the order in which they were appended. -/
theorem clientRun_pipeline {cc last next : ValkeyClusterContext} (wellFormed : cc.WellFormed)
    (unconnected : cc.contexts = []) (unused : cc.requests = [])
    (run : ClientRun network order (Steady network order) (.idle cc) (.idle last))
    (steady : Steady network order .getReply (.idle last)) {answer : Answer}
    (returned : valkeyClusterGetReply network last = .ok (.ok, some answer, next)) :
    ∃ request rest, last.requests = request :: rest ∧
      request.index = last.appended - last.requests.length ∧
      answer.request = .pipelined request.index request.cmd := by
  have first : cc.Piped none := by
    refine ⟨wellFormed, ?_, ?_, ?_, ?_, ?_, ?_⟩
    · intro con member
      rw [unconnected] at member
      exact nomatch member
    · intro con member
      rw [unconnected] at member
      exact nomatch member
    · intro con member
      rw [unconnected] at member
      exact nomatch member
    · intro pipelined member
      rw [unused] at member
      exact nomatch member
    · rw [unused]
      exact Nat.zero_le _
    · rw [unused]
      rfl
  have piped : last.Piped none := ClientRun.invariant network order (·.cc.Piped none) run first
    fun call client piped steady => piped_clientStep network order call piped steady
  cases known : last.requests with
  | nil =>
      unfold valkeyClusterGetReply at returned
      have none : last.clearError.requests = [] := known
      rw [none] at returned
      exact nomatch returned
  | cons request rest =>
      have keeps : KeepsSession last request := steady request (by rw [known]; rfl)
      have delivered := (delivered_getReply network piped known keeps).of_ok returned
      exact ⟨request, rest, rfl, known ▸ (piped.numbered_rest known).1,
        delivered.answers answer rfl⟩

end Keeps

/-! ## A pipeline to one node -/

def appendToFirst (cmd : String) : Call := .appendToNode (.primary 0) (some (ascii cmd))

theorem clientRun_pipeline_get :
    ∃ last next : ValkeyClusterContext, ∃ answer : Answer,
      valkeyClusterGetReply (calmNetwork fun _ => .status (ascii "OK")) last =
          .ok (.ok, some answer, next) ∧
        ∃ request rest, last.requests = request :: rest ∧
          request.index = last.appended - last.requests.length ∧
          answer.request = .pipelined request.index request.cmd := by
  let network := calmNetwork fun _ => .status (ascii "OK")
  have started : ClientRun network inOrder (Steady network inOrder) (.idle twoNodes)
    (.idle twoNodes) := .start
  have one := started.step (appendToFirst "GET x") trivial rfl
  have two := one.step (appendToFirst "GET y") trivial rfl
  refine ⟨_, _, _, rfl, clientRun_pipeline network inOrder wellFormed_twoNodes rfl rfl two ?_ rfl⟩
  intro request first con member _
  obtain rfl := Option.some.inj first
  obtain rfl := List.mem_singleton.mp member
  exact ⟨fun _ => rfl, fun _ => rfl⟩

/-- The connection is lost while the first reply is read. -/
def lostWithReplies (time : Nat) : Outcome :=
  { calmNetwork (fun _ => .status (ascii "OK")) time with
    replies := if time = 1 then [] else [.status (ascii "OK")] }

/-- The connection is set up again for the third command, whose reply is returned for
the second one. -/
theorem client_shifts_replies :
    ∃ last next answer request rest,
      ClientRun lostWithReplies inOrder Pipelining (.idle twoNodes) (.idle last) ∧
        valkeyClusterGetReply lostWithReplies last = .ok (.ok, some answer, next) ∧
        last.requests = request :: rest ∧
        request.index = last.appended - last.requests.length ∧
        answer.request ≠ .pipelined request.index request.cmd := by
  have started : ClientRun lostWithReplies inOrder Pipelining (.idle twoNodes)
    (.idle twoNodes) := .start
  have one := started.step (appendToFirst "GET x") trivial rfl
  have two := one.step (appendToFirst "GET y") trivial rfl
  have failed := two.step .getReply trivial rfl
  have again := failed.step (appendToFirst "GET z") trivial rfl
  exact ⟨_, _, _, _, _, again, rfl, rfl, rfl, by decide⟩

end Libvalkey
