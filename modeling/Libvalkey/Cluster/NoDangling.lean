import Libvalkey.Cluster.Ownership

/-! # Pointers of the executor

The executor keeps pointers to a node and to connections while the nodes may be
replaced. As long as no replacement takes them away, none of them dangles. -/

namespace Libvalkey

open Checked ValkeyClusterContext

/-- The client is well-formed and the connection of a deferred update is one of its connections. -/
structure Holding (s : Executor) : Prop where
  wellFormed : s.cc.WellFormed
  updating : ∀ c ∈ s.updating, c ∈ s.cc.contextNames

/-- The pointers that the executor holds belong to the client. -/
def Sound : ExecutorState → Prop
  | (.connect node, s) | (.movedConnect node, s) =>
      Holding s ∧ node ∈ s.cc.nodeNames ∧ s.cc.table.isSome
  | (.movedUpdate node, s) =>
      Holding s ∧ node ∈ s.cc.nodeNames ∧ s.cc.table.isSome ∧ s.updating = none
  | (.movedRetry c, s) | (.replied c, s) | (.moved c, s) | (.ask c, s) | (.asking c, s) =>
      Holding s ∧ c ∈ s.cc.contextNames ∧ s.cc.table.isSome
  | (.retry, s) | (.updateUnserved, s) | (.updateUnreachable, s) | (.error, s) | (.done, s)
  | (.returned, s) => Holding s

/-- The slot-map update takes no pointer away: with the node of a redirect at hand
it fails, and it keeps the connection of a deferred update. -/
def KeepsPointers (network : Nat → Outcome) (order : IterationOrder) : ExecutorState → Prop
  | (.movedUpdate _, s) =>
      ∀ cc, valkeyClusterUpdateSlotmap network order s.cc ≠ .ok (.ok, cc)
  | (.updateUnserved, s) | (.updateUnreachable, s) =>
      ∀ status cc, valkeyClusterUpdateSlotmap network order s.cc = .ok (status, cc) →
        ∀ c ∈ s.updating, c ∈ cc.contextNames
  | _ => True

/-- A write outside the slot table. -/
def outsideTable (fault : Fault) : Prop := ∃ slot, fault = .tableIndex slot

section Steps

variable (network : Nat → Outcome) (order : IterationOrder) (command : Command)
  {cc next : ValkeyClusterContext} {s : Executor}

theorem noFault_outsideTable (fault : Fault) (none : noFault fault) : outsideTable fault :=
  none.elim

theorem Holding.of_same (holding : Holding s) (same : SameNames s.cc next) (reply : Option Answer) :
    Holding { s with cc := next, reply := reply } :=
  ⟨holding.wellFormed.of_sameNames same, fun c member => by
    rw [same.contextNames]
    exact holding.updating c member⟩

theorem Holding.of_grows (holding : Holding s) (wellFormed : next.WellFormed)
    (grows : Grows s.cc next) (reply : Option Answer) :
    Holding { s with cc := next, reply := reply } :=
  ⟨wellFormed, fun c member => grows.contexts c (holding.updating c member)⟩

theorem node_get_by_table_cases (owned : cc.TableOwned) (slot : Nat) :
    (∃ next, node_get_by_table cc slot = (none, next) ∧ SameNames cc next) ∨
      ∃ node, node_get_by_table cc slot = (some node, cc) ∧ node ∈ cc.nodeNames ∧
        cc.table.isSome := by
  unfold node_get_by_table
  split
  · exact Or.inl ⟨_, rfl, sameNames_setError _ _ _⟩
  split
  · exact Or.inl ⟨_, rfl, sameNames_setError _ _ _⟩
  rename_i table known
  split
  · exact Or.inl ⟨_, rfl, sameNames_setError _ _ _⟩
  rename_i node found
  refine Or.inr ⟨node, rfl, owned table known node ?_, by simp [known]⟩
  rw [List.getD_eq_getElem?_getD] at found
  cases entry : table[slot]? with
  | none => simp [entry] at found
  | some value =>
      rw [entry, Option.getD_some] at found
      exact found ▸ List.mem_of_getElem? entry

theorem sound_useConnection (holding : Holding s)
    {con : Option ValkeyContext} (named : ∀ c ∈ con, c.id ∈ s.cc.contextNames)
    {label : Nat → Label} (sound : ∀ c, Holding s → c ∈ s.cc.contextNames → Sound (label c, s)) :
    Sound (useConnection s con label) := by
  cases con with
  | none => exact holding
  | some c =>
      unfold useConnection
      dsimp only
      split
      · exact holding.of_same (sameNames_setContextError _ c) s.reply
      · exact sound c.id holding (named c rfl)

theorem sound_retryStep (holding : Holding s) :
    Ensures (retryStep command s) outsideTable Sound := by
  unfold retryStep
  rcases node_get_by_table_cases holding.wellFormed.tableOwned command.slot with
    ⟨next, result, same⟩ | ⟨node, result, member, table⟩
  · rw [result]
    exact holding.of_same same s.reply
  · rw [result]
    exact ⟨holding, member, table⟩

/-- The update of the slot map before a connection is made. -/
theorem ensures_kept (holding : Holding s)
    (keeps : ∀ status cc, valkeyClusterUpdateSlotmap network order s.cc = .ok (status, cc) →
      ∀ c ∈ s.updating, c ∈ cc.contextNames) :
    Ensures (valkeyClusterUpdateSlotmap network order s.cc) outsideTable fun result =>
      Updated s.cc result ∧ Holding { s with cc := result.2 } := by
  refine ((ensures_updateSlotmap network order holding.wellFormed).allow
    noFault_outsideTable).computed.mono fun result ⟨equal, updated⟩ => ?_
  exact ⟨updated, updated.wellFormed, keeps result.1 result.2 equal⟩

theorem sound_updateUnservedStep (holding : Holding s)
    (keeps : KeepsPointers network order (.updateUnserved, s)) :
    Ensures (updateUnservedStep network order command s) outsideTable Sound := by
  refine (ensures_kept network order holding keeps).bind fun ⟨status, cc⟩ ⟨updated, held⟩ => ?_
  cases status with
  | err => exact held
  | ok =>
      rcases node_get_by_table_cases updated.wellFormed.tableOwned command.slot with
        ⟨next, result, same⟩ | ⟨node, result, member, table⟩
      · simp only [result]
        exact held.of_same same s.reply
      · simp only [result]
        exact ⟨held, member, table⟩

theorem sound_connectStep {node : Nat} (holding : Holding s) (member : node ∈ s.cc.nodeNames)
    (table : s.cc.table.isSome) :
    Ensures (connectStep network s node) outsideTable Sound := by
  refine (ensures_obtains network s.cc fun dangling => absurd member dangling).bind
    fun ⟨con, cc⟩ obtains => ?_
  obtain ⟨wellFormed, grows, named⟩ := holding.wellFormed.of_obtainsFor obtains
  have held := holding.of_grows wellFormed grows s.reply
  cases con with
  | none => exact held
  | some c =>
      dsimp only
      split
      · exact held
      · exact ⟨held, named c rfl, grows.table ▸ table⟩

theorem sound_updateUnreachableStep (holding : Holding s)
    (keeps : KeepsPointers network order (.updateUnreachable, s)) :
    Ensures (updateUnreachableStep network order command s) outsideTable Sound := by
  refine (ensures_kept network order holding keeps).bind fun ⟨status, cc⟩ ⟨updated, held⟩ => ?_
  cases status with
  | err => exact held
  | ok =>
      rcases node_get_by_table_cases updated.wellFormed.tableOwned command.slot with
        ⟨next, result, same⟩ | ⟨node, result, member, table⟩
      · simp only [result]
        exact held.of_same same s.reply
      · simp only [result]
        refine (ensures_obtains network cc fun dangling => absurd member dangling).bind
          fun ⟨con, next⟩ obtains => ?_
        obtain ⟨wellFormed, grows, named⟩ := updated.wellFormed.of_obtainsFor obtains
        exact sound_useConnection (held.of_grows wellFormed grows s.reply) named
          fun c held member => ⟨held, member, grows.table.symm ▸ table⟩

theorem sameNames_scheduleUpdate (cc : ValkeyClusterContext) :
    SameNames cc (scheduleUpdate cc) := by
  unfold scheduleUpdate
  split
  · exact .of_fields rfl rfl rfl rfl
  · exact .refl cc

theorem sound_movedRetryStep {c : Nat} (holding : Holding s) (member : c ∈ s.cc.contextNames)
    (table : s.cc.table.isSome) :
    Ensures (movedRetryStep network command s c) outsideTable Sound := by
  refine (ensures_context fun dangling => absurd member dangling).bind fun con _ => ?_
  have appended : SameNames s.cc
      (s.cc.putContext (valkeyAppendCommand con (.command command.cmd))) :=
    sameNames_putContext _ _
  generalize s.cc.putContext (valkeyAppendCommand con (.command command.cmd)) = cc at appended
  have sent : Ensures (scheduledUpdate network cc s.updating c) outsideTable
      fun result => SameNames s.cc result.2 := by
    unfold scheduledUpdate
    split
    · exact ((ensures_sendCommand network (appended.contextNames.symm ▸ member)).mono
        fun _ same => appended.trans same).allow noFault_outsideTable
    · exact appended
  refine sent.bind fun ⟨status, cc⟩ same => ?_
  dsimp only at same ⊢
  have here : c ∈ cc.contextNames := same.contextNames.symm ▸ member
  refine (ensures_context fun dangling => absurd here dangling).bind fun con _ => ?_
  have read := same.trans (sameNames_exchange cc con (valkeyGetReply (network cc.outcomes) con).2
    (.command command.cmd) (valkeyGetReply (network cc.outcomes) con).1)
  have held : ∀ {last : ValkeyClusterContext} (reply : Option Answer), SameNames s.cc last →
      Holding
        { cc := last
          updating := if status = .ok then some c else s.updating
          reply := reply } := by
    intro last reply lastSame
    refine ⟨holding.wellFormed.of_sameNames lastSame, fun u updating => ?_⟩
    rw [lastSame.contextNames]
    split at updating
    · exact Option.some.inj updating ▸ member
    · exact holding.updating u updating
  generalize cc.exchange con (valkeyGetReply (network cc.outcomes) con).2
    (.command command.cmd) (valkeyGetReply (network cc.outcomes) con).1 = last at read ⊢
  split
  · exact ⟨held _ read, read.contextNames.symm ▸ member, read.table.symm ▸ table⟩
  · exact held none (read.trans ((sameNames_setContextError last _).trans
      (sameNames_scheduleUpdate _)))

theorem sound_repliedStep {c : Nat} (holding : Holding s) (member : c ∈ s.cc.contextNames)
    (table : s.cc.table.isSome) : Ensures (repliedStep s c) outsideTable Sound := by
  have held : ∀ {last : ValkeyClusterContext} (reply : Option Answer), SameNames s.cc last →
      Holding { s with cc := last, reply := reply } := fun reply same => holding.of_same same reply
  unfold repliedStep
  split
  · exact holding
  dsimp only
  split
  · exact holding
  split
  · exact held _ (.of_fields rfl rfl rfl rfl)
  split
  · exact ⟨held s.reply (.of_fields rfl rfl rfl rfl), member, table⟩
  · exact ⟨held s.reply (.of_fields rfl rfl rfl rfl), member, table⟩
  · exact held none (.of_fields rfl rfl rfl rfl)

theorem nodeNames_addNode (redirect : Redirect) :
    (cc.addNode redirect).nodeNames = cc.nodeNames ++ [cc.nextNode] := by
  simp [ValkeyClusterContext.nodeNames, addNode, redirectNode]

theorem contexts_addNode (redirect : Redirect) :
    (cc.addNode redirect).contexts = cc.contexts := by
  simp [contexts, addNode, redirectNode, ValkeyClusterNode.connections]

theorem contextNames_addNode (redirect : Redirect) :
    (cc.addNode redirect).contextNames = cc.contextNames := by
  rw [ValkeyClusterContext.contextNames, contexts_addNode, ValkeyClusterContext.contextNames]

theorem wellFormed_addNode (wellFormed : cc.WellFormed) {redirect : Redirect}
    (unknown : findByAddr cc.nodes redirect.key = none) :
    (cc.addNode redirect).WellFormed where
  nodeNames_nodup := by
    rw [nodeNames_addNode]
    exact List.nodup_append.mpr ⟨wellFormed.nodeNames_nodup, by simp, fun node inNodes other last =>
      List.mem_singleton.mp last ▸ (wellFormed.nodeNames_lt node inNodes).ne⟩
  addrs_nodup := by
    have addrs : (cc.addNode redirect).addrs = cc.addrs ++ [redirect.key] := by
      simp [ValkeyClusterContext.addrs, addNode, redirectNode]
    rw [addrs]
    refine List.nodup_append.mpr ⟨wellFormed.addrs_nodup, by simp,
      fun addr inAddrs other last => ?_⟩
    rw [List.mem_singleton.mp last]
    rintro rfl
    obtain ⟨node, inNodes, same⟩ := List.mem_map.mp inAddrs
    simpa [same] using List.find?_eq_none.mp unknown node inNodes
  contextNames_nodup := (contextNames_addNode redirect).symm ▸ wellFormed.contextNames_nodup
  nodeNames_lt := by
    rw [nodeNames_addNode]
    intro node inNodes
    rcases List.mem_append.mp inNodes with old | last
    · exact Nat.lt_succ_of_lt (wellFormed.nodeNames_lt node old)
    · exact List.mem_singleton.mp last ▸ Nat.lt_succ_self _
  contextNames_lt := by
    rw [contextNames_addNode]
    exact wellFormed.contextNames_lt
  tableOwned := wellFormed.tableOwned.mono rfl fun node inNodes => by
    rw [nodeNames_addNode]
    exact List.mem_append_left _ inNodes

/-- A redirect leads to a node of the client. -/
theorem ensures_redirect {c : Nat} (wellFormed : cc.WellFormed) (member : c ∈ cc.contextNames)
    (str : Bytes) :
    Ensures (getNodeFromRedirectReply cc c str) outsideTable fun result =>
      result.2.WellFormed ∧ result.2.contextNames = cc.contextNames ∧
        result.2.table = cc.table ∧ ∀ target ∈ result.1, target.1 ∈ result.2.nodeNames := by
  refine (ensures_context fun dangling => absurd member dangling).bind fun con _ => ?_
  split
  · exact ⟨wellFormed.of_sameNames (sameNames_setError _ _ _), rfl, rfl,
      fun _ found => nomatch found⟩
  split
  · rename_i node found
    refine ⟨wellFormed, rfl, rfl, fun target equal => ?_⟩
    obtain rfl := Option.some.inj equal
    exact List.mem_map_of_mem (List.mem_of_find?_eq_some found)
  · rename_i unknown
    refine ⟨wellFormed_addNode wellFormed unknown, contextNames_addNode _, rfl,
      fun target equal => ?_⟩
    obtain rfl := Option.some.inj equal
    rw [nodeNames_addNode]
    exact List.mem_append_right _ (List.mem_singleton_self _)

theorem ensures_setTable {node : Nat} (wellFormed : cc.WellFormed) (table : cc.table.isSome)
    (member : node ∈ cc.nodeNames) (slot : Int) :
    Ensures (setTable cc slot node) outsideTable fun next =>
      next.WellFormed ∧ next.nodes = cc.nodes ∧ next.table.isSome := by
  unfold setTable
  split
  · rename_i missing
    simp [missing] at table
  rename_i entries known
  split
  · refine ⟨⟨wellFormed.nodeNames_nodup, wellFormed.addrs_nodup, wellFormed.contextNames_nodup,
      wellFormed.nodeNames_lt, wellFormed.contextNames_lt, ?_⟩, rfl, rfl⟩
    intro changed equal
    obtain rfl := Option.some.inj equal
    exact RefersTo.set (fun other => wellFormed.tableOwned entries known other) member _
  · exact ⟨slot, rfl⟩

theorem sound_movedStep {c : Nat} (holding : Holding s) (member : c ∈ s.cc.contextNames)
    (table : s.cc.table.isSome) : Ensures (movedStep network s c) outsideTable Sound := by
  refine (ensures_redirect holding.wellFormed member s.text).bind fun result redirected => ?_
  obtain ⟨target, cc⟩ := result
  obtain ⟨wellFormed, contexts, sameTable, named⟩ := redirected
  dsimp only at wellFormed contexts sameTable named
  have held : ∀ {last : ValkeyClusterContext}, last.WellFormed →
      last.contextNames = s.cc.contextNames → Holding { s with cc := last, reply := none } :=
    fun lastWellFormed same => ⟨lastWellFormed, fun u updating =>
      same.symm ▸ holding.updating u updating⟩
  cases target with
  | none => exact held wellFormed contexts
  | some target =>
      obtain ⟨node, slot⟩ := target
      have known := named (node, slot) rfl
      have written : Ensures (updateSlot cc slot node) outsideTable
          fun next => next.WellFormed ∧ next.nodes = cc.nodes ∧ next.table.isSome := by
        unfold updateSlot
        split
        · exact ensures_setTable wellFormed (sameTable ▸ table) known slot
        · exact ⟨wellFormed, rfl, sameTable ▸ table⟩
      refine written.bind fun next after => ?_
      obtain ⟨nextWellFormed, nodes, nextTable⟩ := after
      have nextKnown : node ∈ next.nodeNames := by
        unfold ValkeyClusterContext.nodeNames
        rw [nodes]
        exact known
      have nextContexts : next.contextNames = s.cc.contextNames := by
        rw [← contexts]
        simp only [ValkeyClusterContext.contextNames, ValkeyClusterContext.contexts, nodes]
      have nextHeld := held nextWellFormed nextContexts
      dsimp only
      split
      · exact ⟨nextHeld, nextKnown, nextTable⟩
      rename_i notUpdating
      have inContexts : c ∈ next.contextNames := nextContexts.symm ▸ member
      refine ((ensures_sendCommand network inContexts).allow noFault_outsideTable).bind
        fun result same => ?_
      obtain ⟨status, last⟩ := result
      dsimp only at same
      have lastKnown : node ∈ last.nodeNames := same.nodeNames.symm ▸ nextKnown
      have lastTable : last.table.isSome := same.table.symm ▸ nextTable
      cases status with
      | ok =>
          refine ⟨⟨nextWellFormed.of_sameNames same, fun u updating => ?_⟩, lastKnown, lastTable⟩
          obtain rfl := Option.some.inj updating
          exact same.contextNames.symm ▸ inContexts
      | err =>
          exact ⟨nextHeld.of_same same none, lastKnown, lastTable, by simpa using notUpdating⟩

theorem sound_movedUpdateStep {node : Nat} (holding : Holding s) (idle : s.updating = none)
    (keeps : KeepsPointers network order (.movedUpdate node, s)) :
    Ensures (movedUpdateStep network order s node) outsideTable Sound := by
  refine ((ensures_updateSlotmap network order holding.wellFormed).allow
    noFault_outsideTable).computed.bind fun ⟨status, cc⟩ ⟨equal, updated⟩ => ?_
  cases status with
  | ok => exact absurd equal (keeps cc)
  | err => exact ⟨updated.wellFormed, fun u updating => by simp [idle] at updating⟩

theorem sound_movedConnectStep {node : Nat} (holding : Holding s)
    (member : node ∈ s.cc.nodeNames) (table : s.cc.table.isSome) :
    Ensures (movedConnectStep network s node) outsideTable Sound := by
  refine (ensures_obtains network s.cc fun dangling => absurd member dangling).bind
    fun ⟨con, cc⟩ obtains => ?_
  obtain ⟨wellFormed, grows, named⟩ := holding.wellFormed.of_obtainsFor obtains
  exact sound_useConnection (holding.of_grows wellFormed grows s.reply) named fun c held member =>
    ⟨held, member, grows.table.symm ▸ table⟩

theorem sound_askStep {c : Nat} (holding : Holding s) (member : c ∈ s.cc.contextNames)
    (table : s.cc.table.isSome) : Ensures (askStep network s c) outsideTable Sound := by
  refine (ensures_redirect holding.wellFormed member s.text).bind
    fun ⟨target, cc⟩ ⟨wellFormed, contexts, sameTable, named⟩ => ?_
  dsimp only at wellFormed contexts sameTable named
  have held : ∀ reply, Holding { s with cc := cc, reply := reply } := fun reply =>
    ⟨wellFormed, fun u updating => contexts.symm ▸ holding.updating u updating⟩
  cases target with
  | none => exact held s.reply
  | some target =>
      have known := named target rfl
      refine (ensures_obtains network cc fun dangling => absurd known dangling).bind
        fun ⟨con, next⟩ obtains => ?_
      obtain ⟨nextWellFormed, grows, nextNamed⟩ := wellFormed.of_obtainsFor obtains
      have nextTable : next.table.isSome := grows.table.symm ▸ sameTable.symm ▸ table
      exact sound_useConnection ((held none).of_grows nextWellFormed grows none) nextNamed
        fun c held member => ⟨held, member, nextTable⟩

theorem sound_askingStep {c : Nat} (holding : Holding s) (member : c ∈ s.cc.contextNames)
    (table : s.cc.table.isSome) : Ensures (askingStep network s c) outsideTable Sound := by
  refine (ensures_context fun dangling => absurd member dangling).bind fun con _ => ?_
  have command := handshake_valkeyCommand network s.cc con .asking
    (by simp [Request.isCommand])
  dsimp only
  generalize valkeyCommand network s.cc con .asking = result at command ⊢
  obtain ⟨answer, con', next⟩ := result
  have same : SameNames s.cc (next.putContext con') :=
    (SameNames.of_fields command.talked.nodes command.talked.table command.talked.nextNode
      command.nextContext).trans (sameNames_putContext _ con')
  cases answer with
  | none => exact holding.of_same (same.trans (sameNames_setContextError _ con')) s.reply
  | some answer =>
      exact ⟨holding.of_same same s.reply, same.contextNames.symm ▸ member,
        same.table.symm ▸ table⟩

theorem sound_doneStep (holding : Holding s) :
    Ensures (doneStep network order s) outsideTable Sound := by
  unfold doneStep
  split
  · exact holding
  rename_i c updating
  refine ((ensures_handleReply network order holding.wellFormed
    (holding.updating c updating)).allow noFault_outsideTable).bind
      fun ⟨status, cc⟩ attempted => ?_
  cases status with
  | ok => exact ⟨attempted.wellFormed, fun _ found => nomatch found⟩
  | err =>
      refine ((ensures_updateSlotmap network order
        (attempted.wellFormed.of_sameNames (sameNames_clearError _))).allow
          noFault_outsideTable).bind fun ⟨status, cc⟩ updated => ?_
      cases status with
      | ok => exact ⟨updated.wellFormed, fun _ found => nomatch found⟩
      | err => exact ⟨updated.wellFormed, fun _ found => nomatch found⟩

/-- One step of the executor keeps its pointers. -/
theorem sound_executorStep {state : ExecutorState} (sound : Sound state)
    (keeps : KeepsPointers network order state) :
    Ensures (executorStep network order command state) outsideTable Sound := by
  obtain ⟨label, s⟩ := state
  cases label with
  | retry => exact sound_retryStep command sound
  | updateUnserved => exact sound_updateUnservedStep network order command sound keeps
  | connect node => exact sound_connectStep network sound.1 sound.2.1 sound.2.2
  | updateUnreachable => exact sound_updateUnreachableStep network order command sound keeps
  | movedRetry c => exact sound_movedRetryStep network command sound.1 sound.2.1 sound.2.2
  | replied c => exact sound_repliedStep sound.1 sound.2.1 sound.2.2
  | moved c => exact sound_movedStep network sound.1 sound.2.1 sound.2.2
  | movedUpdate node => exact sound_movedUpdateStep network order sound.1 sound.2.2.2 keeps
  | movedConnect node => exact sound_movedConnectStep network sound.1 sound.2.1 sound.2.2
  | ask c => exact sound_askStep network sound.1 sound.2.1 sound.2.2
  | asking c => exact sound_askingStep network sound.1 sound.2.1 sound.2.2
  | error =>
      have holding : Holding s := sound
      exact holding.of_same (.refl _) none
  | done => exact sound_doneStep network order sound
  | returned => exact sound

theorem sound_run {cc : ValkeyClusterContext} (wellFormed : cc.WellFormed) {state : ExecutorState}
    (run : ExecutorRun network order command (KeepsPointers network order) (executorStart cc)
      state) : Sound state := by
  induction run with
  | start => exact ⟨wellFormed, fun _ found => nomatch found⟩
  | step run meets step sound =>
      exact (sound_executorStep network order command sound meets).of_ok step

theorem Sound.holding {state : ExecutorState} (sound : Sound state) : Holding state.2 := by
  obtain ⟨label, s⟩ := state
  cases label with
  | retry | updateUnserved | updateUnreachable | error | done | returned => exact sound
  | connect | movedRetry | replied | moved | movedUpdate | movedConnect | ask | asking =>
      exact sound.1

end Steps

/-! ## A client with two nodes -/

def inOrder : IterationOrder where
  order := fun entries => entries
  perm := fun entries => .refl entries

/-- A node of a client that has not connected to it. -/
def exampleNode (id : Nat) (host : Bytes) (port : Nat) : ValkeyClusterNode ValkeyContext :=
  redirectNode id ⟨0, addressOf host port, host, port⟩

/-- Slot 0 belongs to the first node. -/
def twoNodes : ValkeyClusterContext where
  err := none
  errstr := []
  nodes := [exampleNode 0 (ascii "a") 1, exampleNode 1 (ascii "b") 2]
  table := some ((List.replicate valkeyClusterSlots none).set 0 (some 0))
  routeVersion := 1
  needUpdateRoute := false
  retryCount := 0
  maxRetryCount := 5
  addReplicas := false
  useClusterNodes := false
  username := none
  password := none
  selectDb := 0
  tls := false
  requests := []
  nextNode := 2
  nextContext := 0
  appended := 0
  outcomes := 0
  writes := []
  readings := []

theorem wellFormed_twoNodes : twoNodes.WellFormed where
  nodeNames_nodup := by decide
  addrs_nodup := by decide
  contextNames_nodup := by decide
  nodeNames_lt := by decide
  contextNames_lt := by decide
  tableOwned := by
    intro table known node member
    obtain rfl := Option.some.inj known
    rcases List.mem_or_eq_of_mem_set member with old | new
    · exact nomatch (List.eq_of_mem_replicate old)
    · obtain rfl := Option.some.inj new
      decide

/-- The first of the two nodes has a replica. -/
def replicatedNodes : ValkeyClusterContext :=
  { twoNodes with
    addReplicas := true
    nodes := [
      { exampleNode 0 (ascii "a") 1 with
        replicas := [⟨none, addressOf (ascii "c") 3, ascii "c", 3, none, none, 0⟩] },
      exampleNode 1 (ascii "b") 2] }

theorem wellFormed_replicatedNodes : replicatedNodes.WellFormed :=
  ⟨by decide, by decide, by decide, by decide, by decide, wellFormed_twoNodes.tableOwned⟩

/-- The second node serves slot 0. -/
def slotsOfSecond : ReplyTree :=
  .aggregate .array
    [.aggregate .array
      [.integer 0, .integer 0, .aggregate .array [.string (ascii "b"), .integer 2]]]

/-- A network on which everything works, with one reply to every read. -/
def calmNetwork (reply : Nat → ReplyTree) (time : Nat) : Outcome where
  connect := none
  tls := none
  write := none
  replies := [reply time]
  failure := ⟨.io, []⟩

def getSlotZero : Command := ⟨0, ascii "GET x"⟩

/-- The first node redirects slot 0 to the second one, and the query for the route
can not be sent to the first node any more. -/
def brokenAfterMoved (time : Nat) : Outcome :=
  { calmNetwork (fun time => if time = 1 then .error (ascii "MOVED 0 b:2") else slotsOfSecond)
      time with
    write := if time = 2 then some ⟨.io, ascii "Connection reset by peer"⟩ else none }

end Libvalkey
