import Libvalkey.Async.Closing
import Libvalkey.ClusterAsync.Queues
import Libvalkey.ClusterAsync.Selection

/-! # Disconnecting

A client that disconnects opens no connections of its own and sends nothing. The loop of
`valkeyClusterAsyncDisconnect` closes the connections of the primaries, and of no replica. -/

namespace Libvalkey

open Checked ValkeyClusterAsyncContext

variable {Fn Data : Type}

/-! ## Connections that stay open -/

/-- A node refers to a connection from before a bound that is neither to be disconnected nor
to be freed. -/
def HoldsOpen (acc : ValkeyClusterAsyncContext Fn Data) (bound : Nat) (node : Addressee) : Prop :=
  ∃ ac ∈ acc.connections, ⟨node, some ac.id⟩ ∈ owners acc.cc.nodes ∧ ac.id < bound ∧
    ¬ac.state.2.Closed

/-- No connection was opened, and nothing was submitted to one. -/
structure SendsNothing (acc next : ValkeyClusterAsyncContext Fn Data) : Prop where
  opened : next.nextConnection = acc.nextConnection
  connections : ∀ ac ∈ next.connections, ∃ before ∈ acc.connections,
    before.id = ac.id ∧ ac.state.2.submitted = before.state.2.submitted

/-- The nodes are new ones. -/
def Overtaken (acc next : ValkeyClusterAsyncContext Fn Data) : Prop :=
  ∀ node ∈ acc.cc.nodeNames, node ∉ next.cc.nodeNames

/-- Nodes get no other open connections, unless new nodes take over those of primaries. -/
structure WindsDown (acc next : ValkeyClusterAsyncContext Fn Data) : Prop where
  nextConnection : acc.nextConnection ≤ next.nextConnection
  nextNode : acc.cc.nextNode ≤ next.cc.nextNode
  names : ∀ node ∈ next.cc.nodeNames, node ∈ acc.cc.nodeNames ∨ acc.cc.nextNode ≤ node
  open_before : ∀ bound ≤ acc.nextConnection, ∀ node, HoldsOpen next bound node →
    HoldsOpen acc bound node ∨
      (Overtaken acc next ∧ ∃ old ∈ acc.cc.nodeNames, HoldsOpen acc bound (.primary old))

/-- A step that opens nothing and sends nothing. -/
structure Subsides (acc next : ValkeyClusterAsyncContext Fn Data) : Prop where
  winds : WindsDown acc next
  sends : SendsNothing acc next

/-- The nodes stay, and the connections that stay are not opened. -/
structure Lingers (acc next : ValkeyClusterAsyncContext Fn Data) : Prop where
  nodes : next.cc.nodes = acc.cc.nodes
  nextNode : next.cc.nextNode = acc.cc.nextNode
  nextConnection : next.nextConnection = acc.nextConnection
  connections : ∀ ac ∈ next.connections, ∃ before ∈ acc.connections,
    before.id = ac.id ∧ Passive before.state.2 ac.state.2

section Disconnecting

variable {world : World} {stack : List Activity} {acc next last : ValkeyClusterAsyncContext Fn Data}

namespace Lingers

theorem of_fields (nodes : next.cc.nodes = acc.cc.nodes)
    (nextNode : next.cc.nextNode = acc.cc.nextNode)
    (nextConnection : next.nextConnection = acc.nextConnection)
    (connections : next.connections = acc.connections) : Lingers acc next := by
  refine ⟨nodes, nextNode, nextConnection, fun ac member => ?_⟩
  rw [connections] at member
  exact ⟨ac, member, rfl, .refl ac.state.2⟩

theorem refl (acc : ValkeyClusterAsyncContext Fn Data) : Lingers acc acc :=
  of_fields rfl rfl rfl rfl

theorem trans (first : Lingers acc next) (second : Lingers next last) : Lingers acc last := by
  refine ⟨second.nodes.trans first.nodes, second.nextNode.trans first.nextNode,
    second.nextConnection.trans first.nextConnection, fun ac member => ?_⟩
  obtain ⟨middle, middleMember, middleId, later⟩ := second.connections ac member
  obtain ⟨before, beforeMember, id, earlier⟩ := first.connections middle middleMember
  exact ⟨before, beforeMember, id.trans middleId, earlier.trans later⟩

/-- A connection gets another state. -/
theorem put {c : Nat} {ac changed : Connection} (found : acc.connection c = .ok ac)
    (same : changed.id = ac.id) (passive : Passive ac.state.2 changed.state.2) :
    Lingers acc (acc.putConnection changed) := by
  refine ⟨rfl, rfl, rfl, fun other member => ?_⟩
  rcases mem_putConnection member with rfl | ⟨inside, _⟩
  · exact ⟨ac, (found_connection found).1, same.symm, passive⟩
  · exact ⟨other, inside, rfl, .refl other.state.2⟩

theorem holdsOpen (lingers : Lingers acc next) {bound : Nat} {node : Addressee}
    (holds : HoldsOpen next bound node) : HoldsOpen acc bound node := by
  obtain ⟨ac, member, owned, small, opened⟩ := holds
  obtain ⟨before, beforeMember, id, passive⟩ := lingers.connections ac member
  rw [lingers.nodes, ← id] at owned
  exact ⟨before, beforeMember, owned, id ▸ small, fun closed => opened (passive.closed closed)⟩

theorem nodeNames (lingers : Lingers acc next) : next.cc.nodeNames = acc.cc.nodeNames := by
  unfold ValkeyClusterContext.nodeNames
  rw [lingers.nodes]

theorem sends (lingers : Lingers acc next) : SendsNothing acc next := by
  refine ⟨lingers.nextConnection, fun ac member => ?_⟩
  obtain ⟨before, beforeMember, id, passive⟩ := lingers.connections ac member
  exact ⟨before, beforeMember, id, passive.submitted⟩

theorem winds (lingers : Lingers acc next) : WindsDown acc next where
  nextConnection := lingers.nextConnection.ge
  nextNode := lingers.nextNode.ge
  names _ member := .inl (lingers.nodeNames ▸ member)
  open_before _ _ _ holds := .inl (lingers.holdsOpen holds)

theorem subsides (lingers : Lingers acc next) : Subsides acc next := ⟨lingers.winds, lingers.sends⟩

end Lingers

theorem HoldsOpen.known {bound node : Nat} (holds : HoldsOpen acc bound (.primary node)) :
    node ∈ acc.cc.nodeNames := by
  obtain ⟨ac, _, owned, _⟩ := holds
  exact id_owners owned

/-- Numbers are not given again. -/
theorem Overtaken.later (overtaken : Overtaken acc next) (wellFormed : acc.cc.WellFormed)
    (nextNode : acc.cc.nextNode ≤ next.cc.nextNode) (winds : WindsDown next last) :
    Overtaken acc last := by
  intro node known later
  rcases winds.names node later with before | new
  · exact overtaken node known before
  · exact absurd (wellFormed.nodeNames_lt node known) (nextNode.trans new).not_gt

theorem WindsDown.trans (wellFormed : acc.cc.WellFormed) (first : WindsDown acc next)
    (second : WindsDown next last) : WindsDown acc last where
  nextConnection := first.nextConnection.trans second.nextConnection
  nextNode := first.nextNode.trans second.nextNode
  names node member := by
    rcases second.names node member with before | new
    · exact first.names node before
    · exact .inr (first.nextNode.trans new)
  open_before bound small node holds := by
    rcases second.open_before bound (small.trans first.nextConnection) node holds with
      before | ⟨overtaken, old, known, before⟩
    · rcases first.open_before bound small node before with held | ⟨overtaken, old, known, held⟩
      · exact .inl held
      · exact .inr ⟨overtaken.later wellFormed first.nextNode second, old, known, held⟩
    · rcases first.open_before bound small _ before with held | ⟨gone, older, olderKnown, held⟩
      · refine .inr ⟨fun name nameKnown later => ?_, old, held.known, held⟩
        rcases second.names name later with between | new
        · exact overtaken name between later
        · exact absurd (wellFormed.nodeNames_lt name nameKnown)
            (first.nextNode.trans new).not_gt
      · exact .inr ⟨gone.later wellFormed first.nextNode second, older, olderKnown, held⟩

theorem Lingers.then_subsides (lingers : Lingers acc next) (wellFormed : acc.cc.WellFormed)
    (subsides : Subsides next last) : Subsides acc last := by
  refine ⟨lingers.winds.trans wellFormed subsides.winds,
    subsides.sends.opened.trans lingers.nextConnection, fun ac member => ?_⟩
  obtain ⟨middle, middleMember, middleId, later⟩ := subsides.sends.connections ac member
  obtain ⟨before, beforeMember, id, earlier⟩ := lingers.connections middle middleMember
  exact ⟨before, beforeMember, id.trans middleId, later.trans earlier.submitted⟩

/-! ## Changes -/

/-- The nodes stay as they are, but for their connections. -/
theorem WindsDown.of_owners (nextConnection : acc.nextConnection ≤ next.nextConnection)
    (nextNode : next.cc.nextNode = acc.cc.nextNode)
    (names : next.cc.nodeNames = acc.cc.nodeNames)
    (holds_before : ∀ bound ≤ acc.nextConnection, ∀ node, HoldsOpen next bound node →
      HoldsOpen acc bound node) : WindsDown acc next where
  nextConnection := nextConnection
  nextNode := nextNode.ge
  names _ member := .inl (names ▸ member)
  open_before bound small node holds := .inl (holds_before bound small node holds)

theorem mem_owners_setAcon {target node : Addressee} {acon : Option Nat} {c : Nat}
    (owned : ⟨node, some c⟩ ∈ owners (acc.setAcon target acon).cc.nodes) :
    acon = some c ∨ ⟨node, some c⟩ ∈ owners acc.cc.nodes := by
  unfold setAcon at owned
  rw [owners_changeAcons] at owned
  obtain ⟨owner, member, same⟩ := List.mem_map.mp owned
  obtain ⟨rfl, changed⟩ := Owner.mk.inj same
  unfold assignAcon at changed
  split at changed
  · exact .inl changed
  · exact .inr (changed ▸ member)

theorem windsDown_append {c : Nat} {ac appended : Connection} {fn : Option ClusterFn}
    {data : ClusterData} {cmd : Bytes} (found : acc.connection c = .ok ac)
    (accepted : ac.append fn data cmd = (.ok, appended)) :
    WindsDown acc (acc.putConnection appended) := by
  refine .of_owners le_rfl rfl rfl ?_
  rintro bound _ node ⟨other, member, owned, small, opened⟩
  rcases mem_putConnection member with rfl | ⟨inside, _⟩
  · obtain ⟨context, registered, rfl⟩ := append_cases accepted
    have flags := sameFlags_valkeyAsyncAppendCmdLen ac.state.2 fn data cmd
    rw [registered] at flags
    refine ⟨ac, (found_connection found).1, owned, small, fun closed => opened ?_⟩
    unfold ValkeyAsyncContext.Closed at closed ⊢
    rw [flags.disconnecting, flags.freeing]
    exact closed
  · exact ⟨other, inside, owned, small, opened⟩

theorem windsDown_change (change : Change acc next) : WindsDown acc next := by
  cases change with
  | quiet calm err ticks draws =>
      refine .of_owners le_rfl calm.names.nextNode calm.names.nodeNames ?_
      rintro bound _ node ⟨ac, member, owned, rest⟩
      exact ⟨ac, member, calm.owners ▸ owned, rest⟩
  | number connections records => exact .of_owners connections rfl rfl fun _ _ _ holds => holds
  | stamp idle time => exact .of_owners le_rfl rfl rfl fun _ _ _ holds => holds
  | @route slot node cc known updated =>
      obtain ⟨nodes, nextNode⟩ := updateSlot_fields updated
      have names : cc.nodeNames = acc.cc.nodeNames := congrArg (List.map ValkeyClusterNode.id) nodes
      refine .of_owners le_rfl nextNode names ?_
      rintro bound _ node ⟨ac, member, owned, rest⟩
      exact ⟨ac, member, nodes ▸ owned, rest⟩
  | @addNode redirect unknown =>
      refine ⟨le_rfl, Nat.le_succ _, fun node member => ?_, ?_⟩
      · rw [ValkeyClusterContext.nodeNames, ValkeyClusterContext.addNode, List.map_append] at member
        rcases List.mem_append.mp member with old | new
        · exact .inl old
        · exact .inr (List.mem_singleton.mp new).ge
      · rintro bound _ node ⟨ac, member, owned, rest⟩
        rw [ValkeyClusterContext.addNode, owners, List.flatMap_append] at owned
        rcases List.mem_append.mp owned with old | new
        · exact .inl ⟨ac, member, old, rest⟩
        · simp [ownersOf, redirectNode] at new
  | @connect node host single =>
      refine .of_owners (Nat.le_succ _) rfl (sameNames_setAcon _ _).nodeNames ?_
      rintro bound small other ⟨ac, member, owned, lower, opened⟩
      have earlier : ac.id < acc.nextConnection := lower.trans_le small
      rcases List.mem_append.mp member with old | new
      · rcases mem_owners_setAcon owned with same | before
        · exact absurd (Option.some.inj same) earlier.ne'
        · exact ⟨ac, old, before, lower, opened⟩
      · rw [List.mem_singleton.mp new, openedConnection_id] at earlier
        exact absurd earlier (lt_irrefl _)
  | asking found accepted => exact windsDown_append found accepted
  | update useClusterNodes idle found accepted =>
      obtain ⟨nextConnection, nextNode, names, open_before⟩ := windsDown_append found accepted
      exact ⟨nextConnection, nextNode, names, open_before⟩

theorem windsDown_works (bonded : Bonded acc) (works : Works acc next) : WindsDown acc next := by
  induction works with
  | refl => exact (Lingers.refl acc).winds
  | tail _ change induction => exact induction.trans bonded.wellFormed (windsDown_change change)

/-! ## Functions of a client that disconnects -/

theorem updateSlotMapAsync_disconnecting (disconnecting : acc.disconnecting = true)
    (ac : Option Nat) : updateSlotMapAsync world acc ac = .ok (.err, acc) := by
  unfold updateSlotMapAsync
  split
  · rfl
  · rfl

theorem lingers_throttledUpdate (disconnecting : acc.disconnecting = true) (ac : Option Nat) :
    Ensures (throttledUpdateSlotMapAsync world acc ac) (fun _ => True) (Lingers acc) := by
  unfold throttledUpdateSlotMapAsync
  split
  · exact .refl acc
  · have ticked : acc.tick.disconnecting = true := disconnecting
    have lingers : Lingers acc acc.tick := .of_fields rfl rfl rfl rfl
    split
    · rw [updateSlotMapAsync_disconnecting ticked]
      exact lingers
    · exact lingers

theorem lingers_setError (error : Option ContextError) : Lingers acc (acc.setError error) := by
  cases error with
  | none => exact .of_fields rfl rfl rfl rfl
  | some error => exact .of_fields rfl rfl rfl rfl

theorem passive_disconnect {ac closed : Connection} (close : ac.disconnect world = .ok closed) :
    closed.link = ac.link ∧ Passive ac.state.2 closed.state.2 ∧ closed.state.2.Closed := by
  obtain ⟨state, disconnected, rfl⟩ := disconnect_cases close
  exact ⟨rfl, (disconnect_closes world.order ac.state.1).of_ok disconnected⟩

theorem lingers_selectReply (c : Nat) (reply : Option ReplyTree) :
    Ensures (selectReplyCallback world acc c reply) (fun _ => True) (Lingers acc) := by
  unfold selectReplyCallback
  split
  · apply ((ensures_connection c).allow fun _ _ => trivial).bind
    intro ac found
    apply ((ensures_disconnect ac).allow fun _ _ => trivial).bind
    intro closed close
    obtain ⟨link, passive, _⟩ := passive_disconnect close
    have put := Lingers.put found (congrArg Prod.fst link) passive
    exact put.trans (.of_fields rfl rfl rfl rfl)
  · exact .refl acc

/-- New nodes take the connections of the old primaries. -/
theorem subsides_install (wellFormed : acc.cc.WellFormed) (table : List (Option Nat))
    {nodes : List (ValkeyClusterNode ValkeyContext)} (new : NewNodes acc.cc.nextNode nodes) :
    Subsides acc (installNodes world acc table nodes) := by
  have names : (installNodes world acc table nodes).cc.nodeNames =
      List.range' acc.cc.nextNode nodes.length :=
    ValkeyClusterContext.names_swap.1.trans new.names
  have connection (ac : Connection)
      (member : ac ∈ (installNodes world acc table nodes).connections) :
      ∃ before ∈ acc.connections, before.id = ac.id ∧ before.state = ac.state := by
    obtain ⟨before, inside, rfl⟩ := List.mem_map.mp member
    obtain ⟨state, id⟩ := relink_state (acc.cc.replaceNodes table nodes).nodes before
    exact ⟨before, inside, id.symm, state.symm⟩
  constructor
  · refine ⟨le_rfl, Nat.le_add_right _ _, fun node member => ?_, ?_⟩
    · rw [names] at member
      exact .inr (List.mem_range'_1.mp member).1
    · rintro bound _ node ⟨ac, member, owned, small, opened⟩
      obtain ⟨before, inside, id, state⟩ := connection ac member
      obtain ⟨taken, takenMember, own⟩ := List.mem_flatMap.mp owned
      obtain ⟨_, acon⟩ := (mem_ownersOf_some (replica_acon new.unconnected takenMember)).mp own
      obtain ⟨old, oldMember, _, held⟩ := holder_taken new.unconnected takenMember acon
      refine .inr ⟨fun name known later => ?_, old.id, List.mem_map_of_mem oldMember, ?_⟩
      · rw [names] at later
        exact absurd (wellFormed.nodeNames_lt name known) (List.mem_range'_1.mp later).1.not_gt
      · refine ⟨before, inside, ?_, id ▸ small, state ▸ opened⟩
        rw [id]
        exact List.mem_flatMap.mpr ⟨old, oldMember, primary_mem_ownersOf held⟩
  · refine ⟨rfl, fun ac member => ?_⟩
    obtain ⟨before, inside, id, state⟩ := connection ac member
    exact ⟨before, inside, id, by rw [state]⟩

theorem subsides_routeReply (wellFormed : acc.cc.WellFormed)
    (disconnecting : acc.disconnecting = true)
    {parse : Bytes → Nat → ReplyTree → Except String (List (ValkeyClusterNode ValkeyContext))}
    (parses : ∀ host base reply, Parses (parse host base reply) (NewNodes base)) (c : Nat)
    (reply : Option ReplyTree) :
    Ensures (routeReplyCallback world parse acc c reply) (fun _ => True) fun result =>
      Subsides acc result.2 := by
  have stamped : Lingers acc (acc.stampUpdate world) := .of_fields rfl rfl rfl rfl
  have failed (message : String) : Lingers acc
      ((acc.stampUpdate world).ccSetError .other (ascii message)) := .of_fields rfl rfl rfl rfl
  have updates {before : ValkeyClusterAsyncContext Fn Data} (lingers : Lingers acc before)
      (still : before.disconnecting = true) :
      Ensures (updateSlotMapAsync world before none >>= fun result =>
          (.ok (.returns, result.2) :
            Except ClusterFault (Action Fn Data × ValkeyClusterAsyncContext Fn Data)))
        (fun _ => True) fun result => Subsides acc result.2 := by
    rw [updateSlotMapAsync_disconnecting still]
    exact lingers.subsides
  unfold routeReplyCallback
  cases reply with
  | none => exact updates stamped disconnecting
  | some reply =>
      apply ((ensures_connection c).allow fun _ _ => trivial).bind
      intro ac _
      dsimp only
      split
      · exact updates (failed _) disconnecting
      rename_i nodes parsed
      split
      · exact updates (failed _) disconnecting
      rename_i table _
      have new : NewNodes (acc.stampUpdate world).cc.nextNode nodes :=
        (parses ac.host acc.cc.nextNode reply).of_ok parsed
      have installed := @subsides_install Fn Data world (acc.stampUpdate world) wellFormed
        table nodes new
      exact stamped.then_subsides wellFormed installed

theorem lingers_asyncCallback (disconnecting : acc.disconnecting = true) (c : Nat)
    (cad : ClusterAsyncData Fn Data) (reply : Option ReplyTree) :
    Ensures (valkeyClusterAsyncCallback world acc c cad reply) (fun _ => True) fun result =>
      Lingers acc result.2 := by
  unfold valkeyClusterAsyncCallback
  split
  · apply ((ensures_connection c).allow fun _ _ => trivial).bind
    intro ac _
    dsimp only
    have copied := @lingers_setError Fn Data acc ac.state.2.err
    split
    · exact copied
    · have still : (acc.setError ac.state.2.err).disconnecting = true := by
        rw [← disconnecting]
        cases ac.state.2.err <;> rfl
      apply (lingers_throttledUpdate still none).bind
      exact fun later lingers => copied.trans lingers
  · split
    · exact .refl acc
    · dsimp only
      rw [if_pos (.inl disconnecting)]
      exact .refl acc

/-! ## Steps of a client that disconnects -/

/-- A step opens nothing and sends nothing, and leaves a part of the stack as it is. -/
structure Retains (stack : List Activity) (acc : ValkeyClusterAsyncContext Fn Data)
    (final : ClusterAsyncState Fn Data) : Prop where
  below : stack <:+ final.1
  subsides : Subsides acc final.2

theorem Lingers.retains (lingers : Lingers acc next) {frames : List Activity}
    (below : stack <:+ frames) : Retains stack acc (frames, next) :=
  ⟨below, lingers.subsides⟩

theorem retains_act {result : Action Fn Data × ValkeyClusterAsyncContext Fn Data}
    (subsides : Subsides acc result.2) :
    Ensures (act stack result) (fun _ => True) (Retains stack acc) := by
  obtain ⟨action, next⟩ := result
  cases action with
  | returns => exact ⟨List.suffix_rfl, subsides⟩
  | releases count => exact ⟨List.suffix_cons _ _, subsides⟩
  | calls cad reply =>
      unfold act callUser
      dsimp only
      split
      · trivial
      · obtain ⟨⟨nextConnection, nextNode, names, open_before⟩, opened, connections⟩ := subsides
        exact ⟨List.suffix_cons _ _, ⟨nextConnection, nextNode, names, open_before⟩, opened,
          connections⟩

theorem retains_callFn (wellFormed : acc.cc.WellFormed) (disconnecting : acc.disconnecting = true)
    (c : Nat) (fn : ClusterFn) (data : ClusterData) (reply : Option ReplyTree) :
    Ensures (callFn world stack acc c fn data reply) (fun _ => True) (Retains stack acc) := by
  unfold callFn
  split
  · trivial
  split
  · apply (lingers_selectReply c reply).bind
    exact fun next lingers => lingers.retains List.suffix_rfl
  · apply (subsides_routeReply wellFormed disconnecting
      (fun host _ given => parses_cluster_slots acc.cc.addReplicas host given) c reply).bind
    exact fun _ subsides => retains_act subsides
  · apply (subsides_routeReply wellFormed disconnecting
      (fun host _ given => parses_cluster_nodes acc.cc.addReplicas host given) c reply).bind
    exact fun _ subsides => retains_act subsides
  · split
    · trivial
    · apply (lingers_asyncCallback disconnecting c _ reply).bind
      exact fun result lingers => retains_act lingers.subsides
  · trivial

theorem subsides_removed {ac : Connection} (removed : acc.removeConnection ac = .ok next) :
    Subsides acc next := by
  have left {node : Option Addressee} {before : ValkeyClusterAsyncContext Fn Data}
      (unlinked : acc.unlink node = .ok before) : WindsDown acc
        { before with connections := before.connections.filter (·.id != ac.id) } ∧
          before.connections = acc.connections ∧ before.nextConnection = acc.nextConnection := by
    unfold unlink at unlinked
    split at unlinked
    · cases unlinked
      refine ⟨.of_owners le_rfl rfl rfl ?_, rfl, rfl⟩
      rintro bound _ holder ⟨other, member, rest⟩
      exact ⟨other, List.mem_of_mem_filter member, rest⟩
    · split at unlinked
      · cases unlinked
        refine ⟨.of_owners le_rfl rfl (sameNames_setAcon _ _).nodeNames ?_, rfl, rfl⟩
        rintro bound _ holder ⟨other, member, owned, rest⟩
        rcases mem_owners_setAcon owned with impossible | before
        · cases impossible
        · exact ⟨other, List.mem_of_mem_filter member, before, rest⟩
      · cases unlinked
  unfold removeConnection at removed
  cases unlinked : acc.unlink ac.data with
  | error fault =>
      rw [unlinked] at removed
      cases removed
  | ok before =>
      rw [unlinked] at removed
      cases removed
      obtain ⟨winds, connections, nextConnection⟩ := left unlinked
      refine ⟨winds, nextConnection, fun other member => ?_⟩
      exact ⟨other, connections ▸ List.mem_of_mem_filter member, rfl, rfl⟩

/-- What the new state of a connection leads to. -/
theorem retains_settle (wellFormed : acc.cc.WellFormed) (disconnecting : acc.disconnecting = true)
    {c : Nat} {ac changed : Connection} (found : acc.connection c = .ok ac)
    (same : changed.id = ac.id) (passive : Passive ac.state.2 changed.state.2) :
    Ensures (settle world stack acc changed) (fun _ => True) (Retains stack acc) := by
  have put := Lingers.put found same passive
  unfold settle
  split
  · exact put.retains List.suffix_rfl
  · unfold callBody
    split
    all_goals first
      | exact put.retains ((List.suffix_cons _ _).trans (List.suffix_cons _ _))
      | split
        · have called := @retains_callFn Fn Data world (.connection changed.id :: stack)
            (acc.putConnection changed) wellFormed disconnecting
          refine (called changed.id _ _ _).mono fun final retains => ?_
          exact ⟨(List.suffix_cons _ _).trans retains.below,
            put.then_subsides wellFormed retains.subsides⟩
        · trivial
  · have removed : Ensures (acc.removeConnection changed) (fun _ => True) fun _ => True := by
      apply ((ensures_unlink changed.data).allow fun _ _ => trivial).bind
      exact fun _ _ => trivial
    apply removed.computed.bind
    exact fun next computed => ⟨List.suffix_rfl, subsides_removed computed.1⟩
  · exact put.retains (List.suffix_cons _ _)

theorem retains_drive (wellFormed : acc.cc.WellFormed) (disconnecting : acc.disconnecting = true)
    {c : Nat} {ac : Connection} (found : acc.connection c = .ok ac)
    {event : AsyncEvent ClusterFn ClusterData}
    (library : ∀ fn data cmd, event ≠ .command fn data cmd) :
    Ensures (drive world stack acc ac event) (fun _ => True) (Retains stack acc) := by
  apply ((ensures_ofConnection _).allow fun _ _ => trivial).bind
  intro state driven
  have passive := (keepsPassive_asyncStep world.order ac.state library).of_ok driven
  exact retains_settle wellFormed disconnecting found rfl passive

theorem retains_handled {frames : List Activity} {c : Nat} {ac changed : Connection}
    (found : acc.connection c = .ok ac) (same : changed.id = ac.id)
    (passive : Passive ac.state.2 changed.state.2) (below : stack <:+ frames) :
    Retains stack acc (handled frames acc changed) := by
  have put := Lingers.put found same passive
  unfold handled
  split
  · exact put.retains (below.trans (List.suffix_cons _ _))
  · exact put.retains below

theorem retains_closeConnection (c : Nat) {close : Connection → Except ClusterFault Connection}
    (closes : ∀ ac, Ensures (close ac) (fun _ => True) fun closed =>
      ac.disconnect world = .ok closed ∨ closed = ac.free world) :
    Ensures (closeConnection stack acc c close) (fun _ => True) (Retains stack acc) := by
  apply ((ensures_connection c).allow fun _ _ => trivial).bind
  intro ac found
  apply (closes ac).bind
  rintro closed (disconnected | rfl)
  · obtain ⟨link, passive, _⟩ := passive_disconnect disconnected
    exact retains_handled found (congrArg Prod.fst link) passive List.suffix_rfl
  · exact retains_handled found rfl (free_closes world.order ac.state.1).1 List.suffix_rfl

theorem ensures_disconnects (ac : Connection) :
    Ensures (ac.disconnect world) (fun _ => True) fun closed =>
      ac.disconnect world = .ok closed ∨ closed = ac.free world :=
  ((ensures_disconnect ac).allow fun _ _ => trivial).mono fun _ => .inl

theorem retains_freeNode :
    Ensures (freeValkeyClusterNode world stack acc) (fun _ => True) (Retains stack acc) := by
  unfold freeValkeyClusterNode
  split
  · exact (Lingers.refl acc).retains List.suffix_rfl
  · have dropped (rest : List Owner) : Lingers acc { acc with retired := rest } :=
      .of_fields rfl rfl rfl rfl
    exact (dropped _).retains List.suffix_rfl
  · apply ((ensures_connection _).allow fun _ _ => trivial).bind
    intro ac found
    obtain ⟨below, subsides⟩ := @retains_handled Fn Data stack acc stack _ ac
      (Connection.free world { ac with data := none }) found rfl
      (free_closes world.order ac.state.1).1 List.suffix_rfl
    unfold handled at below subsides ⊢
    obtain ⟨⟨nextConnection, nextNode, names, open_before⟩, opened, connections⟩ := subsides
    exact ⟨below, ⟨nextConnection, nextNode, names, open_before⟩, opened, connections⟩

theorem retains_disconnectNode (node : Nat) :
    Ensures (disconnectNode world stack acc node) (fun _ => True) (Retains stack acc) := by
  apply ((ensures_asyncNode _).allow fun _ _ => trivial).bind
  rintro ⟨host, port, acon⟩ _
  cases acon with
  | none => exact (Lingers.refl acc).retains List.suffix_rfl
  | some c => exact retains_closeConnection c ensures_disconnects

theorem retains_freeClient :
    Ensures (valkeyClusterFree world stack acc) (fun _ => True) (Retains stack acc) := by
  unfold valkeyClusterFree
  split
  · trivial
  · refine ⟨List.suffix_cons _ _, ⟨le_rfl, le_rfl, nofun, ?_⟩, rfl, fun ac member => ?_⟩
    · rintro bound _ node ⟨ac, _, impossible, _⟩
      cases impossible
    · exact ⟨ac, member, rfl, rfl⟩

/-- The event does not ask for a connection. -/
def ClusterEvent.Connectless (event : ClusterEvent Fn Data) : Prop :=
  ∀ node, event ≠ .connect node

/-- A step winds the client down, and only the user opens connections. -/
structure Resigns (event : ClusterEvent Fn Data) (stack : List Activity)
    (acc : ValkeyClusterAsyncContext Fn Data) (final : ClusterAsyncState Fn Data) : Prop where
  below : stack <:+ final.1
  winds : WindsDown acc final.2
  sends : event.Connectless → SendsNothing acc final.2

theorem Retains.resigns {final : ClusterAsyncState Fn Data} (retains : Retains stack acc final)
    (event : ClusterEvent Fn Data) : Resigns event stack acc final :=
  ⟨retains.below, retains.subsides.winds, fun _ => retains.subsides.sends⟩

theorem Resigns.mono {event : ClusterEvent Fn Data} {less : List Activity}
    {final : ClusterAsyncState Fn Data} (resigns : Resigns event stack acc final)
    (below : less <:+ stack) : Resigns event less acc final :=
  ⟨below.trans resigns.below, resigns.winds, resigns.sends⟩

theorem resigns_userCall (bonded : Bonded acc) (disconnecting : acc.disconnecting = true)
    (event : ClusterEvent Fn Data) :
    Ensures (userCall world stack acc event) (fun _ => True) (Resigns event stack acc) := by
  have ignored : Resigns event stack acc (stack, acc) :=
    ((Lingers.refl acc).retains List.suffix_rfl).resigns event
  have refused : Resigns event stack acc (stack, acc.setError (some disconnectingError)) :=
    ((lingers_setError _).retains List.suffix_rfl).resigns event
  cases event with
  | command fn privdata cmd =>
      unfold userCall valkeyClusterAsyncFormattedCommand
      dsimp only
      split
      · trivial
      · exact refused
  | commandToNode node fn privdata cmd =>
      unfold userCall valkeyClusterAsyncFormattedCommandToNode
      dsimp only
      split
      · trivial
      · exact refused
  | connect node =>
      unfold userCall
      dsimp only
      split
      · trivial
      · apply ((ensures_getContext node).allow fun _ _ => trivial).bind
        intro result aside
        exact ⟨List.suffix_rfl, windsDown_works bonded aside.works, fun other =>
          absurd rfl (other node)⟩
  | disconnect =>
      unfold userCall valkeyClusterAsyncDisconnect
      dsimp only
      split
      · trivial
      · have marked : Lingers acc { acc with disconnecting := true } := .of_fields rfl rfl rfl rfl
        exact (marked.retains (List.suffix_cons _ _)).resigns _
  | free =>
      unfold userCall valkeyClusterAsyncFree
      dsimp only
      split
      · trivial
      have marked : Lingers acc { acc with disconnecting := true } := .of_fields rfl rfl rfl rfl
      split
      · exact (marked.retains (List.suffix_cons _ _)).resigns _
      · refine (@retains_freeClient Fn Data world stack { acc with disconnecting := true }).mono ?_
        intro final retains
        have all : Retains stack acc final :=
          ⟨retains.below, marked.then_subsides bonded.wellFormed retains.subsides⟩
        exact all.resigns _
  | disconnectConnection c =>
      exact (retains_closeConnection c ensures_disconnects).mono fun _ retains => retains.resigns _
  | freeConnection c =>
      have freed (ac : Connection) : Ensures (.ok (ac.free world) : Except ClusterFault Connection)
          (fun _ => True) fun closed => ac.disconnect world = .ok closed ∨ closed = ac.free world :=
        .inr rfl
      exact (retains_closeConnection c freed).mono fun _ retains => retains.resigns _
  | returns => exact ignored
  | readable c outcome input => exact ignored
  | writable c outcome output => exact ignored
  | timer c => exact ignored
  | proceed => exact ignored

theorem retains_afterUser (after : After) :
    Ensures (afterUser world stack acc after) (fun _ => True) (Retains stack acc) := by
  cases after with
  | returns => exact (Lingers.refl acc).retains List.suffix_rfl
  | finishes cad =>
      unfold afterUser
      dsimp only
      split
      · trivial
      · have finished : Lingers acc (acc.clearError.freeRecord cad) := .of_fields rfl rfl rfl rfl
        exact finished.retains List.suffix_rfl
  | frees => exact retains_freeClient

theorem retains_finishRelease (last : Bool) :
    Ensures (finishRelease stack acc last) (fun _ => True) (Retains stack acc) := by
  have freed : Lingers acc { acc with life := .freed } := .of_fields rfl rfl rfl rfl
  unfold finishRelease
  split
  · trivial
  split
  · exact freed.retains List.suffix_rfl
  split
  · exact (Lingers.refl acc).retains (List.suffix_cons _ _)
  · exact (Lingers.refl acc).retains List.suffix_rfl

theorem retains_proceed (wellFormed : acc.cc.WellFormed)
    (disconnecting : acc.disconnecting = true) :
    Ensures (proceed world acc stack) (fun _ => True) (Retains stack.tail acc) := by
  have mono {frames : List Activity} {final : ClusterAsyncState Fn Data} (frame : Activity)
      (retains : Retains (frame :: frames) acc final) : Retains frames acc final :=
    ⟨(List.suffix_cons _ _).trans retains.below, retains.subsides⟩
  unfold proceed
  split
  · apply ((ensures_connection _).allow fun _ _ => trivial).bind
    exact fun ac found => retains_drive wellFormed disconnecting found nofun
  · exact retains_finishRelease _
  · exact retains_freeNode.mono fun _ => mono _
  · exact (Lingers.refl acc).retains List.suffix_rfl
  · exact (retains_disconnectNode _).mono fun _ => mono _
  · exact (Lingers.refl acc).retains (List.tail_suffix _)

/-- A step of a client that disconnects. -/
theorem resigns_clusterStep (bonded : Bonded acc) (disconnecting : acc.disconnecting = true)
    (event : ClusterEvent Fn Data) :
    Ensures (clusterStep world (stack, acc) event) (fun _ => True)
      (Resigns event stack.tail acc) := by
  have socket (c : Nat) {handled : AsyncEvent ClusterFn ClusterData}
      (event : ClusterEvent Fn Data)
      (library : ∀ fn data cmd, handled ≠ .command fn data cmd) :
      Ensures (socketEvent world acc c handled) (fun _ => True) (Resigns event [] acc) := by
    apply ((ensures_connection c).allow fun _ _ => trivial).bind
    intro ac found
    exact (retains_drive bonded.wellFormed disconnecting found library).mono
      fun _ retains => retains.resigns _
  have ignored (event : ClusterEvent Fn Data) (frames : List Activity) :
      Resigns event frames.tail acc (frames, acc) :=
    ((Lingers.refl acc).retains (List.tail_suffix _)).resigns _
  unfold clusterStep
  dsimp only
  split
  · exact (retains_proceed bonded.wellFormed disconnecting).mono fun _ retains => retains.resigns _
  · exact (retains_afterUser _).mono fun _ retains => retains.resigns _
  · exact ignored _ _
  · exact socket _ _ nofun
  · exact socket _ _ nofun
  · exact socket _ _ nofun
  · exact resigns_userCall bonded disconnecting event
  · exact (resigns_userCall bonded disconnecting event).mono
      fun _ resigns => resigns.mono (List.suffix_cons _ _)
  · exact ignored _ _

/-! ## The loop over the primaries -/

/-- The open connections are those of the primaries that the loop has not reached, or one of
these is not a node of the client any more. -/
def Reaches (bound : Nat) (rest : List Nat) (acc : ValkeyClusterAsyncContext Fn Data) : Prop :=
  (∃ node ∈ rest, node ∉ acc.cc.nodeNames) ∨
    ∀ node, HoldsOpen acc bound node → ∃ name ∈ rest, node = .primary name

/-- The loop of a call goes on above a stack, or it has closed everything from before. -/
structure Closing (base : List Activity) (bound : Nat) (state : ClusterAsyncState Fn Data) :
    Prop where
  small : bound ≤ state.2.nextConnection
  progress : (∃ rest, .disconnect rest :: base <:+ state.1 ∧
      (∀ node ∈ rest, node < state.2.cc.nextNode) ∧ Reaches bound rest state.2) ∨
    ∀ node, ¬HoldsOpen state.2 bound node

theorem WindsDown.closed (winds : WindsDown acc next) {bound : Nat}
    (small : bound ≤ acc.nextConnection) (closed : ∀ node, ¬HoldsOpen acc bound node)
    (node : Addressee) : ¬HoldsOpen next bound node := by
  intro holds
  rcases winds.open_before bound small node holds with before | ⟨_, old, _, before⟩
  · exact closed node before
  · exact closed _ before

theorem Reaches.later {bound : Nat} {rest : List Nat} (reaches : Reaches bound rest acc)
    (winds : WindsDown acc next) (small : bound ≤ acc.nextConnection)
    (given : ∀ node ∈ rest, node < acc.cc.nextNode) : Reaches bound rest next := by
  by_cases missing : ∃ node ∈ rest, node ∉ next.cc.nodeNames
  · exact .inl missing
  rcases reaches with ⟨node, member, unknown⟩ | awaits
  · refine absurd ⟨node, member, fun later => ?_⟩ missing
    rcases winds.names node later with before | new
    · exact unknown before
    · exact absurd (given node member) new.not_gt
  · refine .inr fun node holds => ?_
    rcases winds.open_before bound small node holds with before | ⟨overtaken, old, known, before⟩
    · exact awaits node before
    · obtain ⟨name, member, same⟩ := awaits _ before
      obtain rfl := Addressee.primary.inj same
      exact absurd ⟨old, member, overtaken old known⟩ missing

/-- One turn closes the connection of its node. -/
theorem reaches_disconnectNode (bonded : Bonded acc) {bound : Nat} {node : Nat} {rest : List Nat}
    (reaches : Reaches bound (node :: rest) acc) :
    Ensures (disconnectNode world stack acc node) (fun _ => True) fun final =>
      Reaches bound rest final.2 := by
  have names := nodup_owners bonded.wellFormed.nodeNames_nodup
  have left (next : ValkeyClusterAsyncContext Fn Data) (same : next.cc.nodes = acc.cc.nodes)
      (known : node ∈ acc.cc.nodeNames)
      (before : ∀ holder, HoldsOpen next bound holder →
        HoldsOpen acc bound holder ∧ holder ≠ .primary node) : Reaches bound rest next := by
    rcases reaches with ⟨missing, member, unknown⟩ | awaits
    · rcases List.mem_cons.mp member with rfl | later
      · exact absurd known unknown
      · refine .inl ⟨missing, later, ?_⟩
        unfold ValkeyClusterContext.nodeNames
        rw [same]
        exact unknown
    · refine .inr fun holder holds => ?_
      obtain ⟨held, other⟩ := before holder holds
      obtain ⟨name, member, rfl⟩ := awaits holder held
      rcases List.mem_cons.mp member with rfl | later
      · exact absurd rfl other
      · exact ⟨name, later, rfl⟩
  apply ((ensures_asyncNode _).allow fun _ _ => trivial).bind
  rintro ⟨host, port, acon⟩ owner
  have known : node ∈ acc.cc.nodeNames := id_owners owner
  have only {c : Nat} (owned : ⟨.primary node, some c⟩ ∈ owners acc.cc.nodes) : acon = some c := by
    have same : (⟨.primary node, acon⟩ : Owner) = ⟨.primary node, some c⟩ :=
      List.inj_on_of_nodup_map names owner owned rfl
    exact (Owner.mk.inj same).2
  cases acon with
  | none =>
      refine left acc rfl known fun holder holds => ⟨holds, ?_⟩
      rintro rfl
      obtain ⟨ac, _, owned, _⟩ := holds
      cases only owned
  | some c =>
      apply ((ensures_connection c).allow fun _ _ => trivial).bind
      intro ac found
      apply ((ensures_disconnect ac).allow fun _ _ => trivial).bind
      intro closed close
      obtain ⟨link, passive, done⟩ := passive_disconnect close
      have same : closed.id = ac.id := congrArg Prod.fst link
      obtain ⟨member, rfl⟩ := found_connection found
      refine left _ rfl known fun holder holds =>
        ⟨(Lingers.put found same passive).holdsOpen holds, ?_⟩
      rintro rfl
      obtain ⟨other, otherMember, owned, _, opened⟩ := holds
      rcases mem_putConnection otherMember with rfl | ⟨_, different⟩
      · exact opened done
      · exact different ((Option.some.inj (only owned)).symm.trans same.symm)

theorem Closing.step {base : List Activity} {bound : Nat} {event : ClusterEvent Fn Data}
    {state final : ClusterAsyncState Fn Data} (closing : Closing base bound state)
    (bonded : Bonded state.2) (disconnecting : state.2.disconnecting = true)
    (taken : clusterStep world state event = .ok final) : Closing base bound final := by
  obtain ⟨stack, acc⟩ := state
  have resigns := (resigns_clusterStep bonded disconnecting event).of_ok taken
  have small := closing.small.trans resigns.winds.nextConnection
  rcases closing.progress with ⟨rest, below, given, reaches⟩ | closed
  swap
  · exact ⟨small, .inr (resigns.winds.closed closing.small closed)⟩
  have stays (above : .disconnect rest :: base <:+ final.1) : Closing base bound final := by
    refine ⟨small, .inl ⟨rest, above, fun node member => ?_, ?_⟩⟩
    · exact (given node member).trans_le resigns.winds.nextNode
    · exact reaches.later resigns.winds closing.small given
  cases stack with
  | nil => exact absurd (List.suffix_nil.mp below) (List.cons_ne_nil _ _)
  | cons frame frames =>
      rcases List.suffix_cons_iff.mp below with top | inside
      swap
      · exact stays (inside.trans resigns.below)
      obtain ⟨rfl, rfl⟩ := List.cons.inj top
      cases event
      case proceed =>
        cases rest with
        | nil =>
            cases taken
            refine ⟨small, .inr fun node holds => ?_⟩
            rcases reaches with ⟨_, impossible, _⟩ | awaits
            · cases impossible
            · obtain ⟨_, impossible, _⟩ := awaits node holds
              cases impossible
        | cons node rest =>
            have retains : Ensures (disconnectNode world (.disconnect rest :: base) acc node)
                (fun _ => True) (Retains (.disconnect rest :: base) acc) :=
              retains_disconnectNode node
            have above := retains.of_ok taken
            have reached := (reaches_disconnectNode bonded reaches).of_ok taken
            refine ⟨small, .inl ⟨rest, above.below, fun name member => ?_, reached⟩⟩
            exact (given name (List.mem_cons_of_mem _ member)).trans_le resigns.winds.nextNode
      all_goals
        cases taken
        exact stays List.suffix_rfl

/-! ## Runs -/

/-- A client that disconnects, with what has been said of its nodes. -/
structure Parting (claim : ClusterAsyncState Fn Data → Prop) (state : ClusterAsyncState Fn Data) :
    Prop where
  bonded : Bonded state.2
  disconnecting : state.2.disconnecting = true
  claim : claim state

theorem Parting.run {claim : ClusterAsyncState Fn Data → Prop}
    (preserves : ∀ state event final, Bonded state.2 → state.2.disconnecting = true → claim state →
      clusterStep world state event = .ok final → claim final)
    {events : List (ClusterEvent Fn Data)} {state final : ClusterAsyncState Fn Data}
    (parting : Parting claim state) (reached : clusterRun world state events = .ok final) :
    Parting claim final := by
  refine Runs.run_invariant (clusterStep world) ?_ parting reached
  rintro state event next ⟨bonded, disconnecting, holds⟩ taken
  have turn := (ensures_clusterStep state event).of_ok taken
  exact ⟨bonded.turn turn, disconnecting_turn turn disconnecting,
    preserves state event next bonded disconnecting holds taken⟩

/-- The loop of the call has returned when its stack is the one on top. -/
theorem Closing.returned {base : List Activity} {bound : Nat}
    (closing : Closing base bound (base, acc)) (node : Addressee) : ¬HoldsOpen acc bound node := by
  rcases closing.progress with ⟨rest, below, _⟩ | closed
  · exact absurd below.length_le (Nat.not_succ_le_self _)
  · exact closed node

/-- No replica has a connection that is neither to be disconnected nor to be freed. -/
def ReplicasClosed (acc : ValkeyClusterAsyncContext Fn Data) : Prop :=
  ∀ node index, ¬HoldsOpen acc acc.nextConnection (.replica node index)

theorem replicasClosed_of_acons
    (unconnected : ∀ node ∈ acc.cc.nodes, ∀ replica ∈ node.replicas, replica.acon = none) :
    ReplicasClosed acc := by
  rintro node index ⟨ac, _, owned, _⟩
  obtain ⟨primary, member, own⟩ := List.mem_flatMap.mp owned
  cases ((mem_ownersOf_some (unconnected primary member)).mp own).1

theorem Closing.start (bonded : Bonded acc) (covered : ReplicasClosed acc)
    {called : ClusterAsyncState Fn Data}
    (calls : valkeyClusterAsyncDisconnect world stack acc = .ok called) :
    Parting (Closing stack acc.nextConnection) called := by
  unfold valkeyClusterAsyncDisconnect at calls
  split at calls
  · cases calls
  cases calls
  refine ⟨bonded.of_same rfl rfl rfl rfl, rfl, le_rfl, .inl ⟨_, List.suffix_rfl, ?_, .inr ?_⟩⟩
  · intro node member
    obtain ⟨known, inside, rfl⟩ := List.mem_map.mp member
    have original := (world.order.perm _).mem_iff.mp inside
    exact bonded.wellFormed.nodeNames_lt _ (List.mem_map_of_mem original)
  · intro node holds
    cases node with
    | primary name =>
        have known : name ∈ acc.cc.nodeNames := holds.known
        exact ⟨name, ((world.order.perm _).map _).mem_iff.mpr known, rfl⟩
    | replica name index => exact absurd holds (covered name index)

/-- When no replica is connected, a call of `valkeyClusterAsyncDisconnect` leaves no node with
an open connection from before it. Afterwards nothing but a call of the user opens one, and
nothing is sent. -/
theorem disconnect_ends_connections (world : World) {acc start : ValkeyClusterAsyncContext Fn Data}
    {blocking : Bool} {before : List (ClusterEvent Fn Data)} {stack : List Activity}
    {client : ValkeyClusterAsyncContext Fn Data} {called : ClusterAsyncState Fn Data}
    (unopened : Unopened acc) (connected : valkeyClusterAsyncConnect world acc blocking = .ok start)
    (reached : clusterRun world ([], start) before = .ok (stack, client))
    (calls : valkeyClusterAsyncDisconnect world stack client = .ok called)
    (covered : ReplicasClosed client) :
    (∀ later state event next, clusterRun world called later = .ok state →
      clusterStep world state event = .ok next → event.Connectless →
        SendsNothing state.2 next.2) ∧
    ∀ during returned later state, clusterRun world called during = .ok (stack, returned) →
      clusterRun world (stack, returned) later = .ok state →
        ∀ node, ¬HoldsOpen state.2 client.nextConnection node := by
  have bonded := bonded_run (unopened.bonded.start connected) reached
  have starts : Parting (Closing stack client.nextConnection) called :=
    Closing.start bonded covered calls
  have goesOn {events : List (ClusterEvent Fn Data)} {final : ClusterAsyncState Fn Data}
      (ran : clusterRun world called events = .ok final) :
      Parting (Closing stack client.nextConnection) final :=
    starts.run (fun _ _ _ bonded disconnecting closing => closing.step bonded disconnecting) ran
  constructor
  · intro later state event next ran taken connectless
    obtain ⟨bonded, disconnecting, _⟩ := goesOn ran
    exact ((resigns_clusterStep bonded disconnecting event).of_ok taken).sends connectless
  · intro during returned later state ran afterwards
    obtain ⟨bonded, disconnecting, closing⟩ := goesOn ran
    have closed : Parting (fun state => client.nextConnection ≤ state.2.nextConnection ∧
        ∀ node, ¬HoldsOpen state.2 client.nextConnection node) (stack, returned) :=
      ⟨bonded, disconnecting, closing.small, closing.returned⟩
    refine (closed.run ?_ afterwards).claim.2
    rintro state event next bonded disconnecting ⟨small, closed⟩ taken
    have resigns := (resigns_clusterStep bonded disconnecting event).of_ok taken
    exact ⟨small.trans resigns.winds.nextConnection, resigns.winds.closed small closed⟩

end Disconnecting

/-- A client whose first node has a replica. -/
def replicatedClient : ValkeyClusterAsyncContext Nat Nat :=
  { unopenedClient with cc := replicatedNodes }

theorem unopened_replicatedClient : Unopened replicatedClient where
  wellFormed := wellFormed_replicatedNodes
  acons := by decide
  retired := rfl
  connections := rfl

/-- A command to a node. -/
def getFrom (node : Addressee) : ClusterEvent Nat Nat :=
  .commandToNode node (some 1) 7 (valkeyFormatCommandArgv [ascii "GET", ascii "06S"])

/-- The connection of a primary is closed by the call, which has returned after three steps. -/
theorem disconnect_ends_connections_primary :
    ∃ client called returned,
      clusterRun calmWorld ([], replicatedClient) [getFrom (.primary 0)] = .ok ([], client) ∧
      valkeyClusterAsyncDisconnect calmWorld [] client = .ok called ∧
      clusterRun calmWorld called [.proceed, .proceed, .proceed] = .ok ([], returned) ∧
      returned.connections.map Connection.id = [0] ∧
        ∀ node, ¬HoldsOpen returned client.nextConnection node := by
  have connected : valkeyClusterAsyncConnect calmWorld replicatedClient true =
      .ok replicatedClient :=
    rfl
  have reached : clusterRun calmWorld ([], replicatedClient) [getFrom (.primary 0)] = .ok
      ([], _) := rfl
  refine ⟨_, _, _, reached, rfl, rfl, rfl, fun node => ?_⟩
  refine (disconnect_ends_connections calmWorld unopened_replicatedClient connected
    reached rfl ?_).2
    [.proceed, .proceed, .proceed] _ [] _ rfl rfl node
  apply replicasClosed_of_acons
  decide

/-- The connection of a replica is neither disconnected nor freed. -/
theorem disconnect_leaves_replica :
    ∃ client called returned,
      clusterRun calmWorld ([], replicatedClient) [getFrom (.replica 0 0)] = .ok ([], client) ∧
      valkeyClusterAsyncDisconnect calmWorld [] client = .ok called ∧
      clusterRun calmWorld called [.proceed, .proceed, .proceed] = .ok ([], returned) ∧
        HoldsOpen returned client.nextConnection (.replica 0 0) := by
  refine ⟨_, _, _, rfl, rfl, rfl, _, List.mem_cons_self, ?_, ?_, ?_⟩
  · decide
  · decide
  · rintro (impossible | impossible) <;> cases impossible

end Libvalkey
