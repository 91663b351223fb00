import Libvalkey.Cluster.TopologyNodes

/-! # Two ways to learn a topology

The replies to `CLUSTER SLOTS` and to `CLUSTER NODES` lead to the same slot map. -/

namespace Libvalkey

open Checked Tiling

variable {Con : Type}

/-- The node that serves a slot. -/
def ValkeyClusterContext.servedBy (cc : ValkeyClusterContext) (slot : Nat) :
    Option (ValkeyClusterNode ValkeyContext) := do
  let table ← cc.table
  let node ← tableMap table slot
  cc.findNode node

/-- The address of a node in all its forms. -/
def ValkeyClusterNode.location (node : ValkeyClusterNode Con) : Bytes × Bytes × Int :=
  (node.addr, node.host, node.port)

instance (slot : ClusterSlot) (position : Nat) : Decidable (slot.Contains position) :=
  inferInstanceAs (Decidable (slot.start ≤ position ∧ position ≤ slot.stop))

instance (slot : ClusterSlot) : Decidable slot.Valid :=
  inferInstanceAs (Decidable (slot.start ≤ slot.stop ∧ slot.stop < valkeyClusterSlots))

def TopologyNode.location (connected : Bytes) (node : TopologyNode) : Bytes × Bytes × Int :=
  (node.endpoint.address connected, cString (node.endpoint.resolve connected), node.endpoint.port)

/-- Where a slot is served in a topology. -/
def Topology.serving (connected : Bytes) (topology : Topology) (slot : Nat) :
    Option (Bytes × Bytes × Int) :=
  (topology.entries.find? fun range => range.2.Contains slot).map fun range =>
    range.1.location connected

section Describes

variable {connected : Bytes} {addReplicas : Bool} {topology : Topology}
  {nodes : List (ValkeyClusterNode Con)}

theorem StandsFor.location {primary : TopologyNode} {node : ValkeyClusterNode Con}
    (stands : StandsFor connected primary node) : node.location = primary.location connected := by
  rw [ValkeyClusterNode.location, stands.addr, stands.host, stands.port]
  rfl

theorem mem_addressClaims {addr : Bytes} {slot : ClusterSlot} :
    (addr, slot) ∈ addressClaims nodes ↔ ∃ node ∈ nodes, node.addr = addr ∧ slot ∈ node.slots := by
  simp only [addressClaims, List.mem_flatMap, List.mem_map, Prod.mk.injEq]
  constructor
  · rintro ⟨node, member, own, inSlots, addr, rfl⟩
    exact ⟨node, member, addr, inSlots⟩
  · rintro ⟨node, member, addr, inSlots⟩
    exact ⟨node, member, slot, inSlots, addr, rfl⟩

theorem map_slotClaims (nodes : List (ValkeyClusterNode Con)) :
    (slotClaims nodes).map (·.2) = (addressClaims nodes).map (·.2) := by
  rw [slotClaims, addressClaims, List.map_flatMap, List.map_flatMap]
  simp only [ValkeyClusterNode.claims, List.map_map, Function.comp_def]

theorem Topology.map_claims (topology : Topology) (connected : Bytes) :
    (topology.claims connected).map (·.2) = topology.ranges := by
  rw [Topology.claims, Topology.ranges, List.map_flatMap]
  simp only [List.map_map, Function.comp_def, List.map_id']

/-- The nodes of a topology can be put into a table. -/
theorem Describes.installable (describes : Describes addReplicas connected topology nodes)
    (wellFormed : topology.WellFormed connected) : Installable nodes where
  primary node member := by
    obtain ⟨primary, _, stands, _⟩ := describes.nodes node member
    exact stands.role
  fits := by
    have ranges : ((slotClaims nodes).map (·.2)).Perm topology.ranges := by
      rw [map_slotClaims, ← Topology.map_claims topology connected]
      exact describes.claims.map _
    constructor
    · intro claim member
      exact wellFormed.valid _ (ranges.mem_iff.mp (List.mem_map_of_mem member))
    · have apart := (apart_perm ranges).mpr wellFormed.apart
      rw [List.pairwise_map] at apart
      exact apart

/-- The node that claims a slot stands for the primary that serves it. -/
theorem Describes.claiming (describes : Describes addReplicas connected topology nodes)
    (wellFormed : topology.WellFormed connected) {range : TopologyNode × ClusterSlot}
    (member : range ∈ topology.entries) :
    ∃ node ∈ nodes, range.2 ∈ node.slots ∧ StandsFor connected range.1 node ∧
      (addReplicas = true → SameReplicas connected range.1 node) := by
  have claimed : (range.1.endpoint.address connected, range.2) ∈ addressClaims nodes := by
    rw [describes.claims.mem_iff, Topology.claims_eq]
    exact List.mem_map_of_mem member
  obtain ⟨node, inNodes, addr, inSlots⟩ := mem_addressClaims.mp claimed
  obtain ⟨primary, inTopology, stands, replicas⟩ := describes.nodes node inNodes
  have same : primary = range.1 :=
    List.inj_on_of_nodup_map wellFormed.addresses inTopology (Topology.mem_entries.mp member).1
      (stands.addr.symm.trans addr)
  subst same
  exact ⟨node, inNodes, inSlots, stands, replicas⟩

theorem Describes.owner (describes : Describes addReplicas connected topology nodes)
    {node : ValkeyClusterNode Con} (member : node ∈ nodes) {slot : ClusterSlot}
    (inSlots : slot ∈ node.slots) : ∃ primary, (primary, slot) ∈ topology.entries := by
  have claimed := mem_addressClaims.mpr ⟨node, member, rfl, inSlots⟩
  rw [describes.claims.mem_iff, Topology.claims_eq] at claimed
  obtain ⟨⟨primary, own⟩, inEntries, same⟩ := List.mem_map.mp claimed
  obtain ⟨_, rfl⟩ := Prod.mk.inj same
  exact ⟨primary, inEntries⟩

end Describes

section Replaced

variable {connected : Bytes} {addReplicas : Bool} {topology : Topology}
  {nodes : List (ValkeyClusterNode ValkeyContext)}

/-- A new node is found with the connections of its predecessor. -/
theorem findNode_replaceNodes (cc : ValkeyClusterContext) (table : List (Option Nat))
    (names : (nodes.map (·.id)).Nodup) {node : ValkeyClusterNode ValkeyContext}
    (member : node ∈ nodes) :
    ∃ con acon, (cc.replaceNodes table nodes).findNode node.id =
      some { node with con := con, acon := acon } := by
  have swapped : ∃ con acon, { node with con := con, acon := acon } ∈
      cluster_nodes_swap_ctx cc.nodes nodes := by
    cases found : findByAddr cc.nodes node.addr with
    | none =>
        refine ⟨node.con, node.acon, List.mem_map.mpr ⟨node, member, ?_⟩⟩
        rw [found]
    | some old =>
        refine ⟨old.con.or node.con, old.acon.or node.acon, List.mem_map.mpr ⟨node, member, ?_⟩⟩
        rw [found]
  obtain ⟨con, acon, inNodes⟩ := swapped
  have ids : (cluster_nodes_swap_ctx cc.nodes nodes).map (·.id) = nodes.map (·.id) := by
    rw [cluster_nodes_swap_ctx, List.map_map]
    refine List.map_congr_left fun node _ => ?_
    dsimp only [Function.comp]
    split <;> rfl
  refine ⟨con, acon, ?_⟩
  rw [ValkeyClusterContext.findNode, ValkeyClusterContext.replaceNodes]
  cases found : (cluster_nodes_swap_ctx cc.nodes nodes).find? (·.id == node.id) with
  | none => simpa using List.find?_eq_none.mp found _ inNodes
  | some other =>
      have same : other.id = node.id := by simpa using List.find?_some found
      exact congrArg some
        (List.inj_on_of_nodup_map (ids ▸ names) (List.mem_of_find?_eq_some found) inNodes same)

/-- The slot map of the new nodes is that of the topology. -/
theorem Describes.servedBy (describes : Describes addReplicas connected topology nodes)
    (wellFormed : topology.WellFormed connected) (names : (nodes.map (·.id)).Nodup)
    {table : List (Option Nat)} (made : TableOf (slotClaims nodes) table)
    (cc : ValkeyClusterContext) (slot : Nat) :
    ((cc.replaceNodes table nodes).servedBy slot).map
    (·.location) = topology.serving connected slot ∧
      ∀ node, (cc.replaceNodes table nodes).servedBy slot = some node → addReplicas = true →
        ∃ primary ∈ topology, primary.endpoint.address connected = node.addr ∧
          SameReplicas connected primary node := by
  rw [Topology.serving]
  cases found : topology.entries.find? fun range => range.2.Contains slot with
  | none =>
      have free : tableMap table slot = none := by
        rw [made.represents.free]
        intro claim member covered
        obtain ⟨node, inNodes, _, inSlots⟩ := mem_slotClaims.mp member
        obtain ⟨primary, inEntries⟩ := describes.owner inNodes inSlots
        have contains : claim.2.Contains slot := covered
        exact List.find?_eq_none.mp found _ inEntries (decide_eq_true contains)
      have nobody : (cc.replaceNodes table nodes).servedBy slot = none := by
        rw [ValkeyClusterContext.servedBy, ValkeyClusterContext.replaceNodes, Option.bind_eq_bind,
          Option.bind_some, free]
        rfl
      rw [nobody]
      exact ⟨rfl, fun _ impossible => by cases impossible⟩
  | some range =>
      have member := List.mem_of_find?_eq_some found
      obtain ⟨node, inNodes, inSlots, stands, replicas⟩ := describes.claiming wellFormed member
      have contains : range.2.Contains slot := by simpa using List.find?_some found
      have entry : tableMap table slot = some node.id :=
        (made.represents slot node.id).mpr
          ⟨(node.id, range.2), mem_slotClaims.mpr ⟨node, inNodes, rfl, inSlots⟩, rfl, contains⟩
      obtain ⟨con, acon, isFound⟩ := findNode_replaceNodes cc table names inNodes
      have server : (cc.replaceNodes table nodes).servedBy slot =
          some { node with con := con, acon := acon } := by
        rw [ValkeyClusterContext.servedBy, show (cc.replaceNodes table nodes).table =
          some table from rfl,
          Option.bind_eq_bind, Option.bind_some, entry, ← isFound]
        rfl
      rw [server]
      refine ⟨congrArg some stands.location, fun other same asked => ?_⟩
      obtain rfl := Option.some.inj same
      exact ⟨range.1, (Topology.mem_entries.mp member).1, stands.addr.symm, replicas asked⟩

/-- The nodes of a topology are installed. -/
theorem Describes.updateNodesAndSlotmap (describes : Describes addReplicas connected topology nodes)
    (wellFormed : topology.WellFormed connected) {base : Nat} (new : NewNodes base nodes)
    (order : IterationOrder) (cc : ValkeyClusterContext) :
    ∃ table, updateNodesAndSlotmap order true cc nodes = (.ok, cc.replaceNodes table nodes) ∧
      TableOf (slotClaims nodes) table ∧ (nodes.map (·.id)).Nodup := by
  have made := ensures_createTable order nodes
  have installable := describes.installable wellFormed
  cases result : createTable order nodes with
  | error message =>
      rw [result] at made
      exact absurd installable made
  | ok table =>
      rw [result] at made
      refine ⟨table, ?_, made.2, ?_⟩
      · rw [Libvalkey.updateNodesAndSlotmap, if_neg (by simp), result]
      · rw [new.names]
        exact List.nodup_range'

end Replaced

/-- Two clients that have the same slot map and, where they are asked for, the same replicas of
the nodes that serve a slot. -/
structure SameService (addReplicas : Bool) (left right : ValkeyClusterContext) : Prop where
  locations : ∀ slot, (left.servedBy slot).map (·.location) = (right.servedBy slot).map (·.location)
  replicas : addReplicas = true → ∀ slot first second, left.servedBy slot = some first →
    right.servedBy slot = some second →
      (first.replicas.map (·.addr)).Perm (second.replicas.map (·.addr))

/-- The two replies for a topology lead to the same slot map, which is that of the topology. -/
theorem slots_nodes_agree (addReplicas : Bool) (connected : Bytes) {topology : Topology}
    (wellFormed : topology.WellFormed connected) {slotsReply nodesReply : ReplyTree}
    (slots : RendersSlots topology slotsReply) (lines : RendersNodes topology nodesReply)
    (order otherOrder : IterationOrder) (base otherBase : Nat) (cc other : ValkeyClusterContext) :
    ∃ bySlots byNodes left right,
      parse_cluster_slots addReplicas connected base slotsReply = .ok bySlots ∧
      parse_cluster_nodes addReplicas connected otherBase nodesReply = .ok byNodes ∧
      updateNodesAndSlotmap order true cc bySlots = (.ok, left) ∧
      updateNodesAndSlotmap otherOrder true other byNodes = (.ok, right) ∧
      SameService addReplicas left right ∧
      ∀ slot, (left.servedBy slot).map (·.location) = topology.serving connected slot := by
  obtain ⟨bySlots, parsedSlots, describesSlots⟩ :=
    @parse_cluster_slots_renders ValkeyContext connected addReplicas topology wellFormed
      base _ slots
  obtain ⟨byNodes, parsedNodes, describesNodes⟩ :=
    @parse_cluster_nodes_renders ValkeyContext connected addReplicas topology wellFormed otherBase _
      lines
  have newSlots := @parses_cluster_slots ValkeyContext base addReplicas connected slotsReply
  have newNodes := @parses_cluster_nodes ValkeyContext otherBase addReplicas connected nodesReply
  rw [parsedSlots] at newSlots
  rw [parsedNodes] at newNodes
  obtain ⟨leftTable, installedSlots, leftMade, leftNames⟩ :=
    describesSlots.updateNodesAndSlotmap wellFormed newSlots order cc
  obtain ⟨rightTable, installedNodes, rightMade, rightNames⟩ :=
    describesNodes.updateNodesAndSlotmap wellFormed newNodes otherOrder other
  have left := describesSlots.servedBy wellFormed leftNames leftMade cc
  have right := describesNodes.servedBy wellFormed rightNames rightMade other
  refine ⟨bySlots, byNodes, _, _, parsedSlots, parsedNodes, installedSlots, installedNodes,
    ⟨fun slot => ?_, fun asked slot first second isFirst isSecond => ?_⟩, fun slot => (left slot).1⟩
  · exact (left slot).1.trans (right slot).1.symm
  · obtain ⟨primary, inTopology, addr, same⟩ := (left slot).2 first isFirst asked
    obtain ⟨sibling, siblingIn, siblingAddr, siblingSame⟩ := (right slot).2 second isSecond asked
    have locations := (left slot).1.trans (right slot).1.symm
    rw [isFirst, isSecond] at locations
    have addrs : first.addr = second.addr := (Prod.mk.inj (Option.some.inj locations)).1
    obtain rfl := List.inj_on_of_nodup_map wellFormed.addresses inTopology siblingIn
      (addr.trans (addrs.trans siblingAddr.symm))
    exact same.trans siblingSame.symm

/-- A primary that does not know its host, with a replica. -/
def silentPrimary : TopologyNode where
  id := ascii "i"
  endpoint := ⟨[], 1⟩
  slots := [⟨0, 5⟩, ⟨7, 7⟩]
  replicas := [⟨ascii "r", ⟨ascii "::1", 3⟩⟩]

def otherPrimary : TopologyNode where
  id := ascii "j"
  endpoint := ⟨ascii "b", 2⟩
  slots := [⟨6, 6⟩]
  replicas := []

def twoPrimaries : Topology := [silentPrimary, otherPrimary]

def twoPrimariesSlots : ReplyTree :=
  .aggregate .array
    [.aggregate .array [.integer 7, .integer 7, .aggregate .array [.nil .null, .integer 1],
      .aggregate .array [.string (ascii "::1"), .integer 3]],
    .aggregate .array [.integer 6, .integer 6,
      .aggregate .array [.string (ascii "b"), .integer 2, .string (ascii "j")]],
    .aggregate .array [.integer 0, .integer 5, .aggregate .array [.string [], .integer 1],
      .aggregate .array [.string (ascii "::1"), .integer 3]]]

def twoPrimariesLines : List Bytes :=
  [ascii "r ::1:3 slave i 0 0 1 connected",
    ascii "i :1@9 myself,master - 0 0 1 connected 0-5 7 [6-<-j]",
    ascii "j b:2@9,h master - 0 0 1 connected 6"]

theorem wellFormed_twoPrimaries : twoPrimaries.WellFormed (ascii "c") where
  endpoints := by
    have silent : silentPrimary.endpoint.WellFormed := ⟨by decide, by decide, by decide, by decide⟩
    have other : otherPrimary.endpoint.WellFormed := ⟨by decide, by decide, by decide, by decide⟩
    have replica : Endpoint.WellFormed ⟨ascii "::1", 3⟩ :=
      ⟨by decide, by decide, by decide, by decide⟩
    intro node member
    rcases List.mem_pair.mp member with rfl | rfl
    · exact ⟨silent, fun _ own => List.mem_singleton.mp own ▸ replica⟩
    · exact ⟨other, fun _ own => absurd own List.not_mem_nil⟩
  plain := by decide
  ids := by decide
  addresses := by decide
  valid := by decide
  apart := by
    have ranges : twoPrimaries.ranges = [⟨0, 5⟩, ⟨7, 7⟩, ⟨6, 6⟩] := rfl
    rw [ranges]
    simp only [List.pairwise_cons, List.mem_cons, Apart, ClusterSlot.Contains]
    grind
  served := by decide

theorem rendersSlots_twoPrimaries : RendersSlots twoPrimaries twoPrimariesSlots := by
  have silent : RendersEndpoint silentPrimary.endpoint
      (.aggregate .array [.nil .null, .integer 1]) :=
    ⟨_, [], rfl, .inr ⟨rfl, .null, rfl⟩⟩
  have empty : RendersEndpoint silentPrimary.endpoint
      (.aggregate .array [.string [], .integer 1]) :=
    ⟨_, [], rfl, .inl rfl⟩
  have replica : RendersEndpoint ⟨ascii "::1", 3⟩
      (.aggregate .array [.string (ascii "::1"), .integer 3]) := ⟨_, [], rfl, .inl rfl⟩
  have other : RendersEndpoint otherPrimary.endpoint
      (.aggregate .array [.string (ascii "b"), .integer 2, .string (ascii "j")]) :=
    ⟨_, _, rfl, .inl rfl⟩
  exact ⟨[(silentPrimary, ⟨7, 7⟩), (otherPrimary, ⟨6, 6⟩), (silentPrimary, ⟨0, 5⟩)],
    _, by decide, rfl,
    .cons ⟨_, _, _, rfl, silent, .refl _, .cons replica .nil⟩
      (.cons ⟨_, [], [], rfl, other, .refl _, .nil⟩
        (.cons ⟨_, _, _, rfl, empty, .refl _, .cons replica .nil⟩ .nil))⟩

theorem rendersNodes_twoPrimaries :
    RendersNodes twoPrimaries (.string (twoPrimariesLines.flatMap (· ++ [LF]))) := by
  have replica : RendersItem (.replica silentPrimary ⟨ascii "r", ⟨ascii "::1", 3⟩⟩)
      (ascii "r ::1:3 slave i 0 0 1 connected") :=
    ⟨ascii "::1:3", ascii "slave", ascii "0", ascii "0", ascii "1", ascii "connected",
      ⟨[], by decide, .inl rfl⟩, ⟨[], [], fun _ member => absurd member List.not_mem_nil, rfl⟩,
      by decide, by decide, by decide, by decide, by decide, by decide⟩
  have neutral : NeutralFlag (ascii "myself") :=
    ⟨by decide, by decide, by decide, by decide, by decide, by decide⟩
  have silent : RendersItem (.primary silentPrimary)
      (ascii "i :1@9 myself,master - 0 0 1 connected 0-5 7 [6-<-j]") :=
    ⟨ascii "-", _, [ascii "0-5", ascii "7"], [ascii "[6-<-j]"], by decide, .refl _,
      .cons (.inl (by decide)) (.cons (.inr ⟨rfl, by decide⟩) .nil),
      fun marker member => List.mem_singleton.mp member ▸ ⟨by decide, by decide⟩,
      ascii ":1@9", ascii "myself,master", ascii "0", ascii "0", ascii "1", ascii "connected",
      ⟨ascii "@9", by decide, .inr ⟨ascii "9", rfl, by decide⟩⟩,
      ⟨[ascii "myself"], [], fun flag member => List.mem_singleton.mp member ▸ neutral, by decide⟩,
      by decide, by decide, by decide, by decide, by decide, by decide⟩
  have other : RendersItem (.primary otherPrimary) (ascii "j b:2@9,h master - 0 0 1 connected 6") :=
    ⟨ascii "-", _, [ascii "6"], [], by decide, .refl _, .cons (.inr ⟨rfl, by decide⟩) .nil,
      fun _ member => absurd member List.not_mem_nil,
      ascii "b:2@9,h", ascii "master", ascii "0", ascii "0", ascii "1", ascii "connected",
      ⟨ascii "@9,h", by decide, .inr ⟨ascii "9,h", rfl, by decide⟩⟩,
      ⟨[], [], fun _ member => absurd member List.not_mem_nil, rfl⟩,
      by decide, by decide, by decide, by decide, by decide, by decide⟩
  exact ⟨[.replica silentPrimary ⟨ascii "r", ⟨ascii "::1", 3⟩⟩, .primary silentPrimary,
    .primary otherPrimary], _, by decide, .cons replica (.cons silent (.cons other .nil)), .inl rfl⟩

theorem slots_nodes_agree_twoPrimaries :
    ∃ bySlots byNodes left right,
      parse_cluster_slots true (ascii "c") 2 twoPrimariesSlots = .ok bySlots ∧
      parse_cluster_nodes true (ascii "c") 2 (.string (twoPrimariesLines.flatMap (· ++ [LF]))) =
        .ok byNodes ∧
      updateNodesAndSlotmap inOrder true twoNodes bySlots = (.ok, left) ∧
      updateNodesAndSlotmap inOrder true twoNodes byNodes = (.ok, right) ∧
      SameService true left right ∧
      ∀ slot, (left.servedBy slot).map (·.location) = twoPrimaries.serving (ascii "c") slot :=
  slots_nodes_agree true (ascii "c") wellFormed_twoPrimaries rendersSlots_twoPrimaries
    rendersNodes_twoPrimaries inOrder inOrder 2 2 twoNodes twoNodes

end Libvalkey
