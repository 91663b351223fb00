import Libvalkey.Cluster.NewNodes
import Libvalkey.Cluster.Table
import Libvalkey.Cluster.Texts

/-! # Topologies

What a cluster consists of, what a server answers to `CLUSTER SLOTS`, and what
`parse_cluster_slots` makes of it. -/

namespace Libvalkey

open Checked Tiling

variable {Con : Type}

/-! ## Clusters -/

/-- A host, empty where a node does not know its own, and a port. -/
structure Endpoint where
  host : Bytes
  port : Nat
  deriving DecidableEq

structure TopologyReplica where
  id : Bytes
  endpoint : Endpoint
  deriving DecidableEq

/-- A primary with its slot ranges and its replicas. -/
structure TopologyNode where
  id : Bytes
  endpoint : Endpoint
  slots : List ClusterSlot
  replicas : List TopologyReplica
  deriving DecidableEq

abbrev Topology : Type := List TopologyNode

/-- A field of a line. -/
def Plain (text : Bytes) : Prop := ' '.toUInt8 ∉ text ∧ LF ∉ text ∧ 0 ∉ text

instance (text : Bytes) : Decidable (Plain text) :=
  inferInstanceAs (Decidable (' '.toUInt8 ∉ text ∧ LF ∉ text ∧ 0 ∉ text))

namespace Endpoint

/-- The host, as seen through a connection to `connected`. -/
def resolve (connected : Bytes) (endpoint : Endpoint) : Bytes :=
  if endpoint.host = [] then connected else endpoint.host

def address (connected : Bytes) (endpoint : Endpoint) : Bytes :=
  addressOf (endpoint.resolve connected) endpoint.port

structure WellFormed (endpoint : Endpoint) : Prop where
  plain : Plain endpoint.host
  noComma : ','.toUInt8 ∉ endpoint.host
  noAt : '@'.toUInt8 ∉ endpoint.host
  port : 1 ≤ endpoint.port ∧ endpoint.port ≤ 65535

end Endpoint

namespace Topology

/-- The slot ranges of all primaries. -/
def ranges (topology : Topology) : List ClusterSlot := topology.flatMap (·.slots)

/-- The slot ranges with the addresses that they belong to. -/
def claims (connected : Bytes) (topology : Topology) : List (Bytes × ClusterSlot) :=
  topology.flatMap fun node => node.slots.map fun slot => (node.endpoint.address connected, slot)

/-- The primaries have different ids and addresses, and their slot ranges are valid and do
not overlap. -/
structure WellFormed (connected : Bytes) (topology : Topology) : Prop where
  endpoints : ∀ node ∈ topology, node.endpoint.WellFormed ∧
    ∀ replica ∈ node.replicas, replica.endpoint.WellFormed
  plain : ∀ node ∈ topology, Plain node.id ∧ ∀ replica ∈ node.replicas, Plain replica.id
  ids : (topology.map (·.id)).Nodup
  addresses : (topology.map (·.endpoint.address connected)).Nodup
  valid : ∀ slot ∈ topology.ranges, slot.Valid
  apart : topology.ranges.Pairwise (Apart ClusterSlot.Contains)
  served : topology.ranges ≠ []

end Topology

/-! ## What a parser has to find -/

/-- The slot ranges of nodes with their addresses. -/
def addressClaims (nodes : List (ValkeyClusterNode Con)) : List (Bytes × ClusterSlot) :=
  nodes.flatMap fun node => node.slots.map fun slot => (node.addr, slot)

/-- A node stands for a primary, without its slots and its replicas. -/
structure StandsFor (connected : Bytes) (primary : TopologyNode) (node : ValkeyClusterNode Con) :
    Prop where
  addr : node.addr = primary.endpoint.address connected
  host : node.host = cString (primary.endpoint.resolve connected)
  port : node.port = primary.endpoint.port
  role : node.role = .primary

def SameReplicas (connected : Bytes) (primary : TopologyNode)
    (node : ValkeyClusterNode Con) : Prop :=
  (node.replicas.map (·.addr)).Perm (primary.replicas.map (·.endpoint.address connected))

/-- The nodes that are found in a topology. -/
structure Describes (addReplicas : Bool) (connected : Bytes) (topology : Topology)
    (nodes : List (ValkeyClusterNode Con)) : Prop where
  claims : (addressClaims nodes).Perm (topology.claims connected)
  nodes : ∀ node ∈ nodes, ∃ primary ∈ topology, StandsFor connected primary node ∧
    (addReplicas = true → SameReplicas connected primary node)

/-! ## `CLUSTER SLOTS` -/

/-- The entry of a node. An unknown host is `nil` or empty, and more elements may follow. -/
def RendersEndpoint (endpoint : Endpoint) (entry : ReplyTree) : Prop :=
  ∃ ip more, entry = .aggregate .array (ip :: .integer endpoint.port :: more) ∧
    (ip = .string endpoint.host ∨ endpoint.host = [] ∧ ∃ form, ip = .nil form)

/-- The entry of a slot range, with the replicas in any order. -/
def RendersRange (primary : TopologyNode) (slot : ClusterSlot) (entry : ReplyTree) : Prop :=
  ∃ first replicas order, entry = .aggregate .array
      (.integer slot.start :: .integer slot.stop :: first :: replicas) ∧
    RendersEndpoint primary.endpoint first ∧
    order.Perm (primary.replicas.map (·.endpoint)) ∧ List.Forall₂ RendersEndpoint order replicas

/-- The slot ranges with their primaries. -/
def Topology.entries (topology : Topology) : List (TopologyNode × ClusterSlot) :=
  topology.flatMap fun node => node.slots.map fun slot => (node, slot)

/-- The reply to `CLUSTER SLOTS`, with the entries in any order. -/
def RendersSlots (topology : Topology) (reply : ReplyTree) : Prop :=
  ∃ ranges entries, ranges.Perm topology.entries ∧ reply = .aggregate .array entries ∧
    List.Forall₂ (fun range entry => RendersRange range.1 range.2 entry) ranges entries

section Slots

variable (connected : Bytes)

theorem parseClusterSlotsNodeEntry_renders {endpoint : Endpoint} (wellFormed : endpoint.WellFormed)
    {entry : ReplyTree} (renders : RendersEndpoint endpoint entry) :
    parseClusterSlotsNodeEntry connected entry = .ok
      (endpoint.resolve connected, endpoint.port) := by
  obtain ⟨ip, more, rfl, known⟩ := renders
  have inRange : portInRange endpoint.port = true := by
    obtain ⟨low, high⟩ := wellFormed.port
    rw [portInRange, Bool.and_eq_true, decide_eq_true_eq, decide_eq_true_eq]
    omega
  have checked (host : Bytes) : parseClusterSlotsNodeEntry.checkPort host (.integer endpoint.port) =
      .ok (host, endpoint.port) := if_pos inRange
  rcases known with rfl | ⟨unknown, form, rfl⟩
  · rw [parseClusterSlotsNodeEntry, checked, Endpoint.resolve]
    by_cases empty : endpoint.host = []
    · simp [empty]
    · rw [if_neg empty, if_pos (List.length_pos_of_ne_nil empty)]
  · rw [parseClusterSlotsNodeEntry, checked, Endpoint.resolve, if_pos unknown]

theorem parseReplicas_renders {endpoints : List Endpoint} {entries : List ReplyTree}
    (wellFormed : ∀ endpoint ∈ endpoints, endpoint.WellFormed)
    (renders : List.Forall₂ RendersEndpoint endpoints entries) :
    ∃ replicas : List (ReplicaNode Con), parseReplicas connected entries = .ok replicas ∧
      replicas.map (·.addr) = endpoints.map (·.address connected) := by
  induction renders with
  | nil => exact ⟨[], rfl, rfl⟩
  | @cons endpoint entry endpoints entries first _ induction =>
      obtain ⟨replicas, parsed, addrs⟩ :=
        induction fun endpoint member => wellFormed endpoint (List.mem_cons_of_mem _ member)
      have entry := parseClusterSlotsNodeEntry_renders connected
        (wellFormed _ List.mem_cons_self) first
      let replica : ReplicaNode Con :=
        { name := none
          addr := endpoint.address connected
          host := cString (endpoint.resolve connected)
          port := endpoint.port
          con := none
          acon := none
          lastConnectionAttempt := 0 }
      refine ⟨replica :: replicas, ?_, by rw [List.map_cons, addrs, List.map_cons]⟩
      rw [parseReplicas, entry]
      simp only [bind, Except.bind, parsed, pure, Except.pure]
      rfl

theorem toUint32_ofNat {value : Nat} (small : value < 2 ^ 32) : toUint32 value = value := by
  unfold toUint32
  omega

theorem parseSlotRange_renders {slot : ClusterSlot} (valid : slot.Valid) (rest : List ReplyTree) :
    parseSlotRange (.integer slot.start :: .integer slot.stop :: rest) = .ok slot := by
  obtain ⟨order, inside⟩ := valid
  rw [valkeyClusterSlots] at inside
  rw [parseSlotRange, toUint32_ofNat (by omega), toUint32_ofNat (by omega), if_neg]
  rw [valkeyClusterSlots]
  omega

theorem addressClaims_append (left right : List (ValkeyClusterNode Con)) :
    addressClaims (left ++ right) = addressClaims left ++ addressClaims right :=
  List.flatMap_append

theorem addSlot_other {nodes : List (ValkeyClusterNode Con)} {addr : Bytes}
    (other : addr ∉ nodes.map (·.addr)) (slot : ClusterSlot) : addSlot nodes addr slot = nodes := by
  have unchanged : ∀ node ∈ nodes,
      (if node.addr = addr then { node with slots := node.slots ++ [slot] } else node) =
        id node := by
    intro node member
    refine if_neg fun same => other ?_
    rw [← same]
    exact List.mem_map_of_mem member
  rw [addSlot, List.map_congr_left unchanged, List.map_id]

/-- The slot goes to the node of its address. -/
theorem addressClaims_addSlot {nodes : List (ValkeyClusterNode Con)} {addr : Bytes}
    (addrs : (nodes.map (·.addr)).Nodup) (known : addr ∈ nodes.map (·.addr)) (slot : ClusterSlot) :
    (addressClaims (addSlot nodes addr slot)).Perm (addressClaims nodes ++ [(addr, slot)]) := by
  induction nodes with
  | nil => exact absurd known List.not_mem_nil
  | cons node rest induction =>
      rw [List.map_cons, List.nodup_cons] at addrs
      by_cases same : node.addr = addr
      · subst same
        have unchanged := addSlot_other addrs.1 slot
        have changed : addSlot (node :: rest) node.addr slot =
            { node with slots := node.slots ++ [slot] } :: rest := by
          rw [addSlot, List.map_cons, if_pos rfl]
          exact congrArg _ unchanged
        rw [changed]
        simp only [addressClaims, List.flatMap_cons, List.map_append, List.map_singleton,
          List.append_assoc]
        exact List.Perm.append_left _ List.perm_append_comm
      · have inRest := (List.mem_cons.mp known).resolve_left (Ne.symm same)
        have unchanged : addSlot (node :: rest) addr slot = node :: addSlot rest addr slot := by
          rw [addSlot, List.map_cons, if_neg same, addSlot]
        rw [unchanged]
        simp only [addressClaims, List.flatMap_cons, List.append_assoc]
        exact (induction addrs.2 inRest).append_left _

/-- What has been found after some of the slot ranges. -/
structure SlotsSoFar (addReplicas : Bool) (topology : Topology)
    (done : List (TopologyNode × ClusterSlot)) (nodes : List (ValkeyClusterNode Con)) : Prop where
  claims : (addressClaims nodes).Perm
    (done.map fun range => (range.1.endpoint.address connected, range.2))
  addrs : (nodes.map (·.addr)).Nodup
  nodes : ∀ node ∈ nodes, ∃ primary ∈ topology, StandsFor connected primary node ∧
    (addReplicas = true → SameReplicas connected primary node)

variable {connected} {addReplicas : Bool} {topology : Topology}
  {done : List (TopologyNode × ClusterSlot)} {nodes : List (ValkeyClusterNode Con)}

theorem map_addSlot {α : Type} (data : ValkeyClusterNode Con → α)
    (apart : ∀ node slots, data { node with slots := slots } = data node)
    (nodes : List (ValkeyClusterNode Con)) (addr : Bytes) (slot : ClusterSlot) :
    (addSlot nodes addr slot).map data = nodes.map data := by
  rw [addSlot, List.map_map]
  refine List.map_congr_left fun node _ => ?_
  dsimp only [Function.comp]
  split
  · exact apart node _
  · rfl

/-- A slot range of a node that is there. -/
theorem SlotsSoFar.addSlot (soFar : SlotsSoFar connected addReplicas topology done nodes)
    {primary : TopologyNode} (known : primary.endpoint.address connected ∈ nodes.map (·.addr))
    (slot : ClusterSlot) :
    SlotsSoFar connected addReplicas topology (done ++ [(primary, slot)])
      (addSlot nodes (primary.endpoint.address connected) slot) := by
  refine ⟨?_, ?_, fun node member => ?_⟩
  · rw [List.map_append]
    exact (addressClaims_addSlot soFar.addrs known slot).trans (soFar.claims.append_right _)
  · rw [map_addSlot (·.addr) fun _ _ => rfl]
    exact soFar.addrs
  · obtain ⟨old, inNodes, rfl⟩ := List.mem_map.mp member
    obtain ⟨standing, inTopology, stands, replicas⟩ := soFar.nodes old inNodes
    refine ⟨standing, inTopology, ?_⟩
    split
    · exact ⟨⟨stands.addr, stands.host, stands.port, stands.role⟩, replicas⟩
    · exact ⟨stands, replicas⟩

/-- The node of a primary that was not there. -/
theorem SlotsSoFar.append (soFar : SlotsSoFar connected addReplicas topology done nodes)
    {primary : TopologyNode} (member : primary ∈ topology)
    (unknown : primary.endpoint.address connected ∉ nodes.map (·.addr))
    {node : ValkeyClusterNode Con} (stands : StandsFor connected primary node)
    (replicas : addReplicas = true → SameReplicas connected primary node)
    (empty : node.slots = []) :
    SlotsSoFar connected addReplicas topology done (nodes ++ [node]) := by
  refine ⟨?_, ?_, fun other inNodes => ?_⟩
  · have nothing : addressClaims [node] = [] := by simp [addressClaims, empty]
    rw [addressClaims_append, nothing, List.append_nil]
    exact soFar.claims
  · rw [List.map_append, List.map_singleton, List.nodup_append]
    refine ⟨soFar.addrs, List.nodup_singleton _, fun addr old other new same => ?_⟩
    rw [List.mem_singleton.mp new, stands.addr] at same
    exact unknown (same ▸ old)
  · rcases List.mem_append.mp inNodes with old | new
    · exact soFar.nodes other old
    · obtain rfl := List.mem_singleton.mp new
      exact ⟨primary, member, stands, replicas⟩

theorem findByAddr_eq_none {addr : Bytes} :
    findByAddr nodes addr = none ↔ addr ∉ nodes.map (·.addr) := by
  rw [findByAddr, List.find?_eq_none, List.mem_map]
  constructor
  · rintro none ⟨node, member, same⟩
    exact none node member (by simpa using same)
  · intro unknown node member same
    exact unknown ⟨node, member, by simpa using same⟩

/-- One entry. -/
theorem parseSlotsEntry_renders (wellFormed : topology.WellFormed connected) (base : Nat)
    (soFar : SlotsSoFar connected addReplicas topology done nodes) {primary : TopologyNode}
    (member : primary ∈ topology) {slot : ClusterSlot} (owned : slot ∈ primary.slots)
    {entry : ReplyTree} (renders : RendersRange primary slot entry) :
    ∃ next, parseSlotsEntry addReplicas connected base nodes entry = .ok next ∧
      SlotsSoFar connected addReplicas topology (done ++ [(primary, slot)]) next := by
  obtain ⟨first, replicas, order, rfl, firstRenders, perm, replicasRender⟩ := renders
  have valid := wellFormed.valid slot (List.mem_flatMap.mpr ⟨primary, member, owned⟩)
  obtain ⟨endpoint, replicaEndpoints⟩ := wellFormed.endpoints primary member
  have replicasWellFormed : ∀ endpoint ∈ order, endpoint.WellFormed := by
    intro endpoint inOrder
    obtain ⟨replica, inReplicas, rfl⟩ := List.mem_map.mp (perm.mem_iff.mp inOrder)
    exact replicaEndpoints replica inReplicas
  obtain ⟨parsedReplicas, parsed, addrs⟩ :=
    @parseReplicas_renders Con connected order replicas replicasWellFormed replicasRender
  have range := parseSlotRange_renders valid (first :: replicas)
  have node := parseClusterSlotsNodeEntry_renders connected endpoint firstRenders
  have three : ¬(ReplyTree.integer slot.start :: .integer slot.stop :: first :: replicas).length <
      3 := by
    simp
  simp only [parseSlotsEntry, if_neg three, range, List.getD_cons_succ,
    List.getD_cons_zero, node, bind,
    Except.bind, pure, Except.pure]
  cases found : findByAddr nodes
      (addressOf (primary.endpoint.resolve connected) primary.endpoint.port) with
  | some other =>
      have known : primary.endpoint.address connected ∈ nodes.map (·.addr) := by
        by_contra unknown
        have none := findByAddr_eq_none.mpr unknown
        rw [Endpoint.address, found] at none
        cases none
      exact ⟨_, rfl, soFar.addSlot known slot⟩
  | none =>
      have unknown := findByAddr_eq_none.mp found
      let created (replicas : List (ReplicaNode Con)) : ValkeyClusterNode Con :=
        { node_get_with_slots (base + nodes.length) (primary.endpoint.resolve connected)
            primary.endpoint.port with replicas := replicas }
      have added (replicas : List (ReplicaNode Con))
          (same : addReplicas = true → SameReplicas connected primary (created replicas)) :
          SlotsSoFar connected addReplicas topology (done ++ [(primary, slot)])
            (addSlot (nodes ++ [created replicas]) (primary.endpoint.address connected) slot) := by
        have appended := soFar.append member unknown ⟨rfl, rfl, rfl, rfl⟩ same rfl
        refine appended.addSlot ?_ slot
        rw [List.map_append]
        exact List.mem_append_right _ (List.mem_singleton_self _)
      cases addReplicas with
      | false => exact ⟨_, rfl, added [] fun impossible => nomatch impossible⟩
      | true =>
          refine ⟨_, ?_, added parsedReplicas fun _ => ?_⟩
          · simp only [entryReplicas, List.drop_succ_cons, List.drop_zero, if_true, parsed]
            rfl
          · have addresses := perm.map (Endpoint.address connected)
            rw [List.map_map] at addresses
            rw [SameReplicas, addrs]
            exact addresses

/-- All entries. -/
theorem parseSlotsEntries_renders (wellFormed : topology.WellFormed connected) (base : Nat)
    {ranges : List (TopologyNode × ClusterSlot)} {entries : List ReplyTree}
    (owned : ∀ range ∈ ranges, range.1 ∈ topology ∧ range.2 ∈ range.1.slots)
    (renders : List.Forall₂ (fun range entry => RendersRange range.1 range.2 entry) ranges entries)
    (soFar : SlotsSoFar connected addReplicas topology done nodes) :
    ∃ final, parseSlotsEntries addReplicas connected base nodes entries = .ok final ∧
      SlotsSoFar connected addReplicas topology (done ++ ranges) final := by
  induction renders generalizing done nodes with
  | nil => exact ⟨nodes, rfl, by rwa [List.append_nil]⟩
  | @cons range entry ranges entries first _ induction =>
      obtain ⟨member, inSlots⟩ := owned range List.mem_cons_self
      obtain ⟨next, parsed, nextSoFar⟩ :=
        parseSlotsEntry_renders wellFormed base soFar member inSlots first
      obtain ⟨final, rest, finalSoFar⟩ :=
        induction (fun other inRest => owned other (List.mem_cons_of_mem _ inRest)) nextSoFar
      refine ⟨final, ?_, by rwa [List.append_cons]⟩
      rw [parseSlotsEntries, parsed]
      exact rest

theorem Topology.claims_eq (topology : Topology) (connected : Bytes) :
    topology.claims connected =
      topology.entries.map fun range => (range.1.endpoint.address connected, range.2) := by
  rw [Topology.claims, Topology.entries, List.map_flatMap]
  simp only [List.map_map, Function.comp_def]

theorem Topology.mem_entries {range : TopologyNode × ClusterSlot} :
    range ∈ topology.entries ↔ range.1 ∈ topology ∧ range.2 ∈ range.1.slots := by
  obtain ⟨primary, slot⟩ := range
  simp [Topology.entries]

/-- `parse_cluster_slots` finds the topology in the reply. -/
theorem parse_cluster_slots_renders (wellFormed : topology.WellFormed connected) (base : Nat)
    {reply : ReplyTree} (renders : RendersSlots topology reply) :
    ∃ nodes : List (ValkeyClusterNode Con),
      parse_cluster_slots addReplicas connected base reply = .ok nodes ∧
      Describes addReplicas connected topology nodes := by
  obtain ⟨ranges, entries, perm, rfl, rendered⟩ := renders
  have owned : ∀ range ∈ ranges, range.1 ∈ topology ∧ range.2 ∈ range.1.slots := fun range member =>
    Topology.mem_entries.mp (perm.mem_iff.mp member)
  have start : SlotsSoFar connected addReplicas topology [] ([] : List (ValkeyClusterNode Con)) :=
    ⟨.refl _, List.nodup_nil, fun _ member => absurd member List.not_mem_nil⟩
  obtain ⟨nodes, parsed, soFar⟩ := parseSlotsEntries_renders wellFormed base owned rendered start
  refine ⟨nodes, ?_, ?_, soFar.nodes⟩
  · cases entries with
    | nil =>
        obtain rfl := List.forall₂_nil_right_iff.mp rendered
        have empty := perm.symm.eq_nil
        refine absurd ?_ wellFormed.served
        rw [Topology.entries, List.flatMap_eq_nil_iff] at empty
        rw [Topology.ranges, List.flatMap_eq_nil_iff]
        exact fun node member => List.map_eq_nil_iff.mp (empty node member)
    | cons entry rest => exact parsed
  · rw [Topology.claims_eq]
    exact soFar.claims.trans (perm.map _)

end Slots

end Libvalkey
