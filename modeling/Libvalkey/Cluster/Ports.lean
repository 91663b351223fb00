import Libvalkey.Cluster.NewNodes

/-! # Ports

Every node has a port: an address without a usable one is refused wherever it is
parsed. -/

namespace Libvalkey

open Checked

variable {Con : Type}

/-- Every node has a port. -/
def HavePorts (nodes : List (ValkeyClusterNode Con)) : Prop := ∀ node ∈ nodes, 0 < node.port

theorem port_pos {port : Int} (inRange : portInRange port = true) : 0 < port := by
  simp only [portInRange, Bool.and_eq_true, decide_eq_true_eq] at inRange
  omega

theorem HavePorts.of_ports {nodes next : List (ValkeyClusterNode Con)} (ports : HavePorts nodes)
    (same : next.map (·.port) = nodes.map (·.port)) : HavePorts next := by
  intro node member
  have inPorts := List.mem_map_of_mem (f := fun node : ValkeyClusterNode Con => node.port) member
  rw [same] at inPorts
  obtain ⟨old, inNodes, equal⟩ := List.mem_map.mp inPorts
  exact equal ▸ ports old inNodes

theorem HavePorts.append {nodes : List (ValkeyClusterNode Con)} (ports : HavePorts nodes)
    {node : ValkeyClusterNode Con} (port : 0 < node.port) : HavePorts (nodes ++ [node]) := by
  intro other member
  rcases List.mem_append.mp member with old | last
  · exact ports other old
  · exact List.mem_singleton.mp last ▸ port

theorem HavePorts.addSlot {nodes : List (ValkeyClusterNode Con)} (ports : HavePorts nodes)
    (addr : Bytes) (slot : ClusterSlot) : HavePorts (addSlot nodes addr slot) := by
  refine ports.of_ports ?_
  rw [Libvalkey.addSlot, List.map_map]
  refine List.map_congr_left fun node _ => ?_
  dsimp only [Function.comp]
  split <;> rfl

section Parsing

variable (addReplicas : Bool) (host : Bytes) (base : Nat)

theorem port_slotsNodeEntry (entry : ReplyTree) :
    Parses (parseClusterSlotsNodeEntry host entry) fun address => 0 < address.2 := by
  have checked : ∀ (host : Bytes) (port : ReplyTree),
      Parses (parseClusterSlotsNodeEntry.checkPort host port) fun address => 0 < address.2 := by
    intro host port
    unfold parseClusterSlotsNodeEntry.checkPort
    split
    · split
      · rename_i inRange
        exact port_pos inRange
      · trivial
    · trivial
  unfold parseClusterSlotsNodeEntry
  split
  · split
    · exact checked _ _
    · exact checked _ _
    · trivial
  · trivial

theorem ports_slotsEntry {nodes : List (ValkeyClusterNode Con)} (ports : HavePorts nodes)
    (entry : ReplyTree) :
    Parses (parseSlotsEntry addReplicas host base nodes entry) HavePorts := by
  unfold parseSlotsEntry
  split
  · split
    · trivial
    refine (parses_trivial _).bind fun slot _ =>
      (port_slotsNodeEntry host _).bind fun address port => ?_
    dsimp only
    split
    · exact ports.addSlot _ _
    · exact (parses_trivial _).bind fun replicas _ => (ports.append port).addSlot _ _
  · trivial

theorem ports_slotsEntries {nodes : List (ValkeyClusterNode Con)} (ports : HavePorts nodes)
    (entries : List ReplyTree) :
    Parses (parseSlotsEntries addReplicas host base nodes entries) HavePorts := by
  induction entries generalizing nodes with
  | nil => exact ports
  | cons entry rest induction =>
      exact (ports_slotsEntry addReplicas host base ports entry).bind fun _ next => induction next

theorem ports_cluster_slots (reply : ReplyTree) :
    Parses (α := List (ValkeyClusterNode Con)) (parse_cluster_slots addReplicas host base reply)
      HavePorts := by
  unfold parse_cluster_slots
  split
  · trivial
  · exact ports_slotsEntries addReplicas host base
      (fun _ member => absurd member List.not_mem_nil) _
  · trivial

theorem port_address (field : Bytes) :
    Parses (parseAddress host field) fun address => 0 < address.2.2 := by
  unfold parseAddress
  dsimp only
  split
  · trivial
  split
  · trivial
  · rename_i inRange
    split
    · exact port_pos (by simpa using inRange)
    · exact port_pos (by simpa using inRange)

theorem port_nodes_line (line : Bytes) :
    Parses (α := ParsedLine Con) (parse_cluster_nodes_line addReplicas host base line)
      fun parsed => ∀ node, parsed = .primary node → 0 < node.port := by
  unfold parse_cluster_nodes_line
  dsimp only
  split
  · trivial
  split
  · exact fun _ equal => nomatch equal
  · trivial
  · split
    · exact fun _ equal => nomatch equal
    · exact (parses_trivial _).bind fun _ _ _ equal => nomatch equal
  · refine (port_address host _).bind fun address port node equal => ?_
    obtain rfl := ParsedLine.primary.inj equal
    exact port

theorem ports_nodesLines {nodes : List (ValkeyClusterNode Con)} (ports : HavePorts nodes)
    (replicas : List (Bytes × ReplicaNode Con)) (lines : List Bytes) :
    Parses (parseNodesLines addReplicas host base nodes replicas lines) fun parsed =>
      HavePorts parsed.1 := by
  induction lines generalizing nodes replicas with
  | nil => exact ports
  | cons line rest induction =>
      refine (port_nodes_line addReplicas host _ line).bind fun parsed port => ?_
      cases parsed with
      | skipped => exact induction ports replicas
      | replica primaryId replica => exact induction ports _
      | primary node =>
          dsimp only
          split
          · trivial
          · exact induction (ports.append (port node rfl)) replicas

theorem ports_cluster_nodes (reply : ReplyTree) :
    Parses (α := List (ValkeyClusterNode Con)) (parse_cluster_nodes addReplicas host base reply)
      HavePorts := by
  have ofText : ∀ text, Parses (α := List (ValkeyClusterNode Con))
      (parseNodesText addReplicas host base text) HavePorts := by
    intro text
    refine (ports_nodesLines addReplicas host base
      (fun _ member => absurd member List.not_mem_nil) [] _).bind
      fun parsed ports => ?_
    dsimp only
    split
    · trivial
    · exact ports.of_ports (map_store_replica_nodes _ (fun _ _ => rfl) _)
  unfold parse_cluster_nodes
  split
  · exact ofText _
  · exact ofText _
  · trivial

theorem port_redirect (str : Bytes) :
    Parses (parseRedirect host str) fun redirect => 0 < redirect.port := by
  unfold parseRedirect
  split
  · trivial
  split
  · trivial
  dsimp only
  split
  · trivial
  · rename_i inRange
    split
    · exact port_pos (by simpa using inRange)
    · exact port_pos (by simpa using inRange)

end Parsing

end Libvalkey
