import Libvalkey.Cluster.SlotMap
import Libvalkey.Foundation.Checked

/-! # New nodes

The nodes that a parsed reply gives are new and have different addresses, and the
table that is made of them refers to them only. -/

namespace Libvalkey

open Checked

variable {Con : Type}

/-- Replicas without connections. -/
def Unconnected (replicas : List (ReplicaNode Con)) : Prop :=
  ∀ replica ∈ replicas, replica.con = none ∧ replica.acon = none

/-- A node without connections, and without asynchronous ones. -/
structure ValkeyClusterNode.Unconnected (node : ValkeyClusterNode Con) : Prop where
  con : node.con = none
  acon : node.acon = none
  replicas : Libvalkey.Unconnected node.replicas

theorem ValkeyClusterNode.Unconnected.connections {node : ValkeyClusterNode Con}
    (unconnected : node.Unconnected) : node.connections = [] := by
  have none : node.replicas.filterMap (·.con) = [] :=
    List.filterMap_eq_nil_iff.mpr fun replica member => (unconnected.replicas replica member).1
  simp [ValkeyClusterNode.connections, unconnected.con, none]

/-- Nodes that are named from `base` on, without connections. -/
structure NewNodes (base : Nat) (nodes : List (ValkeyClusterNode Con)) : Prop where
  names : nodes.map (·.id) = List.range' base nodes.length
  addrs : (nodes.map (·.addr)).Nodup
  unconnected : ∀ node ∈ nodes, node.Unconnected

namespace NewNodes

variable {base : Nat} {nodes : List (ValkeyClusterNode Con)}

theorem nil : NewNodes base ([] : List (ValkeyClusterNode Con)) :=
  ⟨rfl, List.nodup_nil, fun _ member => nomatch member⟩

/-- A change of other data. -/
theorem of_same {next : List (ValkeyClusterNode Con)} (new : NewNodes base nodes)
    (names : next.map (·.id) = nodes.map (·.id)) (addrs : next.map (·.addr) = nodes.map (·.addr))
    (unconnected : ∀ node ∈ next, node.Unconnected) : NewNodes base next where
  names := by
    have length := congrArg List.length names
    simp only [List.length_map] at length
    rw [names, new.names, length]
  addrs := addrs ▸ new.addrs
  unconnected := unconnected

theorem addSlot (new : NewNodes base nodes) (addr : Bytes) (slot : ClusterSlot) :
    NewNodes base (addSlot nodes addr slot) := by
  refine new.of_same ?_ ?_ fun node member => ?_
  · simp only [Libvalkey.addSlot, List.map_map]
    refine List.map_congr_left fun node _ => ?_
    dsimp only [Function.comp]
    split <;> rfl
  · simp only [Libvalkey.addSlot, List.map_map]
    refine List.map_congr_left fun node _ => ?_
    dsimp only [Function.comp]
    split <;> rfl
  · obtain ⟨old, inNodes, rfl⟩ := List.mem_map.mp member
    have unconnected := new.unconnected old inNodes
    split
    · exact ⟨unconnected.con, unconnected.acon, unconnected.replicas⟩
    · exact unconnected

theorem append (new : NewNodes base nodes) {node : ValkeyClusterNode Con}
    (name : node.id = base + nodes.length) (unknown : findByAddr nodes node.addr = none)
    (unconnected : node.Unconnected) : NewNodes base (nodes ++ [node]) where
  names := by
    rw [List.map_append, new.names, List.map_singleton, name, List.length_append,
      List.length_singleton, List.range'_concat, Nat.one_mul]
  addrs := by
    rw [List.map_append, List.map_singleton, List.nodup_append]
    refine ⟨new.addrs, by simp, fun addr member other new same => ?_⟩
    obtain ⟨old, inNodes, rfl⟩ := List.mem_map.mp member
    rw [List.mem_singleton.mp new] at same
    simpa [same] using List.find?_eq_none.mp unknown old inNodes
  unconnected := by
    intro other member
    rcases List.mem_append.mp member with old | last
    · exact new.unconnected other old
    · rw [List.mem_singleton.mp last]
      exact unconnected

end NewNodes

section Parsing

variable {base : Nat} {nodes : List (ValkeyClusterNode Con)} (addReplicas : Bool) (host : Bytes)

/-- Any text may be the text of an error. -/
abbrev Parses (computation : Except String α) (post : α → Prop) : Prop :=
  Ensures computation (fun _ => True) post

theorem parses_trivial {α : Type} (computation : Except String α) :
    Parses computation fun _ => True := by
  cases computation <;> trivial

theorem parses_replicas (entries : List ReplyTree) :
    Parses (α := List (ReplicaNode Con)) (parseReplicas host entries) Unconnected := by
  induction entries with
  | nil => exact fun _ member => nomatch member
  | cons entry rest induction =>
      refine (parses_trivial _).bind fun address _ => induction.bind fun replicas unconnected => ?_
      intro replica member
      rcases List.mem_cons.mp member with rfl | inRest
      · exact ⟨rfl, rfl⟩
      · exact unconnected replica inRest

theorem parses_entryReplicas (elements : List ReplyTree) :
    Parses (α := List (ReplicaNode Con)) (entryReplicas addReplicas host elements)
      Unconnected := by
  unfold entryReplicas
  split
  · exact parses_replicas host _
  · exact fun _ member => nomatch member

theorem parses_slotsEntry (new : NewNodes base nodes) (entry : ReplyTree) :
    Parses (parseSlotsEntry addReplicas host base nodes entry) (NewNodes base) := by
  unfold parseSlotsEntry
  split
  · split
    · trivial
    refine (parses_trivial _).bind fun slot _ => (parses_trivial _).bind fun primary _ => ?_
    dsimp only
    split
    · exact new.addSlot _ _
    · rename_i unknown
      refine (parses_entryReplicas addReplicas host _).bind fun replicas unconnected => ?_
      exact (new.append rfl unknown ⟨rfl, rfl, unconnected⟩).addSlot _ _
  · trivial

theorem parses_slotsEntries (new : NewNodes base nodes) (entries : List ReplyTree) :
    Parses (parseSlotsEntries addReplicas host base nodes entries) (NewNodes base) := by
  induction entries generalizing nodes with
  | nil => exact new
  | cons entry rest induction =>
      exact (parses_slotsEntry addReplicas host new entry).bind fun _ next => induction next

theorem parses_cluster_slots (reply : ReplyTree) :
    Parses (α := List (ValkeyClusterNode Con)) (parse_cluster_slots addReplicas host base reply)
      (NewNodes base) := by
  unfold parse_cluster_slots
  split
  · trivial
  · exact parses_slotsEntries addReplicas host .nil _
  · trivial

theorem parses_cluster_nodes_line (id : Nat) (line : Bytes) :
    Parses (α := ParsedLine Con) (parse_cluster_nodes_line addReplicas host id line) fun parsed =>
      (∀ node, parsed = .primary node → node.id = id ∧ node.Unconnected) ∧
        ∀ primaryId replica, parsed = .replica primaryId replica →
          replica.con = none ∧ replica.acon = none := by
  unfold parse_cluster_nodes_line
  dsimp only
  split
  · trivial
  split
  · exact ⟨fun _ equal => (nomatch equal), fun _ _ equal => nomatch equal⟩
  · trivial
  · split
    · exact ⟨fun _ equal => (nomatch equal), fun _ _ equal => nomatch equal⟩
    · refine (parses_trivial _).bind fun _ _ =>
        ⟨fun _ equal => (nomatch equal), fun _ replica equal => ?_⟩
      obtain rfl := (ParsedLine.replica.inj equal).2
      exact ⟨rfl, rfl⟩
  · refine (parses_trivial _).bind fun _ _ =>
      ⟨fun node equal => ?_, fun _ _ equal => nomatch equal⟩
    obtain rfl := ParsedLine.primary.inj equal
    exact ⟨rfl, rfl, rfl, fun _ member => nomatch member⟩

theorem parses_nodesLines (new : NewNodes base nodes) {replicas : List (Bytes × ReplicaNode Con)}
    (unconnected : Unconnected (replicas.map (·.2))) (lines : List Bytes) :
    Parses (parseNodesLines addReplicas host base nodes replicas lines) fun parsed =>
      NewNodes base parsed.1 ∧ Unconnected (parsed.2.map (·.2)) := by
  induction lines generalizing nodes replicas with
  | nil => exact ⟨new, unconnected⟩
  | cons line rest induction =>
      refine (parses_cluster_nodes_line addReplicas host _ line).bind
        fun parsed ⟨primary, ofReplica⟩ => ?_
      cases parsed with
      | skipped => exact induction new unconnected
      | replica primaryId replica =>
          refine induction new fun other member => ?_
          rw [List.map_append] at member
          rcases List.mem_append.mp member with old | last
          · exact unconnected other old
          · obtain rfl := List.mem_singleton.mp last
            exact ofReplica primaryId _ rfl
      | primary node =>
          obtain ⟨name, nodeUnconnected⟩ := primary node rfl
          dsimp only
          split
          · trivial
          · rename_i unknown
            exact induction (new.append name (by simpa using unknown) nodeUnconnected) unconnected

theorem map_store_replica_nodes {α : Type} (data : ValkeyClusterNode Con → α)
    (apart : ∀ node replicas, data { node with replicas := replicas } = data node)
    (replicas : List (Bytes × ReplicaNode Con)) :
    (store_replica_nodes replicas nodes).map data = nodes.map data := by
  induction nodes generalizing replicas with
  | nil => rfl
  | cons node rest induction =>
      rw [store_replica_nodes, List.map_cons, List.map_cons, apart, induction]

theorem unconnected_store_replica_nodes {replicas : List (Bytes × ReplicaNode Con)}
    (unconnected : Unconnected (replicas.map (·.2))) :
    ∀ node ∈ store_replica_nodes replicas nodes, Unconnected node.replicas := by
  induction nodes generalizing replicas with
  | nil => exact fun _ member => nomatch member
  | cons node rest induction =>
      have kept : ∀ {test : Bytes × ReplicaNode Con → Bool},
          Unconnected ((replicas.filter test).map (·.2)) := by
        intro test replica member
        obtain ⟨entry, inFiltered, rfl⟩ := List.mem_map.mp member
        exact unconnected _ (List.mem_map_of_mem (List.mem_filter.mp inFiltered).1)
      intro other member
      rcases List.mem_cons.mp member with rfl | inRest
      · exact kept
      · exact induction kept other inRest

theorem NewNodes.store_replica_nodes (new : NewNodes base nodes)
    {replicas : List (Bytes × ReplicaNode Con)} (unconnected : Unconnected (replicas.map (·.2))) :
    NewNodes base (store_replica_nodes replicas nodes) := by
  refine new.of_same (map_store_replica_nodes _ (fun _ _ => rfl) replicas)
    (map_store_replica_nodes _ (fun _ _ => rfl) replicas) fun node member => ?_
  have same : (Libvalkey.store_replica_nodes replicas nodes).map
      (fun node => (node.con, node.acon)) =
      nodes.map fun node => (node.con, node.acon) :=
    map_store_replica_nodes _ (fun _ _ => rfl) replicas
  have connections := List.mem_map_of_mem (f := fun node => (node.con, node.acon)) member
  rw [same] at connections
  obtain ⟨old, inNodes, equal⟩ := List.mem_map.mp connections
  obtain ⟨con, acon⟩ := Prod.mk.inj equal
  have none := new.unconnected old inNodes
  exact ⟨con ▸ none.con, acon ▸ none.acon, unconnected_store_replica_nodes unconnected node member⟩

theorem parses_nodesText (text : Bytes) :
    Parses (α := List (ValkeyClusterNode Con)) (parseNodesText addReplicas host base text)
      (NewNodes base) := by
  refine (parses_nodesLines addReplicas host .nil
    (fun _ member => absurd member List.not_mem_nil) _).bind
    fun parsed ⟨new, unconnected⟩ => ?_
  dsimp only
  split
  · trivial
  · exact new.store_replica_nodes unconnected

theorem parses_cluster_nodes (reply : ReplyTree) :
    Parses (α := List (ValkeyClusterNode Con)) (parse_cluster_nodes addReplicas host base reply)
      (NewNodes base) := by
  unfold parse_cluster_nodes
  split
  · exact parses_nodesText addReplicas host _
  · exact parses_nodesText addReplicas host _
  · trivial

/-! ### Empty dictionaries -/

theorem filled_slotsEntry (entry : ReplyTree) :
    Parses (parseSlotsEntry addReplicas host base nodes entry) fun next => next ≠ [] := by
  unfold parseSlotsEntry
  split
  · split
    · trivial
    apply (parses_trivial _).bind
    intro slot _
    apply (parses_trivial _).bind
    intro primary _
    dsimp only
    split
    · rename_i known found
      intro empty
      rw [List.map_eq_nil_iff.mp empty] at found
      cases found
    · apply (parses_trivial _).bind
      intro replicas _
      simp [Libvalkey.addSlot]
  · trivial

theorem filled_slotsEntries (filled : nodes ≠ []) (entries : List ReplyTree) :
    Parses (parseSlotsEntries addReplicas host base nodes entries) fun next => next ≠ [] := by
  induction entries generalizing nodes with
  | nil => exact filled
  | cons entry rest induction =>
      apply (filled_slotsEntry addReplicas host entry).bind
      exact fun _ next => induction next

/-- A reply without a node is refused. -/
theorem filled_cluster_slots (reply : ReplyTree) :
    Parses (α := List (ValkeyClusterNode Con)) (parse_cluster_slots addReplicas host base reply)
      fun nodes => nodes ≠ [] := by
  unfold parse_cluster_slots
  split
  · trivial
  · rename_i entries some
    cases entries with
    | nil => exact absurd rfl (some)
    | cons entry rest =>
        apply (filled_slotsEntry addReplicas host entry).bind
        exact fun _ next => filled_slotsEntries addReplicas host next rest
  · trivial

theorem filled_cluster_nodes (reply : ReplyTree) :
    Parses (α := List (ValkeyClusterNode Con)) (parse_cluster_nodes addReplicas host base reply)
      fun nodes => nodes ≠ [] := by
  have ofText (text : Bytes) : Parses (α := List (ValkeyClusterNode Con))
      (parseNodesText addReplicas host base text) fun nodes => nodes ≠ [] := by
    apply (parses_trivial _).bind
    intro parsed _
    dsimp only
    split
    · trivial
    · rename_i slots
      intro empty
      have same := @map_store_replica_nodes Con parsed.1 _ (fun node => node.id) (fun _ _ => rfl)
        parsed.2
      rw [empty, List.map_nil] at same
      rw [List.map_eq_nil_iff.mp same.symm] at slots
      exact slots rfl
  unfold parse_cluster_nodes
  split
  · exact ofText _
  · exact ofText _
  · trivial

end Parsing

/-! ## The table -/

section Table

variable {id : Nat} {table : List (Option Nat)}

/-- The table refers to the nodes with the given names. -/
def RefersTo (names : List Nat) (table : List (Option Nat)) : Prop :=
  ∀ node, some node ∈ table → node ∈ names

theorem RefersTo.set {names : List Nat} (refers : RefersTo names table) (named : id ∈ names)
    (slot : Nat) : RefersTo names (table.set slot (some id)) := by
  intro node member
  rcases List.mem_or_eq_of_mem_set member with old | new
  · exact refers node old
  · exact (Option.some.inj new) ▸ named

theorem parses_fillRange {names : List Nat} (refers : RefersTo names table) (named : id ∈ names)
    (slot count : Nat) : Parses (fillRange id table slot count) (RefersTo names) := by
  induction count generalizing table slot with
  | zero => exact refers
  | succ count induction =>
      rw [fillRange]
      split
      · trivial
      · exact induction (refers.set named slot) (slot + 1)

theorem parses_fillSlots {names : List Nat} (refers : RefersTo names table) (named : id ∈ names)
    (slots : List ClusterSlot) : Parses (fillSlots id table slots) (RefersTo names) := by
  induction slots generalizing table with
  | nil => exact refers
  | cons slot rest induction =>
      rw [fillSlots]
      split
      · trivial
      · exact (parses_fillRange refers named _ _).bind fun _ next => induction next

theorem parses_fillNodes {names : List Nat} (refers : RefersTo names table)
    (nodes : List (ValkeyClusterNode Con)) (named : ∀ node ∈ nodes, node.id ∈ names) :
    Parses (fillNodes table nodes) (RefersTo names) := by
  induction nodes generalizing table with
  | nil => exact refers
  | cons node rest induction =>
      rw [fillNodes]
      split
      · trivial
      · exact (parses_fillSlots refers (named node List.mem_cons_self) _).bind fun _ next =>
          induction next fun other member => named other (List.mem_cons_of_mem _ member)

theorem parses_createTable (order : IterationOrder) (nodes : List (ValkeyClusterNode Con)) :
    Parses (createTable order nodes) (RefersTo (nodes.map (·.id))) := by
  refine parses_fillNodes (fun node member => ?_) _ fun node member => ?_
  · exact nomatch (List.eq_of_mem_replicate member)
  · exact List.mem_map_of_mem ((order.perm nodes).mem_iff.mp member)

end Table

end Libvalkey
