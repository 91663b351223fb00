import Libvalkey.Cluster.Contexts
import Libvalkey.ClusterAsync.Turns
import Libvalkey.Foundation.Links

/-! # Nodes and their asynchronous contexts

A node refers to its context, and the context to its node. Everything that the client does
keeps both links together, also while nodes are replaced and freed. -/

namespace Libvalkey

open Checked

variable {Fn Data : Type}

/-! ## Nodes -/

/-- The number of the node, or of the primary of the replica. -/
def Addressee.id : Addressee → Nat
  | .primary node => node
  | .replica node _ => node

/-- A node with the context that it refers to. -/
def Owner.link (owner : Owner) : Addressee × Option Nat := (owner.node, owner.acon)

/-- A context with the node that it refers to. -/
def Connection.link (ac : Connection) : Nat × Option Addressee := (ac.id, ac.data)

section Owners

variable {nodes : List (ValkeyClusterNode ValkeyContext)}

theorem map_mapIdx {α β γ : Type} (f : Nat → α → β) (g : β → γ) (list : List α) :
    (list.mapIdx f).map g = list.mapIdx fun index value => g (f index value) := by
  simp only [List.mapIdx_eq_zipIdx_map, List.map_map, Function.comp_def]

theorem ownersOf_changeAcons (change : Owner → Option Nat)
    (node : ValkeyClusterNode ValkeyContext) :
    ownersOf (changeAcons change node) =
      (ownersOf node).map fun owner => { owner with acon := change owner } := by
  simp only [ownersOf, changeAcons, List.mapIdx_mapIdx, List.map_cons, map_mapIdx]
  rfl

theorem owners_changeAcons (change : Owner → Option Nat)
    (nodes : List (ValkeyClusterNode ValkeyContext)) :
    owners (nodes.map (changeAcons change)) =
      (owners nodes).map fun owner => { owner with acon := change owner } := by
  simp only [owners, List.flatMap_map, List.map_flatMap, ownersOf_changeAcons]

theorem id_ownersOf {node : ValkeyClusterNode ValkeyContext} {owner : Owner}
    (member : owner ∈ ownersOf node) : owner.node.id = node.id := by
  rcases List.mem_cons.mp member with rfl | replica
  · rfl
  · obtain ⟨index, inside, rfl⟩ := List.mem_mapIdx.mp replica
    rfl

theorem id_owners {owner : Owner} (member : owner ∈ owners nodes) :
    owner.node.id ∈ nodes.map (·.id) := by
  obtain ⟨node, inNodes, own⟩ := List.mem_flatMap.mp member
  exact List.mem_map.mpr ⟨node, inNodes, (id_ownersOf own).symm⟩

theorem nodup_ownersOf (node : ValkeyClusterNode ValkeyContext) :
    ((ownersOf node).map (·.node)).Nodup := by
  rw [ownersOf, List.map_cons, map_mapIdx]
  refine List.nodup_cons.mpr ⟨fun member => ?_, ?_⟩
  · obtain ⟨index, inside, impossible⟩ := List.mem_mapIdx.mp member
    cases impossible
  · apply List.pairwise_iff_getElem.mpr
    intro i j iInside jInside earlier same
    rw [List.getElem_mapIdx, List.getElem_mapIdx] at same
    exact absurd (Addressee.replica.inj same).2 earlier.ne

theorem nodup_owners (names : (nodes.map (·.id)).Nodup) :
    ((owners nodes).map (·.node)).Nodup := by
  induction nodes with
  | nil => exact List.nodup_nil
  | cons node rest induction =>
      obtain ⟨new, names⟩ := List.nodup_cons.mp names
      rw [owners, List.flatMap_cons, List.map_append]
      refine List.nodup_append.mpr ⟨nodup_ownersOf node, induction names, ?_⟩
      rintro _ here other there rfl
      obtain ⟨own, ownMember, rfl⟩ := List.mem_map.mp here
      obtain ⟨later, laterMember, same⟩ := List.mem_map.mp there
      have inside := id_owners laterMember
      rw [same, id_ownersOf ownMember] at inside
      exact new inside

end Owners

/-! ## The invariant -/

namespace ValkeyClusterAsyncContext

/-- The nodes of the client and those that wait to be freed, with their contexts. -/
def nodeLinks (acc : ValkeyClusterAsyncContext Fn Data) : List (Addressee × Option Nat) :=
  acc.allOwners.map Owner.link

def contextLinks (acc : ValkeyClusterAsyncContext Fn Data) : List (Nat × Option Addressee) :=
  acc.connections.map Connection.link

end ValkeyClusterAsyncContext

open ValkeyClusterAsyncContext

/-- The links are held on both sides, and later nodes and contexts are new. -/
structure Bonded (acc : ValkeyClusterAsyncContext Fn Data) : Prop where
  wellFormed : acc.cc.WellFormed
  linked : Links.Linked acc.nodeLinks acc.contextLinks
  nodes_lt : ∀ owner ∈ acc.allOwners, owner.node.id < acc.cc.nextNode
  connections_lt : ∀ ac ∈ acc.connections, ac.id < acc.nextConnection

theorem Bonded.names_nodup {acc : ValkeyClusterAsyncContext Fn Data}
    (bonded : Bonded acc) : (acc.connections.map Connection.id).Nodup := by
  have names := bonded.linked.rightNames
  rw [contextLinks, List.map_map] at names
  exact names

variable {world : World} {acc next : ValkeyClusterAsyncContext Fn Data}

theorem nodeLinks_setAcon (target : Addressee) (acon : Option Nat) :
    (acc.setAcon target acon).nodeLinks = Links.assign target acon acc.nodeLinks := by
  simp only [nodeLinks, allOwners, setAcon, owners_changeAcons, List.map_append, List.map_map,
    Links.assign]
  rfl

theorem nodeLinks_unlinked_owner {node : Addressee} {acon : Option Nat}
    (holder : ⟨node, acon⟩ ∈ owners acc.cc.nodes) : (node, acon) ∈ acc.nodeLinks :=
  List.mem_map.mpr ⟨⟨node, acon⟩, List.mem_append_left _ holder, rfl⟩

theorem found_connection {c : Nat} {ac : Connection} (found : acc.connection c = .ok ac) :
    ac ∈ acc.connections ∧ ac.id = c := by
  unfold connection at found
  split at found
  · rename_i known
    cases found
    exact ⟨List.mem_of_find?_eq_some known, by simpa using List.find?_some known⟩
  · cases found

/-- The state of a connection has nothing to do with its link. -/
theorem Bonded.put (bonded : Bonded acc) {c : Nat} {ac changed : Connection}
    (found : acc.connection c = .ok ac) (same : changed.link = ac.link) :
    Bonded (acc.putConnection changed) := by
  obtain ⟨member, rfl⟩ := found_connection found
  obtain ⟨id, data⟩ := Prod.mk.inj same
  have links : (acc.putConnection changed).contextLinks = acc.contextLinks := by
    unfold contextLinks putConnection
    rw [List.map_map]
    apply List.map_congr_left
    intro other otherMember
    dsimp only [Function.comp]
    split
    · rename_i named
      have equal : other = ac :=
        List.inj_on_of_nodup_map (f := Connection.id)
          bonded.names_nodup otherMember member (named.trans id)
      rw [equal, same]
    · rfl
  refine ⟨bonded.wellFormed, ?_, bonded.nodes_lt, ?_⟩
  · rw [links]
    exact bonded.linked
  · intro other otherMember
    obtain ⟨old, oldMember, rfl⟩ := List.mem_map.mp otherMember
    split
    · exact id ▸ bonded.connections_lt ac member
    · exact bonded.connections_lt old oldMember

theorem appended_link {ac appended : Connection} {fn : Option ClusterFn} {data : ClusterData}
    {cmd : Bytes} {status : Status} (accepted : ac.append fn data cmd = (status, appended)) :
    appended.link = ac.link := by
  have same := congrArg Prod.snd accepted
  dsimp only at same
  rw [← same]
  rfl

theorem connections_changeAcons (change : Owner → Option Nat)
    (node : ValkeyClusterNode ValkeyContext) :
    (changeAcons change node).connections = node.connections := by
  simp only [ValkeyClusterNode.connections, changeAcons]
  congr 1
  rw [List.mapIdx_eq_zipIdx_map, List.filterMap_map]
  conv_rhs => rw [← List.zipIdx_map_fst 0 node.replicas]
  rw [List.filterMap_map]
  rfl

theorem sameNames_setAcon (target : Addressee) (acon : Option Nat) :
    ValkeyClusterContext.SameNames acc.cc (acc.setAcon target acon).cc := by
  constructor
  · simp [setAcon, ValkeyClusterContext.nodeNames, changeAcons]
  · simp [setAcon, ValkeyClusterContext.addrs, changeAcons]
  · simp only [setAcon, ValkeyClusterContext.contextNames, ValkeyClusterContext.contexts,
      List.flatMap_map, connections_changeAcons]
  · rfl
  · rfl
  · rfl

theorem ids_setAcon {target : Addressee} {acon : Option Nat} {owner : Owner}
    (member : owner ∈ (acc.setAcon target acon).allOwners) :
    ∃ old ∈ acc.allOwners, old.node = owner.node := by
  have inside : owner.node ∈ (acc.setAcon target acon).nodeLinks.map Prod.fst :=
    List.mem_map_of_mem (f := Prod.fst) (List.mem_map_of_mem (f := Owner.link) member)
  rw [nodeLinks_setAcon, Links.names_assign, nodeLinks, List.map_map] at inside
  exact List.mem_map.mp inside

/-- A node gets another context, or none. -/
theorem Bonded.setAcon (bonded : Bonded acc) (target : Addressee) (acon : Option Nat)
    {connections : List Connection} {nextConnection : Nat}
    (linked : Links.Linked (Links.assign target acon acc.nodeLinks)
      (connections.map Connection.link))
    (connections_lt : ∀ ac ∈ connections, ac.id < nextConnection) :
    Bonded
      { acc.setAcon target acon with
        connections := connections, nextConnection := nextConnection } where
  wellFormed := bonded.wellFormed.of_sameNames (sameNames_setAcon target acon)
  linked := by
    have links := @nodeLinks_setAcon Fn Data acc target acon
    unfold nodeLinks allOwners at links ⊢
    dsimp only
    rw [links]
    exact linked
  nodes_lt owner member := by
    obtain ⟨old, oldMember, same⟩ := ids_setAcon member
    exact same ▸ bonded.nodes_lt old oldMember
  connections_lt := connections_lt

theorem openedConnection_id (node : Addressee) (host : Bytes) :
    (openedConnection acc node host).id = acc.nextConnection := by
  change (((newConnection acc host none).authenticate acc).2.selectDb acc).2.id = _
  rw [Connection.selectDb_id, Connection.authenticate_id]
  rfl

theorem Bonded.connect (bonded : Bonded acc) {node : Addressee} (host : Bytes)
    (single : ⟨node, none⟩ ∈ owners acc.cc.nodes) :
    Bonded
      { acc.setAcon node (some acc.nextConnection) with
        connections := acc.connections ++ [openedConnection acc node host]
        nextConnection := acc.nextConnection + 1 } := by
  have id := @openedConnection_id Fn Data acc node host
  apply bonded.setAcon
  · have new : acc.nextConnection ∉ acc.contextLinks.map Prod.fst := by
      intro member
      rw [contextLinks, List.map_map] at member
      obtain ⟨ac, inside, same⟩ := List.mem_map.mp member
      exact absurd same (bonded.connections_lt ac inside).ne
    have linked := ((bonded.linked.symm.add new).symm.connect (nodeLinks_unlinked_owner single))
    have link : (openedConnection acc node host).link = (acc.nextConnection, some node) := by
      rw [Connection.link, id]
      rfl
    rw [List.map_append, List.map_singleton, link]
    exact (linked.symm.perm (List.perm_append_singleton _ _)).symm
  · intro ac member
    rcases List.mem_append.mp member with old | new
    · exact Nat.lt_succ_of_lt (bonded.connections_lt ac old)
    · rw [List.mem_singleton.mp new, id]
      exact Nat.lt_succ_self _

theorem Bonded.addNode (bonded : Bonded acc) {redirect : Redirect}
    (unknown : findByAddr acc.cc.nodes redirect.key = none) :
    Bonded { acc with cc := acc.cc.addNode redirect } := by
  have added : ValkeyClusterAsyncContext.allOwners { acc with cc := acc.cc.addNode redirect } =
      owners acc.cc.nodes ++ ⟨.primary acc.cc.nextNode, none⟩ :: acc.retired := by
    simp [allOwners, ValkeyClusterContext.addNode, owners, ownersOf, redirectNode]
  refine ⟨wellFormed_addNode bonded.wellFormed unknown, ?_, ?_, bonded.connections_lt⟩
  · have new : Addressee.primary acc.cc.nextNode ∉ acc.nodeLinks.map Prod.fst := by
      intro member
      rw [nodeLinks, List.map_map] at member
      obtain ⟨owner, inside, same⟩ := List.mem_map.mp member
      have small := bonded.nodes_lt owner inside
      rw [show owner.node = .primary acc.cc.nextNode from same] at small
      exact absurd small (Nat.lt_irrefl _)
    apply (bonded.linked.add new).perm
    unfold nodeLinks
    rw [added, allOwners, List.map_append, List.map_append]
    exact List.perm_middle
  · intro owner member
    rw [added] at member
    rcases List.mem_append.mp member with old | rest
    · exact Nat.lt_succ_of_lt (bonded.nodes_lt owner (List.mem_append_left _ old))
    rcases List.mem_cons.mp rest with rfl | retired
    · exact Nat.lt_succ_self _
    · exact Nat.lt_succ_of_lt (bonded.nodes_lt owner (List.mem_append_right _ retired))

theorem updateSlot_fields {cc last : ValkeyClusterContext} {slot : Int} {node : Nat}
    (updated : updateSlot cc slot node = .ok last) :
    last.nodes = cc.nodes ∧ last.nextNode = cc.nextNode := by
  unfold updateSlot setTable at updated
  split at updated
  · split at updated
    · cases updated
    split at updated
    · cases updated
      exact ⟨rfl, rfl⟩
    · cases updated
  · cases updated
    exact ⟨rfl, rfl⟩

theorem wellFormed_updateSlot {cc last : ValkeyClusterContext} (wellFormed : cc.WellFormed)
    {slot : Int} {node : Nat} (known : node ∈ cc.nodeNames)
    (updated : updateSlot cc slot node = .ok last) : last.WellFormed := by
  have changes : Modifies (calmNetwork fun _ => .status []) cc last :=
    (modifies_updateSlot known).of_ok updated
  exact wellFormed.modifies changes

/-- Every change keeps the links. -/
theorem Bonded.change (bonded : Bonded acc) (change : Change acc next) : Bonded next := by
  cases change with
  | quiet calm err ticks draws =>
      have same : ValkeyClusterAsyncContext.allOwners
          { acc with cc := _, err := err, ticks := ticks, draws := draws } = acc.allOwners :=
        congrArg (· ++ acc.retired) calm.owners
      refine ⟨bonded.wellFormed.of_sameNames calm.names, ?_, ?_, bonded.connections_lt⟩
      · unfold nodeLinks
        rw [same]
        exact bonded.linked
      · rw [same]
        exact fun owner member => calm.names.nextNode ▸ bonded.nodes_lt owner member
  | number connections records =>
      exact ⟨bonded.wellFormed, bonded.linked, bonded.nodes_lt,
        fun ac member => (bonded.connections_lt ac member).trans_le connections⟩
  | stamp idle time =>
        exact ⟨bonded.wellFormed, bonded.linked, bonded.nodes_lt, bonded.connections_lt⟩
  | route known updated =>
      obtain ⟨nodes, nextNode⟩ := updateSlot_fields updated
      refine ⟨wellFormed_updateSlot bonded.wellFormed known updated, ?_, ?_,
        bonded.connections_lt⟩
      · unfold nodeLinks allOwners
        dsimp only
        rw [nodes]
        exact bonded.linked
      · unfold allOwners
        dsimp only
        rw [nodes, nextNode]
        exact bonded.nodes_lt
  | addNode unknown => exact bonded.addNode unknown
  | connect host single => exact bonded.connect host single
  | asking found accepted => exact bonded.put found (by rw [← appended_link accepted])
  | update useClusterNodes idle found accepted =>
      have put := bonded.put found (appended_link accepted)
      exact ⟨put.wellFormed, put.linked, put.nodes_lt, put.connections_lt⟩

theorem Bonded.works (bonded : Bonded acc) (works : Works acc next) : Bonded next := by
  induction works with
  | refl => exact bonded
  | tail _ change induction => exact induction.change change

/-! ## Nodes that are replaced -/

section Replaced

variable {old nodes : List (ValkeyClusterNode ValkeyContext)}

/-- The new node that takes over the context of an old one. -/
def taker (nodes : List (ValkeyClusterNode ValkeyContext)) (c : Nat) : Option Addressee :=
  (nodes.find? fun node => node.acon == some c).map fun node => .primary node.id

theorem link_relink (ac : Connection) :
    (relink nodes ac).link = (ac.id, (taker nodes ac.id).or ac.data) := by
  unfold relink taker
  cases nodes.find? fun node => node.acon == some ac.id with
  | none => rfl
  | some node => rfl

/-- A replica of a new node has no context. -/
theorem replica_acon (unconnected : ∀ node ∈ nodes, node.Unconnected)
    {node : ValkeyClusterNode ValkeyContext} (member : node ∈ cluster_nodes_swap_ctx old nodes) :
    ∀ replica ∈ node.replicas, replica.acon = none := by
  obtain ⟨new, inNodes, rfl⟩ := List.mem_map.mp member
  have none := (unconnected new inNodes).replicas
  split
  · exact fun replica inside => (none replica inside).2
  · exact fun replica inside => (none replica inside).2

/-- A new node has the context of the old one with its address. -/
theorem swapped_acon (unconnected : ∀ node ∈ nodes, node.Unconnected)
    {node : ValkeyClusterNode ValkeyContext} (member : node ∈ cluster_nodes_swap_ctx old nodes) :
    node.acon = (findByAddr old node.addr).bind (·.acon) := by
  obtain ⟨new, inNodes, rfl⟩ := List.mem_map.mp member
  have none := (unconnected new inNodes).acon
  cases found : findByAddr old new.addr with
  | none => simp only [found, Option.bind_none, none]
  | some oldNode => simp only [found, Option.bind_some, none, Option.or_none]

theorem mem_ownersOf_some {node : ValkeyClusterNode ValkeyContext} {a : Addressee} {c : Nat}
    (none : ∀ replica ∈ node.replicas, replica.acon = none) :
    ⟨a, some c⟩ ∈ ownersOf node ↔ a = .primary node.id ∧ node.acon = some c := by
  rw [ownersOf, List.mem_cons]
  constructor
  · rintro (same | replica)
    · obtain ⟨rfl, acon⟩ := Owner.mk.inj same
      exact ⟨rfl, acon.symm⟩
    · obtain ⟨index, inside, same⟩ := List.mem_mapIdx.mp replica
      have acon := (Owner.mk.inj same).2
      rw [none _ (List.getElem_mem inside)] at acon
      cases acon
  · rintro ⟨rfl, acon⟩
    exact .inl (by rw [acon])

theorem primary_mem_ownersOf {node : ValkeyClusterNode ValkeyContext} {c : Nat}
    (acon : node.acon = some c) : ⟨.primary node.id, some c⟩ ∈ ownersOf node := by
  rw [← acon]
  exact List.mem_cons_self

/-- The addresses of nodes with different addresses name them. -/
theorem findByAddr_self (addrs : (old.map (·.addr)).Nodup)
    {node : ValkeyClusterNode ValkeyContext} (member : node ∈ old) :
    findByAddr old node.addr = some node := by
  cases found : findByAddr old node.addr with
  | none => simpa using List.find?_eq_none.mp found node member
  | some other =>
      have same : other.addr = node.addr := by simpa using List.find?_some found
      rw [List.inj_on_of_nodup_map addrs (List.mem_of_find?_eq_some found) member same]

/-- A context that a new node holds was held by the old node with the same address. -/
theorem holder_taken (unconnected : ∀ node ∈ nodes, node.Unconnected)
    {new : ValkeyClusterNode ValkeyContext} {c : Nat}
    (member : new ∈ cluster_nodes_swap_ctx old nodes) (acon : new.acon = some c) :
    ∃ node ∈ old, node.addr = new.addr ∧ node.acon = some c := by
  rw [swapped_acon unconnected member] at acon
  obtain ⟨node, found, held⟩ := Option.bind_eq_some_iff.mp acon
  exact ⟨node, List.mem_of_find?_eq_some found, by simpa using List.find?_some found, held⟩

variable (bonded : Bonded acc)

include bonded in
theorem Bonded.holder_unique {a : Addressee} {node : ValkeyClusterNode ValkeyContext} {c : Nat}
    (holder : ⟨a, some c⟩ ∈ acc.allOwners) (member : node ∈ acc.cc.nodes)
    (acon : node.acon = some c) : a = .primary node.id := by
  have inside : ⟨.primary node.id, some c⟩ ∈ acc.allOwners :=
    List.mem_append_left _ (List.mem_flatMap.mpr ⟨node, member, primary_mem_ownersOf acon⟩)
  exact bonded.linked.holder_unique (List.mem_map_of_mem (f := Owner.link) holder)
    (List.mem_map_of_mem (f := Owner.link) inside)

include bonded in
theorem Bonded.node_unique {first second : ValkeyClusterNode ValkeyContext} {c : Nat}
    (firstMember : first ∈ acc.cc.nodes) (secondMember : second ∈ acc.cc.nodes)
    (firstHolds : first.acon = some c) (secondHolds : second.acon = some c) : first = second := by
  have inside : ⟨.primary first.id, some c⟩ ∈ acc.allOwners :=
    List.mem_append_left _
      (List.mem_flatMap.mpr ⟨first, firstMember, primary_mem_ownersOf firstHolds⟩)
  have same := Addressee.primary.inj (bonded.holder_unique inside secondMember secondHolds)
  exact List.inj_on_of_nodup_map bonded.wellFormed.nodeNames_nodup firstMember secondMember same

include bonded in
theorem Bonded.taker_iff (new : NewNodes acc.cc.nextNode nodes) (c : Nat) (a : Addressee) :
    taker (cluster_nodes_swap_ctx acc.cc.nodes nodes) c = some a ↔
      ∃ node ∈ cluster_nodes_swap_ctx acc.cc.nodes nodes, a = .primary node.id ∧
        node.acon = some c := by
  have addrs : ((cluster_nodes_swap_ctx acc.cc.nodes nodes).map (·.addr)).Nodup := by
    rw [ValkeyClusterContext.names_swap.2]
    exact new.addrs
  unfold taker
  constructor
  · intro taken
    obtain ⟨node, found, rfl⟩ := Option.map_eq_some_iff.mp taken
    exact ⟨node, List.mem_of_find?_eq_some found, rfl, by simpa using List.find?_some found⟩
  · rintro ⟨node, member, rfl, acon⟩
    cases found : (cluster_nodes_swap_ctx acc.cc.nodes nodes).find?
        fun node => node.acon == some c with
    | none =>
        have different := List.find?_eq_none.mp found node member
        simp [acon] at different
    | some other =>
        have otherMember := List.mem_of_find?_eq_some found
        have otherAcon : other.acon = some c := by simpa using List.find?_some found
        obtain ⟨first, firstMember, firstAddr, firstHolds⟩ :=
          holder_taken new.unconnected member acon
        obtain ⟨second, secondMember, secondAddr, secondHolds⟩ :=
          holder_taken new.unconnected otherMember otherAcon
        have same := bonded.node_unique firstMember secondMember firstHolds secondHolds
        have addr : other.addr = node.addr := by rw [← secondAddr, ← firstAddr, same]
        rw [List.inj_on_of_nodup_map addrs otherMember member addr]
        rfl

include bonded in
/-- Only a primary loses its context to a new node. -/
theorem Bonded.taker_none_of_other (new : NewNodes acc.cc.nextNode nodes) {a : Addressee} {c : Nat}
    (holder : ⟨a, some c⟩ ∈ acc.allOwners) (apart : ∀ node ∈ acc.cc.nodes, a ≠ .primary node.id) :
    taker (cluster_nodes_swap_ctx acc.cc.nodes nodes) c = none := by
  cases taken : taker (cluster_nodes_swap_ctx acc.cc.nodes nodes) c with
  | none => rfl
  | some other =>
      obtain ⟨node, member, _, acon⟩ := (bonded.taker_iff new c other).mp taken
      obtain ⟨first, firstMember, _, firstHolds⟩ := holder_taken new.unconnected member acon
      exact absurd (bonded.holder_unique holder firstMember firstHolds) (apart first firstMember)

include bonded in
theorem Bonded.taker_primary (new : NewNodes acc.cc.nextNode nodes)
    {node : ValkeyClusterNode ValkeyContext} {c : Nat} (member : node ∈ acc.cc.nodes)
    (acon : node.acon = some c) :
    taker (cluster_nodes_swap_ctx acc.cc.nodes nodes) c = none ↔
      findByAddr nodes node.addr = none := by
  constructor
  · intro none
    cases found : findByAddr nodes node.addr with
    | none => rfl
    | some newNode =>
        have addr : newNode.addr = node.addr := by simpa using List.find?_some found
        have inNodes := List.mem_of_find?_eq_some found
        obtain ⟨swapped, swappedMember, same⟩ :
            ∃ swapped ∈ cluster_nodes_swap_ctx acc.cc.nodes nodes, swapped.addr = node.addr := by
          have inside : node.addr ∈ (cluster_nodes_swap_ctx acc.cc.nodes nodes).map (·.addr) := by
            rw [ValkeyClusterContext.names_swap.2, ← addr]
            exact List.mem_map_of_mem inNodes
          exact List.mem_map.mp inside
        have held := swapped_acon new.unconnected swappedMember
        rw [same, findByAddr_self bonded.wellFormed.addrs_nodup member, Option.bind_some, acon]
          at held
        have taken := (bonded.taker_iff new c _).mpr ⟨swapped, swappedMember, rfl, held⟩
        rw [none] at taken
        cases taken
  · intro unknown
    cases taken : taker (cluster_nodes_swap_ctx acc.cc.nodes nodes) c with
    | none => rfl
    | some other =>
        obtain ⟨swapped, swappedMember, _, held⟩ := (bonded.taker_iff new c other).mp taken
        obtain ⟨first, firstMember, addr, firstHolds⟩ :=
          holder_taken new.unconnected swappedMember held
        obtain rfl := bonded.node_unique firstMember member firstHolds acon
        have inside : first.addr ∈ nodes.map (·.addr) := by
          rw [← ValkeyClusterContext.names_swap.2, addr]
          exact List.mem_map_of_mem swappedMember
        obtain ⟨known, knownMember, same⟩ := List.mem_map.mp inside
        simpa [same] using List.find?_eq_none.mp unknown known knownMember

/-- What is left of an old node. -/
theorem owners_swappedOut (unconnected : ∀ node ∈ nodes, node.Unconnected)
    (old : List (ValkeyClusterNode ValkeyContext)) :
    owners (swappedOut old nodes) = old.flatMap fun node =>
      ⟨.primary node.id, if (findByAddr nodes node.addr).isSome then none else node.acon⟩ ::
        (ownersOf node).tail := by
  unfold owners swappedOut
  rw [List.flatMap_map]
  congr 1
  funext node
  cases found : findByAddr nodes node.addr with
  | none => rfl
  | some newNode =>
      have none := (unconnected newNode (List.mem_of_find?_eq_some found)).acon
      cases acon : node.acon with
      | none => simp [ownersOf, acon]
      | some c => simp [ownersOf, none]

include bonded in
theorem Bonded.mem_swappedOut (new : NewNodes acc.cc.nextNode nodes) {a : Addressee} {c : Nat} :
    ⟨a, some c⟩ ∈ owners (swappedOut acc.cc.nodes nodes) ↔
      ⟨a, some c⟩ ∈ owners acc.cc.nodes ∧
        taker (cluster_nodes_swap_ctx acc.cc.nodes nodes) c = none := by
  rw [owners_swappedOut new.unconnected]
  have replica {node : ValkeyClusterNode ValkeyContext} (member : node ∈ acc.cc.nodes)
      (inside : ⟨a, some c⟩ ∈ (ownersOf node).tail) :
      ⟨a, some c⟩ ∈ owners acc.cc.nodes ∧
        taker (cluster_nodes_swap_ctx acc.cc.nodes nodes) c = none := by
    have holder : ⟨a, some c⟩ ∈ owners acc.cc.nodes :=
      List.mem_flatMap.mpr ⟨node, member, List.mem_of_mem_tail inside⟩
    refine ⟨holder, bonded.taker_none_of_other new (List.mem_append_left _ holder) ?_⟩
    rintro other _ rfl
    obtain ⟨index, _, impossible⟩ := List.mem_mapIdx.mp inside
    cases impossible
  constructor
  · intro left
    obtain ⟨node, member, own⟩ := List.mem_flatMap.mp left
    rcases List.mem_cons.mp own with same | inside
    · obtain ⟨rfl, kept⟩ := Owner.mk.inj same
      cases found : findByAddr nodes node.addr with
      | some newNode => simp [found] at kept
      | none =>
          simp only [found, Option.isSome_none, Bool.false_eq_true, if_false] at kept
          have holds := primary_mem_ownersOf kept.symm
          exact ⟨List.mem_flatMap.mpr ⟨node, member, holds⟩,
            (bonded.taker_primary new member kept.symm).mpr found⟩
    · exact replica member inside
  · rintro ⟨holder, none⟩
    obtain ⟨node, member, own⟩ := List.mem_flatMap.mp holder
    refine List.mem_flatMap.mpr ⟨node, member, ?_⟩
    rcases List.mem_cons.mp own with same | inside
    · obtain ⟨rfl, acon⟩ := Owner.mk.inj same
      have unknown := (bonded.taker_primary new member acon.symm).mp none
      simp [unknown, acon]
    · exact List.mem_cons_of_mem _ inside

/-- The names stay, only contexts go. -/
theorem names_swappedOut (unconnected : ∀ node ∈ nodes, node.Unconnected)
    (old : List (ValkeyClusterNode ValkeyContext)) :
    (owners (swappedOut old nodes)).map (·.node) = (owners old).map (·.node) := by
  rw [owners_swappedOut unconnected, owners, List.map_flatMap, List.map_flatMap]
  rfl

theorem owners_perm (order : IterationOrder) (nodes : List (ValkeyClusterNode ValkeyContext)) :
    (owners (order.order nodes)).Perm (owners nodes) :=
  (order.perm nodes).flatMap_right _

include bonded in
theorem Bonded.owners_nodup : (acc.allOwners.map (·.node)).Nodup := by
  have names := bonded.linked.leftNames
  rw [nodeLinks, List.map_map] at names
  exact names

/-- The nodes that are released and those that waited before have the names of old nodes. -/
theorem names_released (order : IterationOrder) (unconnected : ∀ node ∈ nodes, node.Unconnected) :
    ((owners (order.order (swappedOut acc.cc.nodes nodes)) ++ acc.retired).map (·.node)).Perm
      (acc.allOwners.map (·.node)) := by
  rw [allOwners, List.map_append, List.map_append]
  apply List.Perm.append_right
  rw [← names_swappedOut unconnected acc.cc.nodes]
  exact (owners_perm order _).map _

theorem id_taken (new : NewNodes acc.cc.nextNode nodes) {owner : Owner}
    (member : owner ∈ owners (cluster_nodes_swap_ctx acc.cc.nodes nodes)) :
    acc.cc.nextNode ≤ owner.node.id ∧ owner.node.id < acc.cc.nextNode + nodes.length := by
  have inside := id_owners member
  rw [ValkeyClusterContext.names_swap.1, new.names] at inside
  exact List.mem_range'_1.mp inside

include bonded in
theorem Bonded.install_holders (new : NewNodes acc.cc.nextNode nodes) (order : IterationOrder)
    (a : Addressee) (c : Nat) :
    ⟨a, some c⟩ ∈ owners (cluster_nodes_swap_ctx acc.cc.nodes nodes) ++
        (owners (order.order (swappedOut acc.cc.nodes nodes)) ++ acc.retired) ↔
      taker (cluster_nodes_swap_ctx acc.cc.nodes nodes) c = some a ∨
        (taker (cluster_nodes_swap_ctx acc.cc.nodes nodes) c = none ∧
          ⟨a, some c⟩ ∈ acc.allOwners) := by
  have waiting (inside : ⟨a, some c⟩ ∈ acc.retired) :
      taker (cluster_nodes_swap_ctx acc.cc.nodes nodes) c = none := by
    apply bonded.taker_none_of_other new (List.mem_append_right _ inside)
    rintro node member rfl
    have names := bonded.owners_nodup
    rw [allOwners, List.map_append] at names
    have here : Addressee.primary node.id ∈ (owners acc.cc.nodes).map (·.node) :=
      List.mem_map.mpr ⟨⟨.primary node.id, node.acon⟩,
        List.mem_flatMap.mpr ⟨node, member, List.mem_cons_self⟩, rfl⟩
    exact (List.nodup_append.mp names).2.2 _ here _
      (List.mem_map_of_mem (f := Owner.node) inside) rfl
  rw [bonded.taker_iff new, List.mem_append, List.mem_append,
    (owners_perm order _).mem_iff, bonded.mem_swappedOut new, allOwners, List.mem_append]
  have taken : ⟨a, some c⟩ ∈ owners (cluster_nodes_swap_ctx acc.cc.nodes nodes) ↔
      ∃ node ∈ cluster_nodes_swap_ctx acc.cc.nodes nodes, a = .primary node.id ∧
        node.acon = some c := by
    rw [owners, List.mem_flatMap]
    exact exists_congr fun node => and_congr_right fun member =>
      mem_ownersOf_some (replica_acon new.unconnected member)
  rw [taken]
  constructor
  · rintro (new | ⟨old, none⟩ | retired)
    · exact .inl new
    · exact .inr ⟨none, .inl old⟩
    · exact .inr ⟨waiting retired, .inr retired⟩
  · rintro (new | ⟨none, old | retired⟩)
    · exact .inl new
    · exact .inr (.inl ⟨old, none⟩)
    · exact .inr (.inr retired)

/-- The links are kept when the nodes are replaced. -/
theorem Bonded.install (bonded : Bonded acc) {table : List (Option Nat)}
    (learned : Learned acc.cc.nextNode table nodes) :
    Bonded (installNodes world acc table nodes) := by
  have new := learned.new
  have wellFormed := bonded.wellFormed.replaceNodes new learned.refers
  have released := @names_released Fn Data acc nodes world.order new.unconnected
  have small {owner : Owner} (member : owner ∈
      owners (world.order.order (swappedOut acc.cc.nodes nodes)) ++ acc.retired) :
      owner.node.id < acc.cc.nextNode := by
    have inside := released.mem_iff.mp (List.mem_map_of_mem (f := Owner.node) member)
    obtain ⟨old, oldMember, same⟩ := List.mem_map.mp inside
    exact same ▸ bonded.nodes_lt old oldMember
  refine ⟨wellFormed, ?_, ?_, ?_⟩
  · have links : (installNodes world acc table nodes).contextLinks =
        acc.contextLinks.map fun link =>
          (link.1, (taker (cluster_nodes_swap_ctx acc.cc.nodes nodes) link.1).or link.2) := by
      unfold contextLinks installNodes
      dsimp only
      rw [List.map_map, List.map_map]
      exact List.map_congr_left fun ac _ => link_relink ac
    rw [links]
    apply bonded.linked.move
    · unfold nodeLinks allOwners installNodes
      rw [List.map_map]
      change (List.map (·.node) (owners (cluster_nodes_swap_ctx acc.cc.nodes nodes) ++
        (owners (world.order.order (swappedOut acc.cc.nodes nodes)) ++ acc.retired))).Nodup
      rw [List.map_append]
      refine List.nodup_append.mpr ⟨nodup_owners wellFormed.nodeNames_nodup,
        released.nodup_iff.mpr bonded.owners_nodup, ?_⟩
      rintro _ here other there rfl
      obtain ⟨first, firstMember, rfl⟩ := List.mem_map.mp here
      obtain ⟨second, secondMember, same⟩ := List.mem_map.mp there
      have large := (id_taken new firstMember).1
      have little := small secondMember
      rw [same] at little
      exact absurd little (not_lt.mpr large)
    · intro c a taken
      obtain ⟨node, member, _, acon⟩ := (bonded.taker_iff new c a).mp taken
      obtain ⟨old, oldMember, _, held⟩ := holder_taken new.unconnected member acon
      have inside : (Addressee.primary old.id, some c) ∈ acc.nodeLinks :=
        List.mem_map.mpr ⟨⟨.primary old.id, some c⟩, List.mem_append_left _
          (List.mem_flatMap.mpr ⟨old, oldMember, primary_mem_ownersOf held⟩), rfl⟩
      exact bonded.linked.known inside
    · intro a c
      have holders := bonded.install_holders new world.order a c
      have link {side : List Owner} : (a, some c) ∈ side.map Owner.link ↔ ⟨a, some c⟩ ∈ side := by
        constructor
        · intro member
          obtain ⟨⟨node, acon⟩, inside, same⟩ := List.mem_map.mp member
          obtain ⟨rfl, rfl⟩ := Prod.mk.inj same
          exact inside
        · exact fun inside => List.mem_map.mpr ⟨_, inside, rfl⟩
      unfold nodeLinks
      rw [link, link]
      exact holders
  · intro owner member
    rcases List.mem_append.mp member with taken | rest
    · exact (id_taken new taken).2
    · exact (small rest).trans_le (Nat.le_add_right _ _)
  · intro ac member
    obtain ⟨old, oldMember, rfl⟩ := List.mem_map.mp member
    have same : (relink (cluster_nodes_swap_ctx acc.cc.nodes nodes) old).id = old.id :=
      congrArg Prod.fst (link_relink old)
    exact same ▸ bonded.connections_lt old oldMember

end Replaced

/-! ## Contexts and nodes that go -/

/-- A context is freed, and its node is told. -/
theorem Bonded.remove (bonded : Bonded acc) {c : Nat} {ac gone : Connection}
    (found : acc.connection c = .ok ac) (same : gone.link = ac.link)
    (removed : acc.removeConnection gone = .ok next) : Bonded next := by
  obtain ⟨member, rfl⟩ := found_connection found
  obtain ⟨id, data⟩ := Prod.mk.inj same
  have others : acc.contextLinks.Perm
      (ac.link :: (acc.connections.filter (·.id != ac.id)).map Connection.link) :=
    (Links.perm_others Connection.id bonded.names_nodup member).map Connection.link
  have small : ∀ other ∈ acc.connections.filter (·.id != ac.id), other.id < acc.nextConnection :=
    fun other inside => bonded.connections_lt other (List.mem_filter.mp inside).1
  unfold removeConnection at removed
  rw [id, data] at removed
  rw [Connection.link] at others
  cases held : ac.data with
  | none =>
      rw [held] at removed others
      cases removed
      exact ⟨bonded.wellFormed, bonded.linked.remove_single others, bonded.nodes_lt, small⟩
  | some node =>
      rw [held] at removed others
      unfold unlink at removed
      dsimp only at removed
      split at removed
      · cases removed
        exact bonded.setAcon node none (bonded.linked.remove others) small
      · cases removed

/-- A node that waits to be freed comes first. -/
theorem nodeLinks_retired {owner : Owner} {rest : List Owner}
    (first : acc.retired = owner :: rest) :
    acc.nodeLinks.Perm (owner.link :: nodeLinks { acc with retired := rest }) := by
  unfold nodeLinks allOwners
  rw [first, List.map_append, List.map_append, List.map_cons]
  exact List.perm_middle

theorem Bonded.freed_lt (bonded : Bonded acc) {owner : Owner} {rest : List Owner}
    (first : acc.retired = owner :: rest) :
    ∀ other ∈ allOwners { acc with retired := rest }, other.node.id < acc.cc.nextNode := by
  intro other member
  apply bonded.nodes_lt other
  rcases List.mem_append.mp member with here | waiting
  · exact List.mem_append_left _ here
  · exact List.mem_append_right _ (first ▸ List.mem_cons_of_mem owner waiting)

theorem Bonded.drop (bonded : Bonded acc) {node : Addressee} {rest : List Owner}
    (first : acc.retired = ⟨node, none⟩ :: rest) : Bonded { acc with retired := rest } where
  wellFormed := bonded.wellFormed
  linked := (bonded.linked.perm (nodeLinks_retired first).symm).drop
  nodes_lt := bonded.freed_lt first
  connections_lt := bonded.connections_lt

/-- A node is freed, and its context is told. -/
theorem Bonded.release (bonded : Bonded acc) {node : Addressee} {c : Nat} {rest : List Owner}
    {ac freed : Connection} (first : acc.retired = ⟨node, some c⟩ :: rest)
    (found : acc.connection c = .ok ac) (link : freed.link = (ac.id, none)) :
    Bonded (putConnection { acc with retired := rest } freed) := by
  obtain ⟨member, rfl⟩ := found_connection found
  obtain ⟨id, data⟩ := Prod.mk.inj link
  have links : (putConnection { acc with retired := rest } freed).contextLinks =
      Links.assign ac.id none acc.contextLinks := by
    unfold contextLinks putConnection Links.assign
    dsimp only
    rw [List.map_map, List.map_map, id]
    apply List.map_congr_left
    intro other _
    by_cases same : other.id = ac.id
    · simp [Connection.link, same, id, data]
    · simp [Connection.link, same]
  refine ⟨bonded.wellFormed, ?_, bonded.freed_lt first, ?_⟩
  · rw [links]
    exact (bonded.linked.perm (nodeLinks_retired first).symm).detach
  · intro other otherMember
    obtain ⟨old, oldMember, rfl⟩ := List.mem_map.mp otherMember
    split
    · exact id ▸ bonded.connections_lt ac member
    · exact bonded.connections_lt old oldMember

/-- All nodes wait to be freed. -/
theorem Bonded.close (bonded : Bonded acc) (disconnecting : Bool) :
    Bonded (acc.closing world disconnecting) := by
  have same : (acc.closing world disconnecting).allOwners.Perm acc.allOwners :=
    (owners_perm world.order acc.cc.nodes).append_right _
  have wellFormed : (acc.closing world disconnecting).cc.WellFormed :=
    ⟨List.nodup_nil, List.nodup_nil, List.nodup_nil, fun _ impossible => (nomatch impossible),
      fun _ impossible => (nomatch impossible), fun _ impossible => nomatch impossible⟩
  exact ⟨wellFormed, bonded.linked.perm (same.map Owner.link),
    fun owner member => bonded.nodes_lt owner (same.mem_iff.mp member), bonded.connections_lt⟩

/-! ## Steps -/

/-- Other data does not matter. -/
theorem Bonded.of_same (bonded : Bonded acc) (cc : next.cc = acc.cc)
    (retired : next.retired = acc.retired) (connections : next.connections = acc.connections)
    (nextConnection : next.nextConnection = acc.nextConnection) : Bonded next := by
  obtain ⟨wellFormed, linked, nodes_lt, connections_lt⟩ := bonded
  unfold nodeLinks contextLinks allOwners at linked
  unfold allOwners at nodes_lt
  rw [← cc, ← retired, ← connections] at linked
  rw [← cc, ← retired] at nodes_lt
  rw [← connections, ← nextConnection] at connections_lt
  exact ⟨cc ▸ wellFormed, linked, nodes_lt, connections_lt⟩

theorem disconnect_link {ac closed : Connection} (close : ac.disconnect world = .ok closed) :
    closed.link = ac.link := by
  unfold Connection.disconnect at close
  cases result : ofConnection (valkeyAsyncDisconnect world.order ac.state.1 ac.state.2) with
  | error fault =>
      rw [result] at close
      cases close
  | ok state =>
      rw [result] at close
      cases close
      rfl

theorem Bonded.counted (bonded : Bonded acc) (cad count : Nat) :
    Bonded (acc.countRetry cad count) :=
  bonded.of_same rfl rfl rfl rfl

theorem Bonded.stamped (bonded : Bonded acc) : Bonded (acc.stampUpdate world) :=
  bonded.of_same rfl rfl rfl rfl

theorem Bonded.answered (bonded : Bonded acc) {cad : ClusterAsyncData Fn Data}
    {result : Action Fn Data × ValkeyClusterAsyncContext Fn Data}
    (answered : Answered acc cad result) : Bonded result.2 := by
  cases answered with
  | calls reply works => exact bonded.works works
  | callsCounted count reply works => exact (bonded.counted cad.id count).works works
  | resends retries below works found accepted =>
      have worked := (bonded.counted cad.id _).works works
      exact (worked.put found (appended_link accepted)).of_same rfl rfl rfl rfl

theorem Bonded.called (bonded : Bonded acc) {stack : List Activity} {c : Nat} {fn : ClusterFn}
    {data : ClusterData} {reply : Option ReplyTree} {final : ClusterAsyncState Fn Data}
    (called : Called world stack acc c fn data reply final) : Bonded final.2 := by
  cases called with
  | selected data accepted => exact bonded
  | rejected data refused found close =>
      exact (bonded.works (works_setError (some selectFailed))).put found (disconnect_link close)
  | refreshed useClusterNodes data reply works =>
      have stamped : Bonded (acc.stampUpdate world) := bonded.stamped
      exact stamped.works works
  | replaced useClusterNodes data reply learned =>
      have stamped : Bonded (acc.stampUpdate world) := bonded.stamped
      exact stamped.install learned
  | resent known handled answered => exact bonded.answered answered
  | delivered known handled answered callback =>
      exact (bonded.answered answered).of_same rfl rfl rfl rfl

theorem Bonded.settling (bonded : Bonded acc) {stack : List Activity} {c : Nat}
    {ac changed : Connection} {final : ClusterAsyncState Fn Data}
    (found : acc.connection c = .ok ac) (same : changed.link = ac.link)
    (settling : Settling world stack acc changed final) : Bonded final.2 := by
  cases settling with
  | keeps frames quiet present => exact bonded.put found same
  | gone label removed => exact bonded.remove found same removed
  | serves served last callback privdata alive called => exact (bonded.put found same).called called

theorem Bonded.submitted (bonded : Bonded acc) {fn : Option Fn} {privdata : Data} {cmd : Bytes}
    {result : Status × ValkeyClusterAsyncContext Fn Data}
    (submitted : Submitted acc fn privdata cmd result) : Bonded result.2 := by
  cases submitted with
  | refused works => exact bonded.works works
  | accepted works retries found accepted =>
      exact ((bonded.works works).put found (appended_link accepted)).of_same rfl rfl rfl rfl

/-- Every step keeps the links. -/
theorem Bonded.turn {state final : ClusterAsyncState Fn Data} {event : ClusterEvent Fn Data}
    (bonded : Bonded state.2) (turn : Turn world event state final) : Bonded final.2 := by
  cases turn with
  | works same works => exact bonded.works works
  | submits submits alive submitted => exact bonded.submitted submitted
  | drives handles found driven settling =>
      refine bonded.settling found ?_ settling
      rfl
  | closes same found close =>
      rcases close with disconnected | rfl
      · exact bonded.put found (disconnect_link disconnected)
      · exact bonded.put found rfl
  | passes none => exact bonded
  | drops first => exact bonded.drop first
  | releases first found => exact bonded.release first found rfl
  | released same alive => exact bonded
  | disconnects same alive => exact bonded.of_same rfl rfl rfl rfl
  | asks frees alive => exact bonded.of_same rfl rfl rfl rfl
  | finishes cad alive => exact (bonded.works works_clearError).of_same rfl rfl rfl rfl
  | tears disconnecting alive frees => exact bonded.close disconnecting
  | dies alive => exact bonded.of_same rfl rfl rfl rfl

/-! ## Updates keep the contexts of addresses that stay -/

/-- The nodes with their addresses. -/
def addressed (cc : ValkeyClusterContext) : List (Nat × Bytes) :=
  cc.nodes.map fun node => (node.id, node.addr)

theorem addressed_of_names {cc last : ValkeyClusterContext}
    (same : ValkeyClusterContext.SameNames cc last) : addressed last = addressed cc := by
  have zipped (cc : ValkeyClusterContext) : addressed cc = cc.nodeNames.zip cc.addrs := by
    unfold addressed ValkeyClusterContext.nodeNames ValkeyClusterContext.addrs
    rw [List.zip_map']
  rw [zipped, zipped, same.nodeNames, same.addrs]

/-- No node is removed. -/
def KeepsNodes (acc next : ValkeyClusterAsyncContext Fn Data) : Prop :=
  ∃ added, addressed next.cc = addressed acc.cc ++ added

theorem KeepsNodes.of_same (same : addressed next.cc = addressed acc.cc) : KeepsNodes acc next :=
  ⟨[], by rw [same, List.append_nil]⟩

theorem KeepsNodes.trans {last : ValkeyClusterAsyncContext Fn Data} (first : KeepsNodes acc next)
    (second : KeepsNodes next last) : KeepsNodes acc last := by
  obtain ⟨added, first⟩ := first
  obtain ⟨more, second⟩ := second
  exact ⟨added ++ more, by rw [second, first, List.append_assoc]⟩

theorem keepsNodes_change (change : Change acc next) : KeepsNodes acc next := by
  cases change with
  | quiet calm err ticks draws => exact .of_same (addressed_of_names calm.names)
  | number connections records => exact .of_same rfl
  | stamp idle time => exact .of_same rfl
  | route known updated =>
      apply KeepsNodes.of_same
      unfold addressed
      rw [(updateSlot_fields updated).1]
  | addNode unknown => exact ⟨[_], List.map_append⟩
  | connect host single => exact .of_same (addressed_of_names (sameNames_setAcon _ _))
  | asking found accepted => exact .of_same rfl
  | update useClusterNodes idle found accepted => exact .of_same rfl

theorem keepsNodes_works (works : Works acc next) : KeepsNodes acc next := by
  induction works with
  | refl => exact .of_same rfl
  | tail _ change induction => exact induction.trans (keepsNodes_change change)

theorem keepsNodes_answered {cad : ClusterAsyncData Fn Data}
    {result : Action Fn Data × ValkeyClusterAsyncContext Fn Data}
    (answered : Answered acc cad result) : KeepsNodes acc result.2 := by
  cases answered with
  | calls reply works => exact keepsNodes_works works
  | callsCounted count reply works =>
      have counted : KeepsNodes acc (acc.countRetry cad.id count) := .of_same rfl
      exact counted.trans (keepsNodes_works works)
  | @resends next count c ac appended retries below works found accepted =>
      have counted : KeepsNodes acc (acc.countRetry cad.id (count + 1)) := .of_same rfl
      exact (counted.trans (keepsNodes_works works)).trans (.of_same rfl)

/-- The nodes are kept, or replaced by new ones after a reply. -/
inductive Renews (world : World) (acc : ValkeyClusterAsyncContext Fn Data) :
    ValkeyClusterAsyncContext Fn Data → Prop
  | keeps {next : ValkeyClusterAsyncContext Fn Data} (keeps : KeepsNodes acc next) :
      Renews world acc next
  | replaces {before : ValkeyClusterAsyncContext Fn Data} {table : List (Option Nat)}
      {nodes : List (ValkeyClusterNode ValkeyContext)} (same : before.cc = acc.cc)
      (learned : Learned before.cc.nextNode table nodes) :
      Renews world acc (installNodes world before table nodes)

theorem Renews.of_cc {before : ValkeyClusterAsyncContext Fn Data} (same : before.cc = acc.cc)
    (renews : Renews world before next) : Renews world acc next := by
  cases renews with
  | keeps keeps => exact .keeps ((KeepsNodes.of_same (by rw [same])).trans keeps)
  | replaces earlier learned => exact .replaces (earlier.trans same) learned

theorem renews_called {stack : List Activity} {c : Nat} {fn : ClusterFn} {data : ClusterData}
    {reply : Option ReplyTree} {final : ClusterAsyncState Fn Data}
    (called : Called world stack acc c fn data reply final) : Renews world acc final.2 := by
  cases called with
  | selected data accepted => exact .keeps (.of_same rfl)
  | rejected data refused found close =>
      exact .keeps ((keepsNodes_works (works_setError (some selectFailed))).trans (.of_same rfl))
  | refreshed useClusterNodes data reply works =>
      have stamped : KeepsNodes acc (acc.stampUpdate world) := .of_same rfl
      exact .keeps (stamped.trans (keepsNodes_works works))
  | replaced useClusterNodes data reply learned =>
      have same : (acc.stampUpdate world).cc = acc.cc := rfl
      exact .replaces same learned
  | resent known handled answered => exact .keeps (keepsNodes_answered answered)
  | delivered known handled answered callback =>
      exact .keeps ((keepsNodes_answered answered).trans (.of_same rfl))

theorem renews_removed {ac : Connection} (removed : acc.removeConnection ac = .ok next) :
    KeepsNodes acc next := by
  unfold removeConnection unlink at removed
  cases held : ac.data with
  | none =>
      rw [held] at removed
      cases removed
      exact .of_same rfl
  | some node =>
      rw [held] at removed
      dsimp only at removed
      split at removed
      · cases removed
        exact .of_same (addressed_of_names (sameNames_setAcon node none))
      · cases removed

/-- The user has been told that the client will be freed. -/
def Leaving (stack : List Activity) : Prop := .user .frees ∈ stack

/-- The nodes of a client are given up because it is freed. -/
structure Releases (state final : ClusterAsyncState Fn Data) : Prop where
  none : final.2.cc.nodes = []
  disconnecting : final.2.disconnecting = true ∨
    Leaving state.1 ∧ final.2.disconnecting = state.2.disconnecting

theorem renews_turn {state final : ClusterAsyncState Fn Data} {event : ClusterEvent Fn Data}
    (turn : Turn world event state final) :
    Renews world state.2 final.2 ∨ Releases state final := by
  cases turn with
  | works same works => exact .inl (.keeps (keepsNodes_works works))
  | submits submits alive submitted =>
      cases submitted with
      | refused works => exact .inl (.keeps (keepsNodes_works works))
      | accepted works retries found accepted =>
          exact .inl (.keeps ((keepsNodes_works works).trans (.of_same rfl)))
  | drives handles found driven settling =>
      cases settling with
      | keeps frames quiet present => exact .inl (.keeps (.of_same rfl))
      | gone label removed => exact .inl (.keeps (renews_removed removed))
      | serves served last callback privdata alive called =>
          have renews := renews_called called
          refine .inl (.of_cc ?_ renews)
          rfl
  | closes same found close => exact .inl (.keeps (.of_same rfl))
  | passes none => exact .inl (.keeps (.of_same rfl))
  | drops first => exact .inl (.keeps (.of_same rfl))
  | releases first found => exact .inl (.keeps (.of_same rfl))
  | released same alive => exact .inl (.keeps (.of_same rfl))
  | disconnects same alive => exact .inl (.keeps (.of_same rfl))
  | asks frees alive => exact .inl (.keeps (.of_same rfl))
  | finishes cad alive => exact .inl (.keeps (.of_same rfl))
  | tears disconnecting alive frees =>
      refine .inr ⟨rfl, ?_⟩
      rcases frees with ⟨_, _, rfl⟩ | ⟨asked, rfl⟩
      · exact .inl rfl
      · exact .inr ⟨asked ▸ List.mem_cons_self, rfl⟩
  | dies alive => exact .inl (.keeps (.of_same rfl))

/-! ## Runs -/

/-- Every context is held by one node, and no node refers to one that is gone. -/
structure HeldOnce (acc : ValkeyClusterAsyncContext Fn Data) : Prop where
  nodes : (acc.allOwners.map (·.node)).Nodup
  contexts : (acc.connections.map Connection.id).Nodup
  data : ∀ ac ∈ acc.connections, ∀ node,
    ac.data = some node ↔ ⟨node, some ac.id⟩ ∈ acc.allOwners
  acon : ∀ owner ∈ acc.allOwners, ∀ c, owner.acon = some c →
    ∃ ac ∈ acc.connections, ac.id = c ∧ ac.data = some owner.node

theorem Bonded.heldOnce (bonded : Bonded acc) : HeldOnce acc where
  nodes := bonded.owners_nodup
  contexts := bonded.names_nodup
  data := by
    intro ac member node
    have agree := bonded.linked.agree node ac.id
    constructor
    · intro data
      have link : (ac.id, some node) ∈ acc.contextLinks :=
        List.mem_map.mpr ⟨ac, member, by rw [Connection.link, data]⟩
      obtain ⟨⟨holder, acon⟩, inside, same⟩ := List.mem_map.mp (agree.mpr link)
      obtain ⟨rfl, rfl⟩ := Prod.mk.inj same
      exact inside
    · intro holder
      have link := agree.mp (List.mem_map_of_mem (f := Owner.link) holder)
      obtain ⟨other, inside, same⟩ := List.mem_map.mp link
      obtain ⟨id, data⟩ := Prod.mk.inj same
      obtain rfl : other = ac := List.inj_on_of_nodup_map bonded.names_nodup inside member id
      exact data
  acon := by
    rintro ⟨node, acon⟩ member c rfl
    have link := (bonded.linked.agree node c).mp (List.mem_map_of_mem (f := Owner.link) member)
    obtain ⟨ac, inside, same⟩ := List.mem_map.mp link
    obtain ⟨id, data⟩ := Prod.mk.inj same
    exact ⟨ac, inside, id, data⟩

/-- New nodes take over the contexts of the addresses that stay. -/
def TakesOver (acc next : ValkeyClusterAsyncContext Fn Data) : Prop :=
  ∀ old ∈ acc.cc.nodes, ∀ new ∈ next.cc.nodes, new.addr = old.addr → new.id ≠ old.id →
    ∀ c, old.acon = some c →
      new.acon = some c ∧ ∃ ac ∈ next.connections, ac.id = c ∧ ac.data = some (.primary new.id)

theorem Bonded.takesOver (bonded : Bonded acc) (after : Bonded next)
    (renews : Renews world acc next ∨ next.cc.nodes = []) : TakesOver acc next := by
  intro old oldMember new newMember addr different c holds
  suffices acon : new.acon = some c by
    have inside : ⟨.primary new.id, some c⟩ ∈ next.allOwners :=
      List.mem_append_left _ (List.mem_flatMap.mpr ⟨new, newMember, primary_mem_ownersOf acon⟩)
    exact ⟨acon, after.heldOnce.acon _ inside c rfl⟩
  rcases renews with renews | none
  swap
  · rw [none] at newMember
    cases newMember
  cases renews with
  | keeps keeps =>
      obtain ⟨added, same⟩ := keeps
      have known : (old.id, old.addr) ∈ addressed next.cc :=
        same ▸ List.mem_append_left _ (List.mem_map.mpr ⟨old, oldMember, rfl⟩)
      obtain ⟨kept, keptMember, names⟩ := List.mem_map.mp known
      obtain ⟨id, keptAddr⟩ := Prod.mk.inj names
      obtain rfl : kept = new := List.inj_on_of_nodup_map after.wellFormed.addrs_nodup keptMember
        newMember (keptAddr.trans addr.symm)
      exact absurd id different
  | @replaces before table nodes same learned =>
      have taken : new ∈ cluster_nodes_swap_ctx acc.cc.nodes nodes := same ▸ newMember
      rw [swapped_acon learned.new.unconnected taken, addr,
        findByAddr_self bonded.wellFormed.addrs_nodup oldMember]
      exact holds

/-- A client that has not connected to any of its nodes. -/
structure Unopened (acc : ValkeyClusterAsyncContext Fn Data) : Prop where
  wellFormed : acc.cc.WellFormed
  acons : ∀ owner ∈ owners acc.cc.nodes, owner.acon = none
  retired : acc.retired = []
  connections : acc.connections = []

theorem Unopened.bonded (unopened : Unopened acc) : Bonded acc := by
  have all : acc.allOwners = owners acc.cc.nodes := by
    rw [allOwners, unopened.retired, List.append_nil]
  refine ⟨unopened.wellFormed, ⟨?_, ?_, ?_⟩, ?_, ?_⟩
  · rw [nodeLinks, List.map_map, all]
    exact nodup_owners unopened.wellFormed.nodeNames_nodup
  · rw [contextLinks, unopened.connections]
    exact List.nodup_nil
  · intro node c
    rw [nodeLinks, contextLinks, all, unopened.connections]
    constructor
    · intro member
      obtain ⟨owner, inside, same⟩ := List.mem_map.mp member
      have acon := (Prod.mk.inj same).2
      rw [unopened.acons owner inside] at acon
      cases acon
    · exact fun impossible => nomatch impossible
  · intro owner member
    rw [all] at member
    exact unopened.wellFormed.nodeNames_lt _ (id_owners member)
  · rw [unopened.connections]
    exact fun _ impossible => nomatch impossible

theorem Bonded.start {blocking : Bool} (bonded : Bonded acc)
    (connected : valkeyClusterAsyncConnect world acc blocking = .ok next) : Bonded next := by
  unfold valkeyClusterAsyncConnect at connected
  split at connected
  · cases connected
    exact bonded
  · have updated : Ensures (updateSlotMapAsync world acc none >>= fun result =>
        (.ok result.2 : Except ClusterFault (ValkeyClusterAsyncContext Fn Data))) Sheltered
        Bonded := by
      apply (ensures_updateSlotMapAsync none).bind
      exact fun result works => bonded.works works
    exact updated.of_ok connected

theorem bonded_run {start state : ClusterAsyncState Fn Data} (bonded : Bonded start.2)
    {events : List (ClusterEvent Fn Data)} (reached : clusterRun world start events = .ok state) :
    Bonded state.2 := by
  have preserves (state : ClusterAsyncState Fn Data) (event : ClusterEvent Fn Data)
      (next : ClusterAsyncState Fn Data) (held : Bonded state.2)
      (taken : clusterStep world state event = .ok next) : Bonded next.2 :=
    held.turn ((ensures_clusterStep state event).of_ok taken)
  exact Runs.run_invariant (clusterStep world) preserves bonded reached

/-- Every context of a synchronous client is held by one node. An update keeps the contexts
of addresses that stay, but those of the nodes that it has asked in vain are closed. -/
structure HoldsContexts (network : Nat → Outcome) (order : IterationOrder)
    (cc : ValkeyClusterContext) : Prop where
  nodup : cc.contextNames.Nodup
  reply (c : Nat) (status : Status) (next : ValkeyClusterContext) :
    clusterUpdateRouteHandleReply network order cc c = .ok (status, next) → KeepsPlaces cc next
  update (status : Status) (next : ValkeyClusterContext) :
    valkeyClusterUpdateSlotmap network order cc = .ok (status, next) →
      ∀ placement ∈ cc.placements,
        placement.1 ∉ askedInVain network order cc ((order.order cc.nodes).map (·.id)) →
          placement.2.1 ∈ next.addrs → ∃ node, (node, placement.2) ∈ next.placements

theorem holdsContexts {network : Nat → Outcome} {order : IterationOrder}
    {cc : ValkeyClusterContext} (wellFormed : cc.WellFormed) : HoldsContexts network order cc where
  nodup := wellFormed.contextNames_nodup
  reply c _ _ handled := ((keeps_handleReply wellFormed c).of_ok handled).1
  update _ _ updated := (keeps_updateSlotmapFrom wellFormed _).of_ok updated

theorem wellFormed_clientRun {network : Nat → Outcome} {order : IterationOrder}
    {condition : Call → Client → Prop} {start client : Client} (wellFormed : start.cc.WellFormed)
    (run : ClientRun network order condition start client) : client.cc.WellFormed := by
  apply run.invariant network order (fun client => client.cc.WellFormed) wellFormed
  intro call client held _
  exact ((modifies_clientStep call client).allow fun _ _ => trivial).mono fun _ => held.modifies

/-- In every state of a run, also within a call, every context is held by one node, and
updates keep the contexts of addresses that stay. -/
theorem contexts_held_by_one_node (network : Nat → Outcome) (order : IterationOrder)
    {cc : ValkeyClusterContext} {client : Client} (wellFormed : cc.WellFormed)
    (run : ClientRun network order (fun _ _ => True) (.idle cc) client) (world : World)
    {acc start : ValkeyClusterAsyncContext Fn Data} {blocking : Bool}
    {events : List (ClusterEvent Fn Data)} {state : ClusterAsyncState Fn Data}
    (unopened : Unopened acc) (connected : valkeyClusterAsyncConnect world acc blocking = .ok start)
    (reached : clusterRun world ([], start) events = .ok state) :
    (∀ cc, Modifies network client.cc cc → HoldsContexts network order cc) ∧
      HeldOnce state.2 ∧
        ∀ event next, clusterStep world state event = .ok next → TakesOver state.2 next.2 := by
  have bonded := bonded_run (unopened.bonded.start connected) reached
  have first : (Client.idle cc).cc.WellFormed := wellFormed
  refine ⟨fun cc changes => ?_, bonded.heldOnce, fun event next taken => ?_⟩
  · exact holdsContexts ((wellFormed_clientRun first run).modifies changes)
  · have turn := (ensures_clusterStep state event).of_ok taken
    exact bonded.takesOver (bonded.turn turn) ((renews_turn turn).imp_right (·.none))

/-- A world in which all attempts to connect are started. -/
def calmWorld : World where
  clock n := 10000000 + 2000000 * n
  random _ := 0
  connect _ := ⟨none, none, true⟩
  order := inOrder

/-- A client that knows two nodes. -/
def unopenedClient : ValkeyClusterAsyncContext Nat Nat where
  cc := twoNodes
  err := none
  disconnecting := false
  lastSlotmapUpdateAttempt := .time 0
  onConnect := false
  onDisconnect := false
  eventCallback := false
  hasTimer := false
  commandTimeout := false
  connections := []
  records := []
  retired := []
  life := .alive
  nextConnection := 0
  nextRecord := 0
  ticks := 0
  draws := 0
  accepted := []
  resent := []
  deliveries := []

theorem unopened_unopenedClient : Unopened unopenedClient where
  wellFormed := wellFormed_twoNodes
  acons := by decide
  retired := rfl
  connections := rfl

theorem contexts_held_by_one_node_connected :
    ∃ (client : Client) (state : ClusterAsyncState Nat Nat),
      client.cc.contextNames = [0] ∧
        HoldsContexts (calmNetwork fun _ => .status []) inOrder client.cc ∧
          state.2.connections.map Connection.id = [0] ∧ HeldOnce state.2 := by
  let network := calmNetwork fun _ => .status []
  have called : ClientRun network inOrder (fun _ _ => True) (.idle twoNodes) _ :=
    ClientRun.start.step (.commandToNode (.primary 0) (some (ascii "GET x"))) trivial rfl
  have connected : valkeyClusterAsyncConnect calmWorld unopenedClient true = .ok unopenedClient :=
    rfl
  have reached : clusterRun calmWorld ([], unopenedClient) [.connect (.primary 0)] = .ok _ := rfl
  have held := contexts_held_by_one_node network inOrder wellFormed_twoNodes called calmWorld
    unopened_unopenedClient connected reached
  exact ⟨_, _, rfl, held.1 _ .refl, rfl, held.2.1⟩

/-- The first node serves slot 0 and the second one slot 1. -/
def slotsOfBoth : ReplyTree :=
  .aggregate .array
    [.aggregate .array
      [.integer 0, .integer 0, .aggregate .array [.string (ascii "a"), .integer 1]],
     .aggregate .array
      [.integer 1, .integer 1, .aggregate .array [.string (ascii "b"), .integer 2]]]

def firstRefuses (time : Nat) : Outcome :=
  calmNetwork (fun time => if time = 3 then .error (ascii "LOADING") else slotsOfBoth) time

/-- The first node does not answer the query, and the reply of the second one names both. -/
theorem update_closes_context :
    ∃ client next, ClientRun firstRefuses inOrder (fun _ _ => True) (.idle twoNodes) client ∧
      valkeyClusterUpdateSlotmap firstRefuses inOrder client.cc = .ok (.ok, next) ∧
        (0, addressOf (ascii "a") 1, 0) ∈ client.cc.placements ∧
          addressOf (ascii "a") 1 ∈ next.addrs ∧ 0 ∉ next.contextNames := by
  have called : ClientRun firstRefuses inOrder (fun _ _ => True) (.idle twoNodes) _ :=
    ClientRun.start.step (.commandToNode (.primary 0) (some (ascii "GET x"))) trivial rfl
  refine ⟨_, _, called, rfl, ?_, ?_, ?_⟩
  · exact List.mem_cons_self
  · exact List.mem_cons_self
  · decide

end Libvalkey
