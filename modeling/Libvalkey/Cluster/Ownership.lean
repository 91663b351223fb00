import Mathlib.Data.List.Nodup
import Mathlib.Data.List.Pairwise
import Libvalkey.Cluster.Connect
import Libvalkey.Cluster.NewNodes

/-! # Ownership

The nodes own the connections, and the table of slots refers to the nodes. Every
operation of the client keeps this. -/

namespace Libvalkey

open Checked

namespace ValkeyClusterContext

/-- Every node that the table refers to is one of the nodes. -/
def TableOwned (cc : ValkeyClusterContext) : Prop :=
  ∀ table, cc.table = some table → ∀ node, some node ∈ table → node ∈ cc.nodeNames

/-- Nodes, addresses and connections are distinct, later names are new, and the
table refers to the nodes. -/
structure WellFormed (cc : ValkeyClusterContext) : Prop where
  nodeNames_nodup : cc.nodeNames.Nodup
  addrs_nodup : cc.addrs.Nodup
  contextNames_nodup : cc.contextNames.Nodup
  nodeNames_lt : ∀ node ∈ cc.nodeNames, node < cc.nextNode
  contextNames_lt : ∀ c ∈ cc.contextNames, c < cc.nextContext
  tableOwned : cc.TableOwned

/-- Nothing is added, removed or renamed. -/
structure SameNames (cc next : ValkeyClusterContext) : Prop where
  nodeNames : next.nodeNames = cc.nodeNames
  addrs : next.addrs = cc.addrs
  contextNames : next.contextNames = cc.contextNames
  table : next.table = cc.table
  nextNode : next.nextNode = cc.nextNode
  nextContext : next.nextContext = cc.nextContext

variable {cc next last : ValkeyClusterContext}

theorem SameNames.refl (cc : ValkeyClusterContext) : SameNames cc cc :=
  ⟨rfl, rfl, rfl, rfl, rfl, rfl⟩

theorem SameNames.trans (first : SameNames cc next) (second : SameNames next last) :
    SameNames cc last :=
  ⟨second.nodeNames.trans first.nodeNames, second.addrs.trans first.addrs,
    second.contextNames.trans first.contextNames, second.table.trans first.table,
    second.nextNode.trans first.nextNode, second.nextContext.trans first.nextContext⟩

theorem SameNames.of_fields (nodes : next.nodes = cc.nodes) (table : next.table = cc.table)
    (nextNode : next.nextNode = cc.nextNode) (nextContext : next.nextContext = cc.nextContext) :
    SameNames cc next := by
  refine ⟨?_, ?_, ?_, table, nextNode, nextContext⟩ <;>
    simp [ValkeyClusterContext.nodeNames, ValkeyClusterContext.addrs,
      ValkeyClusterContext.contextNames, contexts, nodes]

theorem WellFormed.of_sameNames (wellFormed : cc.WellFormed) (same : SameNames cc next) :
    next.WellFormed where
  nodeNames_nodup := same.nodeNames ▸ wellFormed.nodeNames_nodup
  addrs_nodup := same.addrs ▸ wellFormed.addrs_nodup
  contextNames_nodup := same.contextNames ▸ wellFormed.contextNames_nodup
  nodeNames_lt := by
    rw [same.nodeNames, same.nextNode]
    exact wellFormed.nodeNames_lt
  contextNames_lt := by
    rw [same.contextNames, same.nextContext]
    exact wellFormed.contextNames_lt
  tableOwned := by
    unfold TableOwned
    rw [same.table, same.nodeNames]
    exact wellFormed.tableOwned

/-! ## Errors, outcomes and readings -/

@[simp] theorem nodes_setError (type : ErrorType) (str : Bytes) :
    (cc.setError type str).nodes = cc.nodes := rfl

@[simp] theorem nodes_advance : cc.advance.nodes = cc.nodes := rfl

theorem sameNames_setError (cc : ValkeyClusterContext) (type : ErrorType) (str : Bytes) :
    SameNames cc (cc.setError type str) := .of_fields rfl rfl rfl rfl

theorem sameNames_setContextError (cc : ValkeyClusterContext) (c : ValkeyContext) :
    SameNames cc (cc.setContextError c) := by
  unfold setContextError
  split <;> exact .of_fields rfl rfl rfl rfl

theorem nodes_setContextError (cc : ValkeyClusterContext) (con : ValkeyContext) :
    (cc.setContextError con).nodes = cc.nodes := by
  unfold setContextError
  split <;> rfl

theorem sameNames_clearError (cc : ValkeyClusterContext) : SameNames cc cc.clearError :=
  .of_fields rfl rfl rfl rfl

theorem sameNames_advance (cc : ValkeyClusterContext) : SameNames cc cc.advance :=
  .of_fields rfl rfl rfl rfl

theorem sameNames_recordWrites (cc : ValkeyClusterContext) (writes : List Write) :
    SameNames cc (cc.recordWrites writes) := .of_fields rfl rfl rfl rfl

theorem sameNames_record (cc : ValkeyClusterContext) (reader : Request) (answer : Option Answer) :
    SameNames cc (cc.record reader answer) := by
  unfold record
  split <;> exact .of_fields rfl rfl rfl rfl

/-! ## Changes of connections -/

theorem connections_mapCon {Con : Type} (change : Con → Con) (node : ValkeyClusterNode Con) :
    (node.mapCon change).connections = node.connections.map change := by
  unfold ValkeyClusterNode.connections ValkeyClusterNode.mapCon
  rw [List.map_append, List.filterMap_map, List.map_filterMap]
  cases node.con <;> rfl

theorem contexts_putContext (c : ValkeyContext) :
    (cc.putContext c).contexts = cc.contexts.map fun con => if con.id = c.id then c else con := by
  unfold putContext contexts
  rw [List.flatMap_map, List.map_flatMap]
  simp only [connections_mapCon]

theorem mem_contexts_putContext {changed con : ValkeyContext}
    (member : con ∈ (cc.putContext changed).contexts) :
    con = changed ∨ con ∈ cc.contexts ∧ con.id ≠ changed.id := by
  rw [contexts_putContext] at member
  obtain ⟨old, inContexts, rfl⟩ := List.mem_map.mp member
  split
  · exact Or.inl rfl
  · rename_i different
    exact Or.inr ⟨inContexts, different⟩

theorem sameNames_putContext (cc : ValkeyClusterContext) (c : ValkeyContext) :
    SameNames cc (cc.putContext c) := by
  refine ⟨?_, ?_, ?_, rfl, rfl, rfl⟩
  · unfold ValkeyClusterContext.nodeNames putContext
    rw [List.map_map]
    rfl
  · unfold ValkeyClusterContext.addrs putContext
    rw [List.map_map]
    rfl
  · unfold ValkeyClusterContext.contextNames
    rw [contexts_putContext, List.map_map]
    refine List.map_congr_left fun con _ => ?_
    dsimp only [Function.comp]
    split
    · rename_i same
      exact same.symm
    · rfl

theorem sameNames_exchange (cc : ValkeyClusterContext) (before after : ValkeyContext)
    (reader : Request) (answer : Option Answer) :
    SameNames cc (cc.exchange before after reader answer) :=
  (((sameNames_advance cc).trans (sameNames_putContext _ after)).trans
    (sameNames_recordWrites _ _)).trans (sameNames_record _ reader answer)

/-- The node that changes among the others. -/
theorem split_change (nodup : cc.nodeNames.Nodup) {known : ValkeyClusterNode ValkeyContext}
    (member : known ∈ cc.nodes)
    (change : ValkeyClusterNode ValkeyContext → ValkeyClusterNode ValkeyContext) :
    ∃ before after, cc.nodes = before ++ known :: after ∧
      (cc.nodes.map fun other => if other.id = known.id then change other else other) =
        before ++ change known :: after := by
  obtain ⟨before, after, nodes⟩ := List.append_of_mem member
  refine ⟨before, after, nodes, ?_⟩
  unfold ValkeyClusterContext.nodeNames at nodup
  rw [nodes, List.map_append, List.map_cons] at nodup
  have unique := List.perm_middle.nodup_iff.mp nodup
  rw [List.nodup_cons, List.mem_append, not_or] at unique
  have others : ∀ {part : List (ValkeyClusterNode ValkeyContext)},
      known.id ∉ part.map (·.id) →
        (part.map fun other => if other.id = known.id then change other else other) = part := by
    intro part absent
    refine (List.map_congr_left fun other inPart => ?_).trans (List.map_id part)
    rw [if_neg fun same => absent (List.mem_map.mpr ⟨other, inPart, same⟩), id]
  simp only [nodes, List.map_append, List.map_cons, others unique.1.1, others unique.1.2, if_pos]

/-- A node that changes gets one more connection. -/
theorem contextNames_change (nodup : cc.nodeNames.Nodup)
    {known : ValkeyClusterNode ValkeyContext} (member : known ∈ cc.nodes)
    (change : ValkeyClusterNode ValkeyContext → ValkeyClusterNode ValkeyContext)
    {con : ValkeyContext} (more : (change known).connections.Perm (con :: known.connections))
    (changed : next.nodes =
      cc.nodes.map fun other => if other.id = known.id then change other else other) :
    next.contextNames.Perm (con.id :: cc.contextNames) := by
  obtain ⟨before, after, nodes, split⟩ := split_change nodup member change
  rw [split] at changed
  simp only [ValkeyClusterContext.contextNames, contexts, changed, nodes, List.flatMap_append,
    List.flatMap_cons]
  have inner := (more.append_right (after.flatMap (·.connections))).append_left
    (before.flatMap (·.connections))
  rw [List.cons_append] at inner
  exact (inner.trans List.perm_middle).map _

theorem nodeNames_setCon (node : Nat) (con : Option ValkeyContext) :
    (cc.setCon node con).nodeNames = cc.nodeNames := by
  unfold ValkeyClusterContext.nodeNames setCon
  simp only [List.map_map]
  refine List.map_congr_left fun other _ => ?_
  dsimp only [Function.comp]
  split <;> rfl

theorem addrs_setCon (node : Nat) (con : Option ValkeyContext) :
    (cc.setCon node con).addrs = cc.addrs := by
  unfold ValkeyClusterContext.addrs setCon
  simp only [List.map_map]
  refine List.map_congr_left fun other _ => ?_
  dsimp only [Function.comp]
  split <;> rfl

/-- A node without a connection gets one. -/
theorem contextNames_setCon_some (nodup : cc.nodeNames.Nodup)
    {known : ValkeyClusterNode ValkeyContext} (member : known ∈ cc.nodes)
    (without : known.con = none) (con : ValkeyContext) :
    (cc.setCon known.id (some con)).contextNames.Perm (con.id :: cc.contextNames) := by
  refine contextNames_change nodup member (fun other => { other with con := some con }) ?_ rfl
  simp [ValkeyClusterNode.connections, without]

/-- A node loses its connection. -/
theorem contextNames_setCon_none (node : Nat) :
    (cc.setCon node none).contextNames.Sublist cc.contextNames := by
  refine List.Sublist.map _ ?_
  unfold contexts setCon
  dsimp only
  induction cc.nodes with
  | nil => exact List.Sublist.slnil
  | cons other rest induction =>
      rw [List.map_cons, List.flatMap_cons, List.flatMap_cons]
      refine List.Sublist.append ?_ induction
      split
      · exact List.sublist_append_right _ _
      · exact List.Sublist.refl _

theorem mem_contexts_setCon {node : Nat} {con : Option ValkeyContext} {found : ValkeyContext}
    (member : found ∈ (cc.setCon node con).contexts) : con = some found ∨ found ∈ cc.contexts := by
  obtain ⟨changed, inNodes, held⟩ := List.mem_flatMap.mp member
  obtain ⟨other, inOld, rfl⟩ := List.mem_map.mp inNodes
  split at held
  · rcases List.mem_append.mp held with own | replica
    · exact Or.inl (Option.mem_toList.mp own)
    · exact Or.inr (List.mem_flatMap.mpr ⟨other, inOld, List.mem_append_right _ replica⟩)
  · exact Or.inr (List.mem_flatMap.mpr ⟨other, inOld, held⟩)

theorem contextNames_close (nodup : cc.nodeNames.Nodup)
    {known : ValkeyClusterNode ValkeyContext} (member : known ∈ cc.nodes) {con : ValkeyContext}
    (held : known.con = some con) :
    cc.contextNames.Perm (con.id :: (cc.setCon known.id none).contextNames) := by
  obtain ⟨before, after, nodes, split⟩ :=
    split_change nodup member fun other => { other with con := none }
  have changed : (cc.setCon known.id none).nodes = before ++ { known with con := none } :: after :=
    split
  have connections : known.connections =
      con :: ({ known with con := none } : ValkeyClusterNode ValkeyContext).connections := by
    simp [ValkeyClusterNode.connections, held]
  simp only [ValkeyClusterContext.contextNames, contexts, changed, nodes, List.flatMap_append,
    List.flatMap_cons, connections, List.map_append, List.map_cons, List.cons_append]
  exact List.perm_middle

/-- The table keeps to the nodes as long as no node goes away. -/
theorem TableOwned.mono (owned : cc.TableOwned) (table : next.table = cc.table)
    (nodes : ∀ node ∈ cc.nodeNames, node ∈ next.nodeNames) : next.TableOwned := by
  intro entries known node member
  exact nodes node (owned entries (table ▸ known) node member)

theorem WellFormed.close (wellFormed : cc.WellFormed) (node : Nat) :
    (cc.setCon node none).WellFormed where
  nodeNames_nodup := (nodeNames_setCon node none).symm ▸ wellFormed.nodeNames_nodup
  addrs_nodup := (addrs_setCon node none).symm ▸ wellFormed.addrs_nodup
  contextNames_nodup := (contextNames_setCon_none node).nodup wellFormed.contextNames_nodup
  nodeNames_lt := by
    rw [nodeNames_setCon]
    exact wellFormed.nodeNames_lt
  contextNames_lt := fun c member =>
    wellFormed.contextNames_lt c ((contextNames_setCon_none node).subset member)
  tableOwned := wellFormed.tableOwned.mono rfl fun known member => by rwa [nodeNames_setCon]

/-! ## Connections of nodes -/

/-- What remains of the names when connections are only added. -/
structure Grows (cc next : ValkeyClusterContext) : Prop where
  nodeNames : next.nodeNames = cc.nodeNames
  table : next.table = cc.table
  contexts : ∀ c ∈ cc.contextNames, c ∈ next.contextNames

theorem SameNames.grows (same : SameNames cc next) : Grows cc next :=
  ⟨same.nodeNames, same.table, fun c member => by rwa [same.contextNames]⟩

theorem Grows.trans (first : Grows cc next) (second : Grows next last) : Grows cc last :=
  ⟨second.nodeNames.trans first.nodeNames, second.table.trans first.table,
    fun c member => second.contexts c (first.contexts c member)⟩

/-- The connection of a node. -/
theorem mem_contexts {known : ValkeyClusterNode ValkeyContext} {con : ValkeyContext}
    (member : known ∈ cc.nodes) (held : known.con = some con) : con ∈ cc.contexts := by
  refine List.mem_flatMap.mpr ⟨known, member, List.mem_append_left _ ?_⟩
  rw [held]
  exact List.mem_singleton_self _

/-- A way to store a new connection at one of the nodes. -/
structure StoresAt (nodes : List (ValkeyClusterNode ValkeyContext))
    (store : ValkeyClusterContext → ValkeyContext → ValkeyClusterContext) : Prop where
  only : ∀ cc con, ∃ changed, store cc con = { cc with nodes := changed }
  nodeNames : ∀ cc con, (store cc con).nodeNames = cc.nodeNames
  addrs : ∀ cc con, (store cc con).addrs = cc.addrs
  contexts : ∀ cc con, ∀ found ∈ (store cc con).contexts, found = con ∨ found ∈ cc.contexts
  added : ∀ cc con, cc.nodes = nodes → cc.nodeNames.Nodup →
    (store cc con).contextNames.Perm (con.id :: cc.contextNames)
  here : ∀ cc con, cc.nodes = nodes → con ∈ (store cc con).contexts

theorem storesAt_setCon {nodes : List (ValkeyClusterNode ValkeyContext)}
    {known : ValkeyClusterNode ValkeyContext} (member : known ∈ nodes)
    (without : known.con = none) : StoresAt nodes fun cc con => cc.setCon known.id (some con) where
  only _ _ := ⟨_, rfl⟩
  nodeNames cc con := nodeNames_setCon known.id (some con)
  addrs cc con := addrs_setCon known.id (some con)
  contexts _ _ _ inContexts := (mem_contexts_setCon inContexts).imp_left fun equal =>
    (Option.some.inj equal).symm
  added cc con same nodup := contextNames_setCon_some nodup (same ▸ member) without con
  here cc con same := by
    refine List.mem_flatMap.mpr ⟨{ known with con := some con }, ?_, by
      simp [ValkeyClusterNode.connections]⟩
    exact List.mem_map.mpr ⟨known, same ▸ member, if_pos rfl⟩

theorem WellFormed.of_obtains {network : Nat → Outcome} (wellFormed : cc.WellFormed) {port : Int}
    {held con : Option ValkeyContext}
    {store : ValkeyClusterContext → ValkeyContext → ValkeyClusterContext}
    (obtains : Obtains network cc port held store (con, next))
    (member : ∀ c ∈ held, c ∈ cc.contexts) (stores : held = none → StoresAt cc.nodes store) :
    next.WellFormed ∧ Grows cc next ∧ ∀ c ∈ con, c.id ∈ next.contextNames := by
  cases obtains with
  | unreachable without talked outcomes nextContext err paired commandWrites =>
      have names : next.contextNames = cc.contextNames := by
        simp only [ValkeyClusterContext.contextNames, ValkeyClusterContext.contexts, talked.nodes]
      have same : SameNames cc { next with nextContext := cc.nextContext } :=
        .of_fields talked.nodes talked.table talked.nextNode rfl
      have kept := wellFormed.of_sameNames same
      refine ⟨⟨kept.nodeNames_nodup, kept.addrs_nodup, kept.contextNames_nodup,
        kept.nodeNames_lt, fun c member => ?_, kept.tableOwned⟩, ⟨?_, talked.table, ?_⟩, ?_⟩
      · exact Nat.lt_of_lt_of_le (kept.contextNames_lt c member) nextContext
      · simp only [ValkeyClusterContext.nodeNames, talked.nodes]
      · exact fun c member => by rwa [names]
      · exact fun c none => nomatch none
  | existing known alive =>
      refine ⟨wellFormed, (SameNames.refl cc).grows, fun c equal => ?_⟩
      obtain rfl := Option.some.inj equal
      exact List.mem_map_of_mem (member _ known)
  | @reconnected old con middle known lost made established id nextContext =>
      have talked := established.talked
      have same : SameNames cc (middle.putContext con) :=
        (SameNames.of_fields talked.nodes talked.table talked.nextNode nextContext).trans
          (sameNames_putContext middle con)
      refine ⟨wellFormed.of_sameNames same, same.grows, fun c equal => ?_⟩
      obtain rfl := Option.some.inj equal
      rw [same.contextNames, id]
      exact List.mem_map_of_mem (member old known)
  | @new con middle without established id nextContext err accepted =>
      have talked := established.talked
      have stored := stores without
      have sameNodes : middle.nodeNames = cc.nodeNames := by
        simp only [ValkeyClusterContext.nodeNames, talked.nodes]
      have sameAddrs : middle.addrs = cc.addrs := by
        simp only [ValkeyClusterContext.addrs, talked.nodes]
      have sameContexts : middle.contextNames = cc.contextNames := by
        simp only [ValkeyClusterContext.contextNames, ValkeyClusterContext.contexts, talked.nodes]
      have nodeNames := (stored.nodeNames middle con).trans sameNodes
      have addrs := (stored.addrs middle con).trans sameAddrs
      have added := stored.added middle con talked.nodes
        (sameNodes ▸ wellFormed.nodeNames_nodup)
      rw [id, sameContexts] at added
      obtain ⟨changed, only⟩ := stored.only middle con
      have table : (store middle con).table = cc.table := by
        rw [only]
        exact talked.table
      have nextNode : (store middle con).nextNode = cc.nextNode := by
        rw [only]
        exact talked.nextNode
      have next : (store middle con).nextContext = cc.nextContext + 1 := by
        rw [only]
        exact nextContext
      have fresh : cc.nextContext ∉ cc.contextNames := fun member =>
        Nat.lt_irrefl _ (wellFormed.contextNames_lt _ member)
      refine ⟨⟨nodeNames ▸ wellFormed.nodeNames_nodup, addrs ▸ wellFormed.addrs_nodup,
        added.nodup_iff.mpr (List.nodup_cons.mpr ⟨fresh, wellFormed.contextNames_nodup⟩),
        by rw [nodeNames, nextNode]; exact wellFormed.nodeNames_lt, fun c member => ?_,
        wellFormed.tableOwned.mono table fun node member => nodeNames ▸ member⟩,
        ⟨nodeNames, table, fun c member => ?_⟩, fun c equal => ?_⟩
      · rw [next]
        rcases List.mem_cons.mp (added.mem_iff.mp member) with rfl | old
        · exact Nat.lt_succ_self _
        · exact Nat.lt_succ_of_lt (wellFormed.contextNames_lt c old)
      · exact added.mem_iff.mpr (List.mem_cons_of_mem _ member)
      · obtain rfl := Option.some.inj equal
        rw [id]
        exact added.mem_iff.mpr List.mem_cons_self

theorem WellFormed.of_obtainsFor {network : Nat → Outcome} (wellFormed : cc.WellFormed)
    {node : Nat} {con : Option ValkeyContext} (obtains : ObtainsFor network cc node (con, next)) :
    next.WellFormed ∧ Grows cc next ∧ ∀ c ∈ con, c.id ∈ next.contextNames := by
  obtain ⟨known, member, _, obtains⟩ := obtains
  exact wellFormed.of_obtains obtains (fun c held => mem_contexts member held)
    (storesAt_setCon member)

/-! ## New nodes -/

/-- A name of a connection belongs to one node. -/
theorem WellFormed.node_unique (wellFormed : cc.WellFormed)
    {first second : ValkeyClusterNode ValkeyContext} (firstMember : first ∈ cc.nodes)
    (secondMember : second ∈ cc.nodes) {left right : ValkeyContext}
    (firstCon : first.con = some left) (secondCon : second.con = some right)
    (same : left.id = right.id) : first = second := by
  by_contra different
  have nodup := wellFormed.contextNames_nodup
  unfold ValkeyClusterContext.contextNames contexts at nodup
  rw [List.map_flatMap, List.nodup_flatMap] at nodup
  have own : ∀ {node : ValkeyClusterNode ValkeyContext} {con : ValkeyContext},
      node.con = some con → con.id ∈ node.connections.map (·.id) := by
    intro node con held
    refine List.mem_map_of_mem (List.mem_append_left _ ?_)
    rw [held]
    exact List.mem_singleton_self _
  have symmetric : Std.Symm (Function.onFun List.Disjoint
      fun node : ValkeyClusterNode ValkeyContext => node.connections.map (·.id)) :=
    ⟨fun _ _ disjoint _ inLeft inRight => disjoint inRight inLeft⟩
  exact nodup.2.forall firstMember secondMember different (own firstCon) (same ▸ own secondCon)

/-- The connection that a new node takes over. -/
def takenOver (cc : ValkeyClusterContext) (addr : Bytes) : Option ValkeyContext :=
  (findByAddr cc.nodes addr).bind (·.con)

theorem contexts_swap {base : Nat} {nodes : List (ValkeyClusterNode ValkeyContext)}
    (new : NewNodes base nodes) :
    (cluster_nodes_swap_ctx cc.nodes nodes).flatMap (·.connections) =
      (nodes.map (·.addr)).filterMap cc.takenOver := by
  unfold cluster_nodes_swap_ctx
  rw [List.flatMap_map, List.filterMap_map, List.filterMap_eq_flatMap_toList]
  refine List.flatMap_congr fun node member => ?_
  obtain ⟨unconnected, noReplicas⟩ :=
    List.append_eq_nil_iff.mp (new.unconnected node member).connections
  have con := Option.toList_eq_nil_iff.mp unconnected
  simp only [Function.comp, takenOver, ValkeyClusterNode.connections]
  cases findByAddr cc.nodes node.addr with
  | none => simp [con, noReplicas]
  | some old => simp [con, noReplicas]

theorem takenOver_mem {addr : Bytes} {c : ValkeyContext} (taken : cc.takenOver addr = some c) :
    ∃ node ∈ cc.nodes, node.addr = addr ∧ node.con = some c := by
  obtain ⟨node, found, con⟩ := Option.bind_eq_some_iff.mp taken
  exact ⟨node, List.mem_of_find?_eq_some found, by simpa using List.find?_some found, con⟩

/-- The connections of the new nodes are connections of the old ones. -/
theorem contexts_replaceNodes {base : Nat} {nodes : List (ValkeyClusterNode ValkeyContext)}
    (new : NewNodes base nodes) {table : List (Option Nat)} {con : ValkeyContext}
    (member : con ∈ (cc.replaceNodes table nodes).contexts) : con ∈ cc.contexts := by
  unfold contexts ValkeyClusterContext.replaceNodes at member
  dsimp only at member
  rw [contexts_swap new] at member
  obtain ⟨addr, _, found⟩ := List.mem_filterMap.mp member
  obtain ⟨node, inNodes, _, held⟩ := takenOver_mem found
  exact mem_contexts inNodes held

theorem names_swap {nodes : List (ValkeyClusterNode ValkeyContext)} :
    (cluster_nodes_swap_ctx cc.nodes nodes).map (·.id) = nodes.map (·.id) ∧
      (cluster_nodes_swap_ctx cc.nodes nodes).map (·.addr) = nodes.map (·.addr) := by
  unfold cluster_nodes_swap_ctx
  simp only [List.map_map]
  constructor <;> refine List.map_congr_left fun node _ => ?_ <;>
    dsimp only [Function.comp] <;> split <;> rfl

theorem WellFormed.replaceNodes (wellFormed : cc.WellFormed)
    {nodes : List (ValkeyClusterNode ValkeyContext)} (new : NewNodes cc.nextNode nodes)
    {table : List (Option Nat)} (refers : RefersTo (nodes.map (·.id)) table) :
    (cc.replaceNodes table nodes).WellFormed where
  nodeNames_nodup := by
    unfold ValkeyClusterContext.nodeNames ValkeyClusterContext.replaceNodes
    rw [names_swap.1, new.names]
    exact List.nodup_range'
  addrs_nodup := by
    unfold ValkeyClusterContext.addrs ValkeyClusterContext.replaceNodes
    rw [names_swap.2]
    exact new.addrs
  contextNames_nodup := by
    unfold ValkeyClusterContext.contextNames contexts ValkeyClusterContext.replaceNodes
    rw [contexts_swap new, List.map_filterMap]
    refine List.Nodup.filterMap (fun left right name leftName rightName => ?_) new.addrs
    obtain ⟨c, leftTaken, rfl⟩ := Option.map_eq_some_iff.mp leftName
    obtain ⟨d, rightTaken, same⟩ := Option.map_eq_some_iff.mp rightName
    obtain ⟨first, firstMember, rfl, firstCon⟩ := takenOver_mem leftTaken
    obtain ⟨second, secondMember, rfl, secondCon⟩ := takenOver_mem rightTaken
    rw [wellFormed.node_unique firstMember secondMember firstCon secondCon same.symm]
  nodeNames_lt := by
    unfold ValkeyClusterContext.nodeNames ValkeyClusterContext.replaceNodes
    rw [names_swap.1, new.names]
    intro node member
    exact (List.mem_range'_1.mp member).2
  contextNames_lt := by
    intro name member
    obtain ⟨c, inContexts, rfl⟩ := List.mem_map.mp member
    exact wellFormed.contextNames_lt c.id
      (List.mem_map_of_mem (contexts_replaceNodes new inContexts))
  tableOwned := by
    intro entries known node member
    obtain rfl := Option.some.inj known
    unfold ValkeyClusterContext.nodeNames ValkeyClusterContext.replaceNodes
    rw [names_swap.1]
    exact refers node member

theorem updateNodesAndSlotmap_cases (order : IterationOrder) (allocated : Bool)
    (cc : ValkeyClusterContext) (nodes : List (ValkeyClusterNode ValkeyContext)) :
    (∃ type str, updateNodesAndSlotmap order allocated cc nodes = (.err, cc.setError type str)) ∨
      ∃ table, allocated ∧ createTable order nodes = .ok table ∧
        updateNodesAndSlotmap order allocated cc nodes = (.ok, cc.replaceNodes table nodes) := by
  unfold updateNodesAndSlotmap
  cases allocated with
  | false => exact Or.inl ⟨_, _, rfl⟩
  | true =>
      cases createTable order nodes with
      | error message => exact Or.inl ⟨_, _, rfl⟩
      | ok table => exact Or.inr ⟨table, rfl, rfl, rfl⟩

end ValkeyClusterContext

/-! ## The slot-map update -/

section Update

variable (network : Nat → Outcome) (order : IterationOrder) {cc : ValkeyClusterContext}

/-- No fault is allowed. -/
def noFault (_ : Fault) : Prop := False

open ValkeyClusterContext

theorem ensures_sendCommand {c : Nat} (known : c ∈ cc.contextNames) :
    Ensures (clusterUpdateRouteSendCommand network cc c) noFault fun result =>
      SameNames cc result.2 := by
  refine (ensures_context fun dangling => dangling known).bind fun con _ => ?_
  have same := ((sameNames_advance cc).trans (sameNames_putContext cc.advance
    (valkeyBufferWrite (network cc.outcomes) (valkeyAppendCommand con .route)).2)).trans
      (sameNames_recordWrites _ (valkeyAppendCommand con .route).flushed)
  dsimp only
  split
  · exact same
  · exact same.trans (sameNames_setContextError _ _)

theorem parses_routeReply (cc : ValkeyClusterContext) (host : Bytes) (reply : ReplyTree) :
    Parses (parseRouteReply cc host reply) (NewNodes cc.nextNode) := by
  unfold parseRouteReply
  split
  · exact parses_cluster_nodes _ host reply
  · exact parses_cluster_slots _ host reply

theorem filled_routeReply (cc : ValkeyClusterContext) (host : Bytes) (reply : ReplyTree) :
    Parses (parseRouteReply cc host reply) fun nodes => nodes ≠ [] := by
  unfold parseRouteReply
  split
  · exact filled_cluster_nodes _ host reply
  · exact filled_cluster_slots _ host reply

/-- What an attempt to replace the nodes leaves. -/
structure Attempted (cc : ValkeyClusterContext) (result : Status × ValkeyClusterContext) :
    Prop where
  wellFormed : result.2.WellFormed
  unchanged : result.1 = .err → SameNames cc result.2
  replaced : result.1 = .ok → result.2.table.isSome

theorem Attempted.of_same (wellFormed : cc.WellFormed) {next : ValkeyClusterContext}
    (same : SameNames cc next) : Attempted cc (.err, next) :=
  ⟨wellFormed.of_sameNames same, fun _ => same, fun ok => nomatch ok⟩

theorem ensures_handleReply (wellFormed : cc.WellFormed) {c : Nat}
    (known : c ∈ cc.contextNames) :
    Ensures (clusterUpdateRouteHandleReply network order cc c) noFault (Attempted cc) := by
  refine (ensures_context fun dangling => dangling known).bind fun con _ => ?_
  have same := sameNames_exchange cc con (valkeyGetReply (network cc.outcomes) con).2 .route
    (valkeyGetReply (network cc.outcomes) con).1
  dsimp only
  generalize cc.exchange con (valkeyGetReply (network cc.outcomes) con).2 .route
    (valkeyGetReply (network cc.outcomes) con).1 = read at same ⊢
  split
  · exact .of_same wellFormed (same.trans (sameNames_setContextError _ _))
  split
  · exact .of_same wellFormed (same.trans (sameNames_setError _ _ _))
  · have parsed := parses_routeReply read
      (valkeyGetReply (network cc.outcomes) con).2.host
    split
    · exact .of_same wellFormed (same.trans (sameNames_setError _ _ _))
    · rename_i made
      have new := (parsed _).of_ok made
      rcases updateNodesAndSlotmap_cases order true read _ with
        ⟨type, str, updated⟩ | ⟨table, _, filled, updated⟩
      · rw [updated]
        exact .of_same wellFormed (same.trans (sameNames_setError _ type str))
      · rw [updated]
        have refers := (parses_createTable order _).of_ok filled
        exact ⟨(wellFormed.of_sameNames same).replaceNodes new refers,
          fun err => (nomatch err), fun _ => rfl⟩

theorem ensures_queryRoute (wellFormed : cc.WellFormed) {c : Nat}
    (known : c ∈ cc.contextNames) :
    Ensures (queryRoute network order cc c) noFault (Attempted cc) := by
  refine (ensures_sendCommand network known).bind fun sent same => ?_
  dsimp only
  split
  · exact .of_same wellFormed same
  · have handled := ensures_handleReply network order (wellFormed.of_sameNames same)
      (same.contextNames.symm ▸ known)
    exact handled.mono fun result attempted =>
      ⟨attempted.wellFormed, fun err => same.trans (attempted.unchanged err), attempted.replaced⟩

/-- What the update of the slot map leaves. -/
structure Updated (cc : ValkeyClusterContext) (result : Status × ValkeyClusterContext) :
    Prop where
  wellFormed : result.2.WellFormed
  nodeNames : result.1 = .err → result.2.nodeNames = cc.nodeNames
  table : result.1 = .err → result.2.table = cc.table
  replaced : result.1 = .ok → result.2.table.isSome

theorem ensures_updateSlotmapFrom (nodes : List Nat) (wellFormed : cc.WellFormed)
    (known : ∀ node ∈ nodes, node ∈ cc.nodeNames) :
    Ensures (updateSlotmapFrom network order cc nodes) noFault (Updated cc) := by
  induction nodes generalizing cc with
  | nil => exact ⟨wellFormed, fun _ => rfl, fun _ => rfl, fun ok => nomatch ok⟩
  | cons node rest induction =>
      have here := known node List.mem_cons_self
      refine (ensures_obtains network cc fun dangling => dangling here).bind
        fun ⟨con, next⟩ obtains => ?_
      obtain ⟨nextWellFormed, grows, named⟩ := wellFormed.of_obtainsFor obtains
      have others : ∀ {last : ValkeyClusterContext}, last.nodeNames = cc.nodeNames →
          ∀ node ∈ rest, node ∈ last.nodeNames := fun same node member =>
        same ▸ known node (List.mem_cons_of_mem _ member)
      have later : ∀ {last : ValkeyClusterContext}, last.WellFormed →
          last.nodeNames = cc.nodeNames → last.table = cc.table →
            Ensures (updateSlotmapFrom network order last rest) noFault (Updated cc) := by
        intro last lastWellFormed sameNodes sameTable
        exact (induction lastWellFormed (others sameNodes)).mono fun result updated =>
          ⟨updated.wellFormed, fun err => (updated.nodeNames err).trans sameNodes,
            fun err => (updated.table err).trans sameTable, updated.replaced⟩
      cases con with
      | none => exact later nextWellFormed grows.nodeNames grows.table
      | some c =>
          refine (ensures_queryRoute network order nextWellFormed (named c rfl)).bind
            fun ⟨status, last⟩ attempted => ?_
          cases status with
          | ok =>
              exact ⟨attempted.wellFormed.of_sameNames (sameNames_clearError _),
                fun err => (nomatch err), fun err => (nomatch err), fun _ => attempted.replaced rfl⟩
          | err =>
              have same := attempted.unchanged rfl
              exact later (attempted.wellFormed.close node)
                ((nodeNames_setCon node none).trans (same.nodeNames.trans grows.nodeNames))
                (same.table.trans grows.table)

theorem ensures_updateSlotmap (wellFormed : cc.WellFormed) :
    Ensures (valkeyClusterUpdateSlotmap network order cc) noFault (Updated cc) := by
  refine ensures_updateSlotmapFrom network order _ wellFormed fun node member => ?_
  exact ((order.perm cc.nodes).map _).mem_iff.mp member

end Update

end Libvalkey
