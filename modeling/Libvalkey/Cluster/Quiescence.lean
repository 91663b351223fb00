import Libvalkey.Cluster.PipelineRuns
import Libvalkey.Cluster.Changes
import Libvalkey.Foundation.Weights

/-! # Quiescence after a reset

How many replies the open connections still owe, against how many commands the client
remembers. `valkeyClusterReset` reads one reply for every command that it remembers, or
closes the connections of the primaries. -/

namespace Libvalkey

open Checked ValkeyClusterContext Weights

/-! ## One connection -/

namespace ValkeyContext

/-- The number of replies that an open connection owes. -/
def pending (c : ValkeyContext) : Nat := if c.err = none then c.outstanding.length else 0

variable {c con : ValkeyContext}

theorem pending_idle (idle : c.outstanding = []) : c.pending = 0 := by
  unfold pending
  rw [idle, List.length_nil, ite_self]

theorem pending_lost (lost : c.err ≠ none) : c.pending = 0 := if_neg lost

theorem pending_eq_zero : c.pending = 0 ↔ (c.err = none → c.outstanding = []) := by
  unfold pending
  split <;> simp [*]

theorem pending_append (c : ValkeyContext) (request : Request) :
    (valkeyAppendCommand c request).pending ≤ c.pending + 1 := by
  unfold pending
  rw [outstanding_append]
  change (if c.err = none then _ else 0) ≤ _
  split
  · rw [List.length_append, List.length_singleton]
  · exact Nat.zero_le _

theorem pending_write (outcome : Outcome) (c : ValkeyContext) :
    (valkeyBufferWrite outcome c).2.pending ≤ c.pending := by
  rcases valkeyBufferWrite_cases outcome c with ⟨written, alive⟩ | ⟨err, failed⟩
  · rw [written]
    simp [pending, outstanding, alive]
  · rw [failed]
    exact (pending_lost (Option.some_ne_none err)).trans_le (Nat.zero_le _)

/-- Reading takes a reply, where one is owed. -/
theorem pending_read (outcome : Outcome) (c : ValkeyContext) :
    (valkeyGetReply outcome c).2.pending ≤ c.pending - 1 := by
  rcases valkeyGetReply_cases outcome c with ⟨answer, con, read, reads⟩ | ⟨con, read, lost⟩
  · rw [read]
    unfold pending
    rw [reads.err, reads.outstanding]
    split
    · exact le_rfl
    · exact Nat.zero_le _
  · rw [read]
    exact (pending_lost lost.err).trans_le (Nat.zero_le _)

theorem pending_answered {outcome : Outcome} {answer : Answer} (alive : c.err = none)
    (read : valkeyGetReply outcome c = (some answer, con)) : 0 < c.pending := by
  rcases valkeyGetReply_cases outcome c with ⟨first, after, taken, reads⟩ | ⟨after, taken, _⟩
  · unfold pending
    rw [if_pos alive, reads.outstanding]
    exact Nat.succ_pos _
  · rw [taken] at read
    exact nomatch read

end ValkeyContext

/-! ## The connections of the client -/

namespace ValkeyClusterContext

variable {cc next last : ValkeyClusterContext}

/-- The connections of the primaries. -/
def primaryContexts (cc : ValkeyClusterContext) : List ValkeyContext := cc.nodes.filterMap (·.con)

/-- The connections of the replicas. -/
def replicaContexts (cc : ValkeyClusterContext) : List ValkeyContext :=
  cc.nodes.flatMap fun node => node.replicas.filterMap (·.con)

theorem mem_contexts_iff {con : ValkeyContext} :
    con ∈ cc.contexts ↔ con ∈ cc.primaryContexts ∨ con ∈ cc.replicaContexts := by
  unfold contexts primaryContexts replicaContexts ValkeyClusterNode.connections
  simp only [List.mem_flatMap, List.mem_append, Option.mem_toList, List.mem_filterMap, and_or_left,
    exists_or]

/-- The connections of primaries and replicas are different ones. -/
theorem WellFormed.not_replica (wellFormed : cc.WellFormed) {con other : ValkeyContext}
    (primary : con ∈ cc.primaryContexts) (replica : other ∈ cc.replicaContexts) :
    con.id ≠ other.id := by
  have whole := List.flatMap_append_perm cc.nodes (fun node => node.con.toList)
    fun node => node.replicas.filterMap (·.con)
  have names := (whole.map ValkeyContext.id).nodup_iff.mpr wellFormed.contextNames_nodup
  rw [List.map_append] at names
  intro same
  apply (List.nodup_append.mp names).2.2 con.id (List.mem_map_of_mem _) other.id
    (List.mem_map_of_mem replica) same
  obtain ⟨node, member, held⟩ := List.mem_filterMap.mp primary
  exact List.mem_flatMap.mpr ⟨node, member, Option.mem_toList.mpr held⟩

/-- The number of replies that the connections of the client owe. -/
def pendingReplies (cc : ValkeyClusterContext) : Nat := (cc.contexts.map (·.pending)).sum

/-- What the connections owe is bounded by what the connections with the same name owed. -/
structure Weighs (bound : ValkeyContext → Nat) (cc next : ValkeyClusterContext) : Prop where
  primaries : Dominated (·.id) (·.pending) bound next.primaryContexts cc.primaryContexts
  replicas : Dominated (·.id) (·.pending) bound next.replicaContexts cc.replicaContexts

/-- One reply more on a connection. -/
def raised (c : Nat) (con : ValkeyContext) : Nat :=
  if con.id = c then con.pending + 1 else con.pending

/-- One reply less on a connection. -/
def lowered (c : Nat) (con : ValkeyContext) : Nat :=
  if con.id = c then con.pending - 1 else con.pending

theorem lowered_le (c : Nat) (con : ValkeyContext) : lowered c con ≤ con.pending := by
  unfold lowered
  split
  · exact Nat.sub_le _ _
  · exact le_rfl

namespace Weighs

variable {bound : ValkeyContext → Nat}

theorem mono {larger : ValkeyContext → Nat} (weighs : Weighs bound cc next)
    (le : ∀ con, bound con ≤ larger con) : Weighs larger cc next :=
  ⟨weighs.primaries.mono le, weighs.replicas.mono le⟩

theorem contexts (weighs : Weighs bound cc next) :
    Dominated (·.id) (·.pending) bound next.contexts cc.contexts := by
  intro con member
  rcases mem_contexts_iff.mp member with primary | replica
  · apply (weighs.primaries con primary).imp_right
    rintro ⟨old, inOld, small⟩
    exact ⟨old, mem_contexts_iff.mpr (.inl inOld), small⟩
  · apply (weighs.replicas con replica).imp_right
    rintro ⟨old, inOld, small⟩
    exact ⟨old, mem_contexts_iff.mpr (.inr inOld), small⟩

theorem trans {later total : ValkeyContext → Nat} (first : Weighs bound cc next)
    (second : Weighs later next last)
    (le : ∀ old middle, old.id = middle.id → middle.pending ≤ bound old → later middle ≤ total old)
    (none : ∀ middle, middle.pending = 0 → later middle = 0) : Weighs total cc last :=
  ⟨first.primaries.trans second.primaries le none, first.replicas.trans second.replicas le none⟩

/-- What weighs no more than before weighs no more after that. -/
theorem then_le (first : Weighs bound cc next) (second : Weighs (·.pending) next last) :
    Weighs bound cc last :=
  first.trans second (fun _ _ _ le => le) fun _ none => none

theorem of_nodes (nodes : next.nodes = cc.nodes) : Weighs (·.pending) cc next := by
  constructor
  · unfold primaryContexts
    rw [nodes]
    exact .of_light_or_mem fun _ member => .inr member
  · unfold replicaContexts
    rw [nodes]
    exact .of_light_or_mem fun _ member => .inr member

theorem of_nodes_of_le {bound : ValkeyContext → Nat} (weighs : Weighs bound cc next)
    (nodes : last.nodes = next.nodes) : Weighs bound cc last := weighs.then_le (.of_nodes nodes)

/-- A connection has been used. -/
theorem of_put {after : ValkeyContext} (nodes : next.nodes = (cc.putContext after).nodes)
    (here : ∀ con ∈ cc.contexts, con.id = after.id → after.pending ≤ bound con)
    (others : ∀ con, con.id ≠ after.id → con.pending ≤ bound con) : Weighs bound cc next := by
  have used : ∀ con ∈ cc.contexts, (if con.id = after.id then after else con).id = con.id ∧
      (if con.id = after.id then after else con).pending ≤ bound con := by
    intro con member
    split
    · rename_i same
      exact ⟨same.symm, here con member same⟩
    · rename_i different
      exact ⟨rfl, others con different⟩
  apply of_nodes_of_le _ nodes
  constructor
  · have primaries : (cc.putContext after).primaryContexts =
        cc.primaryContexts.map fun con => if con.id = after.id then after else con := by
      unfold primaryContexts putContext
      rw [List.filterMap_map, List.map_filterMap]
      rfl
    rw [primaries]
    exact .of_map fun con member => used con (mem_contexts_iff.mpr (.inl member))
  · have replicas : (cc.putContext after).replicaContexts =
        cc.replicaContexts.map fun con => if con.id = after.id then after else con := by
      unfold replicaContexts putContext
      rw [List.flatMap_map, List.map_flatMap]
      apply List.flatMap_congr
      intro node _
      dsimp only [ValkeyClusterNode.mapCon]
      rw [List.filterMap_map, List.map_filterMap]
      rfl
    rw [replicas]
    exact .of_map fun con member => used con (mem_contexts_iff.mpr (.inr member))

/-- Primaries have lost their connections, or got new ones. -/
theorem of_primaries (primaries : ∀ con ∈ next.primaryContexts, con.pending = 0 ∨
    con ∈ cc.primaryContexts)
    (replicas : next.replicaContexts = cc.replicaContexts) : Weighs (·.pending) cc next := by
  refine ⟨.of_light_or_mem primaries, ?_⟩
  rw [replicas]
  exact .of_light_or_mem fun _ member => .inr member

theorem setCon (node : Nat) (con : Option ValkeyContext) (idle : ∀ c ∈ con, c.pending = 0) :
    Weighs (·.pending) cc (cc.setCon node con) := by
  apply of_primaries
  · intro found member
    obtain ⟨changed, inNodes, held⟩ := List.mem_filterMap.mp member
    obtain ⟨old, inOld, rfl⟩ := List.mem_map.mp inNodes
    split at held
    · exact .inl (idle found held)
    · exact .inr (List.mem_filterMap.mpr ⟨old, inOld, held⟩)
  · unfold replicaContexts ValkeyClusterContext.setCon
    rw [List.flatMap_map]
    apply List.flatMap_congr
    intro other _
    split <;> rfl

theorem clearAll : Weighs (·.pending) cc cc.clearAll := by
  apply of_primaries
  · intro found member
    obtain ⟨changed, inNodes, held⟩ := List.mem_filterMap.mp member
    obtain ⟨old, _, rfl⟩ := List.mem_map.mp inNodes
    exact nomatch held
  · unfold replicaContexts ValkeyClusterContext.clearAll
    rw [List.flatMap_map]

theorem setReplicaCon (node index : Nat) {con : ValkeyContext} (idle : con.pending = 0) :
    Weighs (·.pending) cc (cc.setReplicaCon node index (some con)) := by
  constructor
  · have primaries : (cc.setReplicaCon node index (some con)).primaryContexts =
        cc.primaryContexts := by
      unfold primaryContexts ValkeyClusterContext.setReplicaCon
      rw [List.filterMap_map]
      apply List.filterMap_congr
      intro other _
      dsimp only [Function.comp]
      split <;> rfl
    rw [primaries]
    exact .of_light_or_mem fun _ member => .inr member
  · apply Dominated.of_light_or_mem
    intro found member
    obtain ⟨changed, inNodes, held⟩ := List.mem_flatMap.mp member
    obtain ⟨other, inOld, rfl⟩ := List.mem_map.mp inNodes
    split at held
    · obtain ⟨replica, inModified, replicaCon⟩ := List.mem_filterMap.mp held
      obtain ⟨position, here⟩ := List.mem_iff_getElem?.mp inModified
      rw [List.getElem?_modify] at here
      obtain ⟨before, known, rfl⟩ := Option.map_eq_some_iff.mp here
      split at replicaCon
      · obtain rfl := Option.some.inj replicaCon
        exact .inl idle
      · exact .inr (List.mem_flatMap.mpr ⟨other, inOld,
          List.mem_filterMap.mpr ⟨before, List.mem_of_getElem? known, replicaCon⟩⟩)
    · exact .inr (List.mem_flatMap.mpr ⟨other, inOld, held⟩)

/-- The new nodes take over connections of primaries, and their replicas have none. -/
theorem replaceNodes {base : Nat} {nodes : List (ValkeyClusterNode ValkeyContext)}
    (new : NewNodes base nodes) (table : List (Option Nat)) :
    Weighs (·.pending) cc (cc.replaceNodes table nodes) := by
  constructor
  · apply Dominated.of_light_or_mem
    intro con member
    obtain ⟨node, inNew, held⟩ := List.mem_filterMap.mp member
    obtain ⟨fresh, inNodes, rfl⟩ := List.mem_map.mp inNew
    have without := (new.unconnected fresh inNodes).con
    right
    split at held
    · exact nomatch without.symm.trans held
    · rename_i old found
      rw [without, Option.or_none] at held
      exact List.mem_filterMap.mpr ⟨old, List.mem_of_find?_eq_some found, held⟩
  · apply Dominated.of_light_or_mem
    intro con member
    obtain ⟨node, inNew, held⟩ := List.mem_flatMap.mp member
    obtain ⟨fresh, inNodes, rfl⟩ := List.mem_map.mp inNew
    have same : (fresh.replicas.filterMap (·.con)) = [] :=
      (List.append_eq_nil_iff.mp (new.unconnected fresh inNodes).connections).2
    split at held <;> exact nomatch same ▸ held

end Weighs

/-- The client remembers the same commands, and its connections owe no more than before. -/
structure Eases (cc next : ValkeyClusterContext) : Prop where
  requests : next.requests = cc.requests
  weighs : Weighs (·.pending) cc next

namespace Eases

theorem of_nodes (requests : next.requests = cc.requests) (nodes : next.nodes = cc.nodes) :
    Eases cc next := ⟨requests, .of_nodes nodes⟩

theorem refl (cc : ValkeyClusterContext) : Eases cc cc := .of_nodes rfl rfl

theorem trans (first : Eases cc next) (second : Eases next last) : Eases cc last :=
  ⟨second.requests.trans first.requests, first.weighs.then_le second.weighs⟩

theorem setError (type : ErrorType) (str : Bytes) : Eases cc (cc.setError type str) :=
  .of_nodes rfl rfl

theorem setContextError (con : ValkeyContext) : Eases cc (cc.setContextError con) :=
  .of_nodes (SameRequests.setContextError cc con).requests (nodes_setContextError cc con)

end Eases

theorem Touched.weighs {con after : ValkeyContext} (touched : Touched cc con after next)
    (wellFormed : cc.WellFormed) (member : con ∈ cc.contexts) {bound : ValkeyContext → Nat}
    (here : after.pending ≤ bound con)
    (others : ∀ other, other.id ≠ con.id → other.pending ≤ bound other) : Weighs bound cc next := by
  apply Weighs.of_put touched.nodes
  · intro other inContexts same
    obtain rfl := List.inj_on_of_nodup_map wellFormed.contextNames_nodup inContexts member
      (same.trans touched.id)
    exact here
  · exact fun other different => others other fun same => different (same.trans touched.id.symm)

theorem Touched.eases {con after : ValkeyContext} (touched : Touched cc con after next)
    (wellFormed : cc.WellFormed) (member : con ∈ cc.contexts)
    (small : after.pending ≤ con.pending) : Eases cc next :=
  ⟨touched.same.requests, touched.weighs wellFormed member small fun _ _ => le_rfl⟩

/-- A reply has been read, where one was owed. -/
theorem Touched.lowers {con after : ValkeyContext} (touched : Touched cc con after next)
    (wellFormed : cc.WellFormed) (member : con ∈ cc.contexts)
    (small : after.pending ≤ con.pending - 1) : Weighs (lowered con.id) cc next := by
  apply touched.weighs wellFormed member
  · unfold lowered
    rwa [if_pos rfl]
  · intro other different
    unfold lowered
    rw [if_neg different]

/-! ## The slot-map update -/

section Update

variable {network : Nat → Outcome} {order : IterationOrder}

theorem eases_obtains {port : Int} {held con : Option ValkeyContext}
    {store : ValkeyClusterContext → ValkeyContext → ValkeyClusterContext}
    (obtains : Obtains network cc port held store (con, next))
    (stores : ∀ middle fresh, fresh.pending = 0 → Eases middle (store middle fresh)) :
    Eases cc next := by
  cases obtains with
  | unreachable without talked => exact .of_nodes talked.requests talked.nodes
  | existing known alive => exact .refl cc
  | @reconnected old con middle known lost made established id nextContext =>
      have talked : Eases cc middle :=
        .of_nodes established.talked.requests established.talked.nodes
      apply talked.trans
      refine ⟨rfl, .of_put rfl ?_ fun _ _ => le_rfl⟩
      intro _ _ _
      exact (ValkeyContext.pending_idle established.idle).trans_le (Nat.zero_le _)
  | @new con middle without established =>
      have talked : Eases cc middle :=
        .of_nodes established.talked.requests established.talked.nodes
      exact talked.trans (stores middle con (ValkeyContext.pending_idle established.idle))

theorem eases_setCon (node : Nat) (con : Option ValkeyContext) (idle : ∀ c ∈ con, c.pending = 0) :
    Eases cc (cc.setCon node con) := ⟨rfl, .setCon node con idle⟩

/-- The connection that a node was asked for is the one of a primary. -/
theorem primary_obtained {known : ValkeyClusterNode ValkeyContext} (member : known ∈ cc.nodes)
    {port : Int} {c : ValkeyContext}
    (obtains : Obtains network cc port known.con (fun cc c => cc.setCon known.id (some c))
      (some c, next)) : c ∈ next.primaryContexts := by
  cases obtains with
  | existing held alive => exact List.mem_filterMap.mpr ⟨known, member, held⟩
  | @reconnected old _ middle held lost made established id =>
      have inMiddle : known ∈ middle.nodes := established.talked.nodes ▸ member
      apply List.mem_filterMap.mpr
      refine ⟨_, List.mem_map_of_mem inMiddle, ?_⟩
      simp [ValkeyClusterNode.mapCon, held, id]
  | @new _ middle without established =>
      have inMiddle : known ∈ middle.nodes := established.talked.nodes ▸ member
      exact List.mem_filterMap.mpr
        ⟨{ known with con := some c }, List.mem_map.mpr ⟨known, inMiddle, if_pos rfl⟩, rfl⟩

theorem eases_getContext (node : Nat) :
    Ensures (valkeyClusterGetValkeyContext network cc node) anyFault fun result =>
      Eases cc result.2 ∧ ∀ c ∈ result.1, c ∈ result.2.primaryContexts := by
  apply (ensures_obtains network cc fun _ => trivial).mono
  rintro ⟨con, next⟩ ⟨known, member, _, obtains⟩
  constructor
  · apply eases_obtains obtains
    intro middle fresh idle
    apply eases_setCon
    intro c held
    obtain rfl := Option.some.inj held
    exact idle
  · intro c held
    obtain rfl : con = some c := held
    exact primary_obtained member obtains

theorem lowers_handleReply (wellFormed : cc.WellFormed) (c : Nat) :
    Ensures (clusterUpdateRouteHandleReply network order cc c) anyFault fun result =>
      result.2.requests = cc.requests ∧ Weighs (lowered c) cc result.2 := by
  apply (ensures_context fun _ => trivial).bind
  rintro con ⟨member, rfl⟩
  have touched : Touched cc con (valkeyGetReply (network cc.outcomes) con).2
      (cc.exchange con (valkeyGetReply (network cc.outcomes) con).2 .route
        (valkeyGetReply (network cc.outcomes) con).1) := touched_exchange network con .route
  have read := touched.lowers wellFormed member (con.pending_read (network cc.outcomes))
  have requests := touched.same.requests
  dsimp only
  generalize cc.exchange con (valkeyGetReply (network cc.outcomes) con).2 .route
    (valkeyGetReply (network cc.outcomes) con).1 = middle at read requests ⊢
  have after {last : ValkeyClusterContext} (eases : Eases middle last) :
      last.requests = cc.requests ∧ Weighs (lowered con.id) cc last :=
    ⟨eases.requests.trans requests, read.then_le eases.weighs⟩
  split
  · exact after (.setContextError _)
  split
  · exact after (.setError _ _)
  split
  · exact after (.setError _ _)
  rename_i nodes parsed
  have new := (parses_routeReply _ _ _).of_ok parsed
  rcases updateNodesAndSlotmap_cases order true middle nodes with
    ⟨type, str, updated⟩ | ⟨table, _, _, updated⟩
  · rw [updated]
    exact after (.setError _ _)
  · rw [updated]
    exact after ⟨rfl, .replaceNodes new table⟩

/-- A query leaves nothing to read that was not there before. -/
theorem eases_queryRoute (wellFormed : cc.WellFormed) (c : Nat) :
    Ensures (queryRoute network order cc c) anyFault fun result => Eases cc result.2 := by
  have sending : Ensures (clusterUpdateRouteSendCommand network cc c) anyFault fun result =>
      Modifies network cc result.2 := (modifies_sendCommand c).allow fun _ _ => trivial
  apply (sending.and (touched_sendCommand network c)).bind
  rintro ⟨status, next⟩ ⟨changes, con, member, rfl, after, touched, sent⟩
  cases status with
  | err =>
      apply touched.eases wellFormed member
      exact (ValkeyContext.pending_lost (sent.lost rfl).1).trans_le (Nat.zero_le _)
  | ok =>
      obtain ⟨alive, stillAlive, outstanding⟩ := sent.sent rfl
      have more : Weighs (raised con.id) cc next := by
        apply touched.weighs wellFormed member
        · unfold raised ValkeyContext.pending
          rw [if_pos rfl, if_pos alive, if_pos stillAlive, outstanding, List.length_append,
            List.length_singleton]
        · intro other different
          unfold raised
          rw [if_neg different]
      apply (lowers_handleReply (wellFormed.modifies changes) con.id).mono
      rintro ⟨_, last⟩ ⟨requests, fewer⟩
      refine ⟨requests.trans touched.same.requests, more.trans fewer ?_ ?_⟩
      · intro old middle same small
        unfold raised at small
        unfold lowered
        rw [← same]
        split at small
        · rw [if_pos ‹_›]
          omega
        · rwa [if_neg ‹_›]
      · intro middle none
        exact Nat.eq_zero_of_le_zero ((lowered_le con.id middle).trans_eq none)

theorem eases_updateSlotmapFrom (wellFormed : cc.WellFormed) (nodes : List Nat) :
    Ensures (updateSlotmapFrom network order cc nodes) anyFault fun result =>
      Eases cc result.2 := by
  induction nodes generalizing cc with
  | nil => exact .refl cc
  | cons node rest induction =>
      have connecting : Ensures (valkeyClusterGetValkeyContext network cc node) anyFault
          fun result => Modifies network cc result.2 :=
        (modifies_getContext node).allow fun _ _ => trivial
      apply (connecting.and (eases_getContext node)).bind
      rintro ⟨con, next⟩ ⟨changes, connected, _⟩
      have wellFormedNext := wellFormed.modifies changes
      cases con with
      | none => exact (induction wellFormedNext).mono fun _ later => connected.trans later
      | some c =>
          have querying : Ensures (queryRoute network order next c.id) anyFault
              fun result => Modifies network next result.2 :=
            (modifies_queryRoute c.id).allow fun _ _ => trivial
          apply (querying.and (eases_queryRoute wellFormedNext c.id)).bind
          rintro ⟨status, last⟩ ⟨further, queried⟩
          have here := connected.trans queried
          cases status with
          | ok => exact here.trans (.of_nodes rfl rfl)
          | err =>
              have closed : Eases last (last.setCon node none) :=
                eases_setCon node none fun _ none => nomatch none
              apply (induction ((wellFormedNext.modifies further).close node)).mono
              exact fun _ later => (here.trans closed).trans later

end Update

/-! ## Commands and the replies that are owed -/

/-- The open connections owe no more replies than the client remembers commands, and those
of replicas owe none. -/
structure Level (cc : ValkeyClusterContext) : Prop where
  wellFormed : cc.WellFormed
  covered : cc.pendingReplies ≤ cc.requests.length
  replicas : ∀ con ∈ cc.replicaContexts, con.pending = 0

/-- No connection owes a reply. -/
def OwesNothing (cc : ValkeyClusterContext) : Prop := ∀ con ∈ cc.contexts, con.pending = 0

theorem Weighs.replicas_idle {bound : ValkeyContext → Nat} (weighs : Weighs bound cc next)
    (le : ∀ con, bound con ≤ con.pending) (idle : ∀ con ∈ cc.replicaContexts, con.pending = 0) :
    ∀ con ∈ next.replicaContexts, con.pending = 0 := by
  intro con member
  rcases weighs.replicas con member with none | ⟨old, inOld, _, small⟩
  · exact none
  · exact Nat.eq_zero_of_le_zero ((small.trans (le old)).trans_eq (idle old inOld))

theorem OwesNothing.weighs (none : OwesNothing cc) (weighs : Weighs (·.pending) cc next) :
    OwesNothing next := by
  intro con member
  rcases weighs.contexts con member with light | ⟨old, inOld, _, small⟩
  · exact light
  · exact Nat.eq_zero_of_le_zero (small.trans_eq (none old inOld))

theorem owesNothing_clearAll (replicas : ∀ con ∈ cc.replicaContexts, con.pending = 0) :
    OwesNothing cc.clearAll := by
  intro con member
  rcases mem_contexts_iff.mp member with primary | replica
  · obtain ⟨node, inNodes, held⟩ := List.mem_filterMap.mp primary
    obtain ⟨old, _, rfl⟩ := List.mem_map.mp inNodes
    exact nomatch held
  · have cleared : Weighs (·.pending) cc cc.clearAll := .clearAll
    exact cleared.replicas_idle (fun _ => le_rfl) replicas con replica

theorem pendingReplies_eq_zero : cc.pendingReplies = 0 ↔ OwesNothing cc := by
  unfold pendingReplies OwesNothing
  rw [List.sum_eq_zero_iff, List.forall_mem_map]

namespace Level

theorem owesNothing (level : Level cc) (none : cc.requests = []) : OwesNothing cc := by
  apply pendingReplies_eq_zero.mp
  have covered := level.covered
  rw [none] at covered
  exact Nat.eq_zero_of_le_zero covered

theorem of_owesNothing (wellFormed : cc.WellFormed) (none : OwesNothing cc) : Level cc where
  wellFormed := wellFormed
  covered := (pendingReplies_eq_zero.mpr none).trans_le (Nat.zero_le _)
  replicas con member := none con (mem_contexts_iff.mpr (.inr member))

theorem of_weighs (level : Level cc) (wellFormed : next.WellFormed)
    (weighs : Weighs (·.pending) cc next) (covered : cc.pendingReplies ≤ next.requests.length) :
    Level next where
  wellFormed := wellFormed
  covered := (weighs.contexts.sum_le wellFormed.contextNames_nodup).trans covered
  replicas := weighs.replicas_idle (fun _ => le_rfl) level.replicas

theorem eases (level : Level cc) (eases : Eases cc next) (wellFormed : next.WellFormed) :
    Level next :=
  level.of_weighs wellFormed eases.weighs (eases.requests ▸ level.covered)

/-- A reply has been read, and a command is no longer remembered. -/
theorem read (level : Level cc) {con : ValkeyContext} (member : con ∈ cc.contexts)
    (owes : 0 < con.pending) (wellFormed : next.WellFormed)
    (weighs : Weighs (lowered con.id) cc next)
    (requests : cc.requests.length = next.requests.length + 1) : Level next where
  wellFormed := wellFormed
  covered := by
    have smaller := weighs.contexts.sum_le wellFormed.contextNames_nodup
    have fewer : (cc.contexts.map (lowered con.id)).sum < cc.pendingReplies :=
      sum_lowered member owes
    have covered := level.covered
    unfold pendingReplies
    omega
  replicas := weighs.replicas_idle (lowered_le con.id) level.replicas

/-- A command has been appended to the connection of a primary. -/
theorem append (level : Level cc) {c : ValkeyContext} (primary : c ∈ cc.primaryContexts)
    (cmd : Bytes) (target : Target) : Level (cc.appendRequest c cmd target) := by
  have member := mem_contexts_iff.mpr (.inl primary)
  have same : SameNames cc (cc.appendRequest c cmd target) :=
    (sameNames_putContext cc _).trans (.of_fields rfl rfl rfl rfl)
  have wellFormed := level.wellFormed.of_sameNames same
  have nodes : (cc.appendRequest c cmd target).nodes =
      (cc.putContext (valkeyAppendCommand c (.pipelined cc.appended cmd))).nodes := rfl
  have more : Weighs (raised c.id) cc (cc.appendRequest c cmd target) := by
    apply Weighs.of_put nodes
    · intro con inContexts same
      obtain rfl :=
        List.inj_on_of_nodup_map level.wellFormed.contextNames_nodup inContexts member same
      unfold raised
      rw [if_pos rfl]
      exact ValkeyContext.pending_append con _
    · intro con different
      exact (if_neg different).ge
  refine ⟨wellFormed, ?_, ?_⟩
  · have larger := more.contexts.sum_le wellFormed.contextNames_nodup
    have one : (cc.contexts.map (raised c.id)).sum ≤ cc.pendingReplies + 1 :=
      sum_raised level.wellFormed.contextNames_nodup c.id
    have covered := level.covered
    unfold pendingReplies appendRequest at *
    rw [List.length_append, List.length_singleton]
    omega
  · intro con replica
    rcases more.replicas con replica with none | ⟨old, inOld, same, small⟩
    · exact none
    · have apart := level.wellFormed.not_replica primary inOld
      unfold raised at small
      rw [if_neg apart.symm] at small
      exact Nat.eq_zero_of_le_zero (small.trans_eq (level.replicas old inOld))

end Level

/-! ## The calls -/

section Calls

variable {network : Nat → Outcome} {order : IterationOrder}

theorem eases_table (slot : Nat) : Eases cc (node_get_by_table cc slot).2 := by
  rcases node_get_by_table_found cc slot with ⟨node, found⟩ | ⟨str, missing⟩
  · rw [found]
    exact .refl cc
  · rw [missing]
    exact .setError _ _

theorem level_appendFormattedCommand (level : Level cc) (cmd : Bytes) :
    Ensures (valkeyClusterAppendFormattedCommand network cc cmd) anyFault fun result =>
      Level result.2 := by
  unfold valkeyClusterAppendFormattedCommand
  cases prepared : prepareCommand cc cmd with
  | error next =>
      obtain ⟨err, errstr, rfl⟩ := prepareCommand_refused prepared
      exact level.eases (.of_nodes rfl rfl)
        (level.wellFormed.of_sameNames (.of_fields rfl rfl rfl rfl))
  | ok command =>
      have looking : Modifies network cc (node_get_by_table cc command.slot).2 :=
        modifies_table command.slot
      have looked : Level (node_get_by_table cc command.slot).2 :=
        level.eases (eases_table command.slot) (level.wellFormed.modifies looking)
      dsimp only
      split
      · rename_i next found
        rwa [found] at looked
      · rename_i node next found
        rw [found] at looked
        have connecting : Ensures (valkeyClusterGetValkeyContext network next node) anyFault
            fun result => Modifies network next result.2 :=
          (modifies_getContext node).allow fun _ _ => trivial
        apply (connecting.and (eases_getContext node)).bind
        rintro ⟨con, last⟩ ⟨changes, connected, primary⟩
        have here := looked.eases connected (looked.wellFormed.modifies changes)
        cases con with
        | none => exact here
        | some c =>
            dsimp only
            split
            · exact here.eases (.setContextError c)
                (here.wellFormed.of_sameNames (sameNames_setContextError last c))
            · exact here.append (primary c rfl) cmd _

/-- The connection that a named node is asked for. -/
theorem eases_contextOf (addressee : Addressee) :
    Ensures (contextOf network cc addressee) anyFault fun result =>
      Eases cc result.2.2 ∧ ∀ node, addressee = .primary node →
        ∀ c ∈ result.2.1, c ∈ result.2.2.primaryContexts := by
  unfold contextOf
  cases named : cc.addressed addressee with
  | error fault => trivial
  | ok known =>
      have obtains := getContext_obtains network cc known.host known.port known.con
        fun cc c => cc.storeCon addressee c
      dsimp only [bind, Except.bind, ensures_pure]
      generalize getContext network cc known.host known.port known.con
        (fun cc c => cc.storeCon addressee c) = result at obtains ⊢
      obtain ⟨con, next⟩ := result
      constructor
      · apply eases_obtains obtains
        intro middle fresh idle
        cases addressee with
        | primary node =>
            apply eases_setCon
            intro c held
            obtain rfl := Option.some.inj held
            exact idle
        | replica node index => exact ⟨rfl, .setReplicaCon node index idle⟩
      · rintro name rfl c held
        obtain rfl : con = some c := held
        obtain ⟨node, member, ⟨same, _, held⟩ | ⟨_, _, impossible, _⟩⟩ := addressed_cases named
        · obtain rfl := Addressee.primary.inj same
          rw [held] at obtains
          exact primary_obtained member obtains
        · cases impossible

/-- No command goes to the connection of a replica: the format is not valid, or there is no
open connection. -/
def Refuses (network : Nat → Outcome) (cc : ValkeyClusterContext) (addressee : Addressee)
    (formatted : Option Bytes) : Prop :=
  formatted = none ∨ ∀ addr c next, contextOf network cc addressee = .ok (addr, some c, next) →
    c.err ≠ none

theorem level_appendCommandToNode (level : Level cc) (addressee : Addressee)
    (formatted : Option Bytes)
    (refuses : (∃ node, addressee = .primary node) ∨ Refuses network cc addressee formatted) :
    Ensures (valkeyClusterAppendCommandToNode network cc addressee formatted) anyFault fun result =>
      Level result.2 := by
  have connecting : Ensures (contextOf network cc addressee) anyFault fun result =>
      Modifies network cc result.2.2 := (modifies_contextOf addressee).allow fun _ _ => trivial
  apply (connecting.and (eases_contextOf addressee)).computed.bind
  rintro ⟨addr, con, next⟩ ⟨obtained, changes, connected, primary⟩
  have here := level.eases connected (level.wellFormed.modifies changes)
  cases con with
  | none => exact here
  | some c =>
      dsimp only
      split
      · exact here.eases (.setContextError c)
          (here.wellFormed.of_sameNames (sameNames_setContextError next c))
      rename_i alive
      cases formatted with
      | none =>
          exact here.eases (.setError _ _)
            (here.wellFormed.of_sameNames (.of_fields rfl rfl rfl rfl))
      | some cmd =>
          rcases refuses with ⟨node, same⟩ | none | closed
          · exact here.append (primary node same c rfl) cmd _
          · exact nomatch none
          · exact absurd (by simpa using alive) (closed addr c next obtained)

/-- A reply is owed for the first of the commands, or the connections owe fewer replies than
there are commands. -/
def Spares (cc : ValkeyClusterContext) : Prop :=
  ∀ request ∈ cc.requests.head?, (∃ c, replySource cc request = some c ∧ 0 < c.pending) ∨
    cc.pendingReplies < cc.requests.length

/-- What a call of `valkeyClusterGetReply` does to the commands and the replies. -/
inductive GetsReply (cc : ValkeyClusterContext) :
    Status × Option Answer × ValkeyClusterContext → Prop
  | empty {next : ValkeyClusterContext} (done : cc.requests = []) (eases : Eases cc next) :
      GetsReply cc (.ok, none, next)
  | read {request : Pipelined} {answer : Answer} {next : ValkeyClusterContext}
      (known : cc.requests = request :: next.requests) (level : Level cc → Level next) :
      GetsReply cc (.ok, some answer, next)
  | failed {request : Pipelined} {next : ValkeyClusterContext}
      (known : cc.requests = request :: next.requests) (weighs : Weighs (·.pending) cc next)
      (level : Spares cc → Level cc → Level next) : GetsReply cc (.err, none, next)

theorem Spares.cases (spares : Spares cc) {request : Pipelined} {rest : List Pipelined}
    (known : cc.requests = request :: rest) :
    (∃ c, replySource cc request = some c ∧ 0 < c.pending) ∨ cc.pendingReplies ≤ rest.length := by
  have first := spares request (by rw [known]; rfl)
  rw [known, List.length_cons] at first
  exact first.imp_right Nat.le_of_lt_succ

/-- A command is no longer remembered, and nothing has been read for it. -/
theorem getsReply_unread (wellFormed : cc.WellFormed) {request : Pipelined} {rest : List Pipelined}
    (known : cc.requests = request :: rest) (taken : Taken cc rest next)
    (nothing : ∀ c, replySource cc request = some c → c.pending = 0) :
    GetsReply cc (.err, none, next) := by
  have weighs : Weighs (·.pending) cc next := .of_nodes taken.nodes
  refine .failed (taken.requests ▸ known) weighs ?_
  intro spares level
  rcases spares.cases known with ⟨c, source, owes⟩ | fewer
  · exact absurd (nothing c source) (Nat.ne_of_gt owes)
  · exact level.of_weighs (wellFormed.of_sameNames taken.same) weighs (taken.requests ▸ fewer)

theorem getsReply_fromNode (wellFormed : cc.WellFormed) {request : Pipelined}
    {rest : List Pipelined} (known : cc.requests = request :: rest) (taken : Taken cc rest next) :
    GetsReply cc
      (valkeyClusterGetReplyFromNode network next (replySource cc request) request) := by
  unfold valkeyClusterGetReplyFromNode
  cases source : replySource cc request with
  | none =>
      apply getsReply_unread wellFormed known taken
      intro c found
      exact nomatch source.symm.trans found
  | some c =>
      dsimp only
      split
      · rename_i dead
        apply getsReply_unread wellFormed known (taken.countFailure.setContextError c)
        intro found here
        obtain rfl := Option.some.inj (source.symm.trans here)
        exact ValkeyContext.pending_lost (Option.isSome_iff_ne_none.mp dead)
      rename_i dead
      have alive : c.err = none := by simpa using dead
      have member : c ∈ next.contexts := by
        rw [ValkeyClusterContext.contexts, taken.nodes]
        exact replySource_mem source
      have start := wellFormed.of_sameNames taken.same
      have touched : Touched next c (valkeyGetReply (network next.outcomes) c).2
          (next.exchange c (valkeyGetReply (network next.outcomes) c).2
            (.pipelined request.index request.cmd) (valkeyGetReply (network next.outcomes) c).1) :=
        touched_exchange network c _
      have names := sameNames_exchange next c (valkeyGetReply (network next.outcomes) c).2
        (.pipelined request.index request.cmd) (valkeyGetReply (network next.outcomes) c).1
      have lowers := touched.lowers start member (c.pending_read (network next.outcomes))
      have requests := touched.same.requests.trans taken.requests
      generalize next.exchange c (valkeyGetReply (network next.outcomes) c).2
        (.pipelined request.index request.cmd)
        (valkeyGetReply (network next.outcomes) c).1 = middle at names lowers requests ⊢
      -- Where the reply was owed, a reply less is owed for a command less.
      have after {last : ValkeyClusterContext} (nodes : last.nodes = middle.nodes)
          (same : last.requests = middle.requests) (kept : SameNames middle last) :
          cc.requests = request :: last.requests ∧ Weighs (lowered c.id) cc last ∧
            (0 < c.pending → Level cc → Level last) := by
        have remembered : last.requests = rest := same.trans requests
        have weighs : Weighs (lowered c.id) cc last := by
          apply Weighs.of_nodes_of_le _ nodes
          apply (Weighs.of_nodes taken.nodes).trans lowers
          · intro old between name small
            unfold lowered
            rw [name]
            split <;> omega
          · intro between none
            exact Nat.eq_zero_of_le_zero ((lowered_le c.id between).trans_eq none)
        refine ⟨remembered ▸ known, weighs, fun owes level => ?_⟩
        apply level.read (replySource_mem source) owes
          ((start.of_sameNames names).of_sameNames kept) weighs
        rw [known, remembered, List.length_cons]
      cases answered : (valkeyGetReply (network next.outcomes) c).1 with
      | none =>
          obtain ⟨remembered, weighs, level⟩ := after (nodes_setContextError middle _)
            (SameRequests.setContextError middle _).requests
            (sameNames_setContextError middle (valkeyGetReply (network next.outcomes) c).2)
          refine .failed remembered (weighs.mono (lowered_le c.id)) ?_
          intro spares before
          rcases spares.cases known with ⟨found, here, owes⟩ | fewer
          · obtain rfl := Option.some.inj (source.symm.trans here)
            exact level owes before
          · refine before.of_weighs ?_ (weighs.mono (lowered_le c.id)) ?_
            · exact (start.of_sameNames names).of_sameNames (sameNames_setContextError middle _)
            · rw [known] at remembered
              exact (List.cons.inj remembered).2 ▸ fewer
      | some answer =>
          have owes : 0 < c.pending := ValkeyContext.pending_answered alive (Prod.ext answered rfl)
          dsimp only
          split
          · obtain ⟨remembered, _, level⟩ := @after { middle with needUpdateRoute := true } rfl rfl
              (.of_fields rfl rfl rfl rfl)
            exact .read remembered (level owes)
          · obtain ⟨remembered, _, level⟩ := after rfl rfl (.refl middle)
            exact .read remembered (level owes)

theorem getsReply_getReply (wellFormed : cc.WellFormed) :
    Ensures (valkeyClusterGetReply network cc) anyFault (GetsReply cc) := by
  cases known : cc.requests with
  | nil =>
      unfold valkeyClusterGetReply
      have none : cc.clearError.requests = [] := known
      rw [none]
      exact .empty known (.of_nodes rfl rfl)
  | cons request rest =>
      apply (getReply_source network known).mono
      rintro result ⟨taken, isTaken, rfl⟩
      exact getsReply_fromNode wellFormed known isTaken

theorem level_getReply (level : Level cc) (spares : Spares cc) :
    Ensures (valkeyClusterGetReply network cc) anyFault fun result => Level result.2.2 := by
  have changing : Ensures (valkeyClusterGetReply network cc) anyFault fun result =>
      Modifies network cc result.2.2 := modifies_getReply.allow fun _ _ => trivial
  apply (changing.and (getsReply_getReply level.wellFormed)).mono
  rintro result ⟨changes, gets⟩
  cases gets with
  | empty done eases => exact level.eases eases (level.wellFormed.modifies changes)
  | read known kept => exact kept level
  | failed known weighs kept => exact kept spares level

/-! ## The reset -/

theorem eases_sendAll (wellFormed : cc.WellFormed) (nodes : List Nat) :
    Ensures (valkeyClusterSendAll network cc nodes) anyFault (Eases cc) := by
  induction nodes generalizing cc with
  | nil => exact .refl cc
  | cons node rest induction =>
      have connecting : Ensures (valkeyClusterGetValkeyContext network cc node) anyFault
          fun result => Modifies network cc result.2 :=
        (modifies_getContext node).allow fun _ _ => trivial
      apply (connecting.and (eases_getContext node)).bind
      rintro ⟨con, next⟩ ⟨changes, connected, primary⟩
      have wellFormedNext := wellFormed.modifies changes
      cases con with
      | none => exact (induction wellFormedNext).mono fun _ later => connected.trans later
      | some c =>
          have small := c.pending_write (network next.outcomes)
          have kept : (valkeyBufferWrite (network next.outcomes) c).2.id = c.id ∧
              (valkeyBufferWrite (network next.outcomes) c).2.session = c.session := by
            rcases valkeyBufferWrite_cases (network next.outcomes) c with ⟨written, _⟩ | ⟨_, failed⟩
            · rw [written]
              exact ⟨rfl, rfl⟩
            · rw [failed]
              exact ⟨rfl, rfl⟩
          rcases written : valkeyBufferWrite (network next.outcomes) c with ⟨status, after⟩
          rw [written] at small kept
          have touched : Touched next c after
              ((next.advance.putContext after).recordWrites c.flushed) :=
            ⟨kept.1, kept.2, rfl, rfl, rfl, Nat.le_succ _⟩
          have names : SameNames next ((next.advance.putContext after).recordWrites c.flushed) :=
            ((sameNames_advance next).trans (sameNames_putContext _ after)).trans
              (sameNames_recordWrites _ _)
          have eases :=
            touched.eases wellFormedNext (mem_contexts_iff.mpr (.inl (primary c rfl))) small
          have here := connected.trans eases
          dsimp only
          rw [written]
          cases status with
          | ok =>
              apply (induction (wellFormedNext.of_sameNames names)).mono
              exact fun _ later => here.trans later
          | err => exact here

theorem owesNothing_readReplies (level : Level cc) {count : Nat}
    (enough : cc.requests.length < count) :
    Ensures (readReplies network cc count) anyFault OwesNothing := by
  induction count generalizing cc with
  | zero => exact absurd enough (Nat.not_lt_zero _)
  | succ count induction =>
      apply (getsReply_getReply level.wellFormed).bind
      rintro result gets
      cases gets with
      | empty done eases => exact (level.owesNothing done).weighs eases.weighs
      | read known kept =>
          apply induction (kept level)
          rw [known, List.length_cons] at enough
          exact Nat.lt_of_succ_lt_succ enough
      | failed known weighs =>
          exact owesNothing_clearAll (weighs.replicas_idle (fun _ => le_rfl) level.replicas)

theorem owesNothing_resetRequests (level : Level cc) :
    Ensures (resetRequests network order cc) anyFault OwesNothing := by
  unfold resetRequests
  split
  · exact owesNothing_clearAll level.replicas
  · have sending : Ensures (valkeyClusterSendAll network cc ((order.order cc.nodes).map (·.id)))
        anyFault (Modifies network cc) := (modifies_sendAll _).allow fun _ _ => trivial
    apply (sending.and (eases_sendAll level.wellFormed _)).bind
    rintro next ⟨changes, sent⟩
    apply owesNothing_readReplies (level.eases sent (level.wellFormed.modifies changes))
    exact Nat.lt_succ_self _

/-- After a reset the client remembers no command, and no connection owes a reply. -/
theorem owesNothing_reset (level : Level cc) :
    Ensures (valkeyClusterReset network order cc) anyFault fun next =>
      next.requests = [] ∧ OwesNothing next := by
  have resetting : Ensures (resetRequests network order cc) anyFault (Modifies network cc) :=
    modifies_resetRequests.allow fun _ _ => trivial
  apply (resetting.and (owesNothing_resetRequests level)).bind
  rintro next ⟨changes, nothing⟩
  have cleared : Weighs (·.pending) next { next with requests := [] } := .of_nodes rfl
  have here := nothing.weighs cleared
  have wellFormed : { next with requests := [] }.WellFormed :=
    (level.wellFormed.modifies changes).of_sameNames (.of_fields rfl rfl rfl rfl)
  dsimp only
  split
  · apply (eases_updateSlotmapFrom wellFormed _).bind
    rintro ⟨status, last⟩ updated
    cases status with
    | err => exact ⟨updated.requests, here.weighs updated.weighs⟩
    | ok => exact ⟨updated.requests, here.weighs (updated.weighs.of_nodes_of_le rfl)⟩
  · exact ⟨rfl, here⟩

end Calls

end ValkeyClusterContext

/-! ## Runs -/

section Runs

variable (network : Nat → Outcome) (order : IterationOrder)

/-- What a call before a reset needs. -/
def Quiescing : Call → Client → Prop
  | .append _, .idle _ | .updateSlotmap, .idle _ | .reset, .idle _ => True
  | .appendToNode addressee formatted, .idle cc =>
      (∃ node, addressee = .primary node) ∨ Refuses network cc addressee formatted
  | .getReply, .idle cc => Spares cc
  | _, _ => False

variable {network order}

theorem level_clientStep (call : Call) {client : Client} (level : Level client.cc)
    (quiescing : Quiescing network call client) :
    Ensures (clientStep network order call client) anyFault fun next => Level next.cc := by
  cases client with
  | executing command state => cases call <;> exact quiescing.elim
  | idle cc =>
      have level : Level cc := level
      cases call with
      | command _ | commandToNode _ _ => exact quiescing.elim
      | append cmd => exact (level_appendFormattedCommand level cmd).bind fun _ next => next
      | appendToNode addressee formatted =>
          exact (level_appendCommandToNode level addressee formatted quiescing).bind
            fun _ next => next
      | getReply => exact (level_getReply level quiescing).bind fun _ next => next
      | updateSlotmap =>
          have changing : Ensures (valkeyClusterUpdateSlotmap network order cc) anyFault
              fun result => Modifies network cc result.2 :=
            modifies_updateSlotmap.allow fun _ _ => trivial
          apply (changing.and (eases_updateSlotmapFrom level.wellFormed _)).bind
          rintro result ⟨changes, eases⟩
          exact level.eases eases (level.wellFormed.modifies changes)
      | reset =>
          have changing : Ensures (valkeyClusterReset network order cc) anyFault
              (Modifies network cc) := modifies_reset.allow fun _ _ => trivial
          apply (changing.and (owesNothing_reset level)).bind
          rintro next ⟨changes, _, nothing⟩
          exact Level.of_owesNothing (level.wellFormed.modifies changes) nothing

/-- After a reset no open connection has a command to send or a reply to read, whatever was
appended and read before, as long as nothing is appended to a replica and no command is given
up while its reply is still to come. -/
theorem reset_quiescent {cc last next : ValkeyClusterContext} (wellFormed : cc.WellFormed)
    (idle : ∀ con ∈ cc.contexts, con.err = none → con.outstanding = [])
    (run : ClientRun network order (Quiescing network) (.idle cc) (.idle last))
    (reset : valkeyClusterReset network order last = .ok next) :
    next.requests = [] ∧ ∀ con ∈ next.contexts, con.err = none → con.outstanding = [] := by
  have first : Level cc := Level.of_owesNothing wellFormed fun con member =>
    ValkeyContext.pending_eq_zero.mpr (idle con member)
  have level : Level last := ClientRun.invariant network order (Level ·.cc) run first
    fun call client level quiescing => level_clientStep call level quiescing
  obtain ⟨forgotten, nothing⟩ := (owesNothing_reset level).of_ok reset
  exact ⟨forgotten, fun con member => ValkeyContext.pending_eq_zero.mp (nothing con member)⟩

end Runs

/-- A command is sent to a primary, and its reply is left to the reset. -/
theorem reset_quiescent_get :
    ∃ last next,
      ClientRun (calmNetwork fun _ => .status (ascii "OK")) inOrder
        (Quiescing (calmNetwork fun _ => .status (ascii "OK"))) (.idle replicatedNodes)
          (.idle last) ∧
      last.requests.length = 1 ∧
      valkeyClusterReset (calmNetwork fun _ => .status (ascii "OK")) inOrder last = .ok next ∧
      next.requests = [] ∧ ∀ con ∈ next.contexts, con.err = none → con.outstanding = [] := by
  let network := calmNetwork fun _ => .status (ascii "OK")
  have started : ClientRun network inOrder (Quiescing network) (.idle replicatedNodes)
    (.idle replicatedNodes) := .start
  have one := started.step (appendToFirst "GET x") (.inl ⟨0, rfl⟩) rfl
  have idle : ∀ con ∈ replicatedNodes.contexts, con.err = none → con.outstanding = [] :=
    fun con member => nomatch member
  exact ⟨_, _, one, rfl, rfl, reset_quiescent wellFormed_replicatedNodes idle one rfl⟩

/-- The second node is asked first. -/
def backwards : IterationOrder where
  order := List.reverse
  perm := List.reverse_perm

/-- Slot 0 is no longer served, and both nodes are still there. -/
def slotsWithoutZero : ReplyTree :=
  .aggregate .array
    [.aggregate .array
      [.integer 1, .integer 1, .aggregate .array [.string (ascii "a"), .integer 1]],
    .aggregate .array
      [.integer 2, .integer 2, .aggregate .array [.string (ascii "b"), .integer 2]]]

set_option maxRecDepth 20000 in
/-- A reset leaves the reply to a command that was appended to a replica, and the reply to a
command that was given up as its slot was no longer served. -/
theorem reset_leaves_replies :
    (∃ last next, ClientRun (calmNetwork fun _ => .status (ascii "OK")) inOrder Pipelining
        (.idle replicatedNodes) (.idle last) ∧
      valkeyClusterReset (calmNetwork fun _ => .status (ascii "OK")) inOrder last = .ok next ∧
        ∃ con ∈ next.contexts, con.err = none ∧ con.outstanding ≠ []) ∧
    ∃ last next, ClientRun (calmNetwork fun _ => slotsWithoutZero) backwards Pipelining
        (.idle twoNodes) (.idle last) ∧
      valkeyClusterReset (calmNetwork fun _ => slotsWithoutZero) backwards last = .ok next ∧
        ∃ con ∈ next.contexts, con.err = none ∧ con.outstanding ≠ [] := by
  constructor
  · let network := calmNetwork fun _ => .status (ascii "OK")
    have started : ClientRun network inOrder Pipelining (.idle replicatedNodes)
      (.idle replicatedNodes) := .start
    have one := started.step (.appendToNode (.replica 0 0) (some (ascii "GET x"))) trivial rfl
    refine ⟨_, _, one, rfl, _, List.mem_cons_self, rfl, ?_⟩
    decide
  · let network := calmNetwork fun _ => slotsWithoutZero
    have started : ClientRun network backwards Pipelining (.idle twoNodes) (.idle twoNodes) :=
      .start
    have one := started.step (.append (valkeyFormatCommandArgv [ascii "GET", ascii "06S"]))
      trivial rfl
    have two := one.step .updateSlotmap trivial rfl
    have three := two.step .getReply trivial rfl
    have four := three.step .getReply trivial rfl
    refine ⟨_, _, four, rfl, _, List.mem_cons_self, rfl, ?_⟩
    decide

end Libvalkey
