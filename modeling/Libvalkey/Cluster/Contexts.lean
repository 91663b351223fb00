import Libvalkey.Cluster.Changes

/-! # Contexts of the synchronous client

Which node holds which context. An update of the slot map keeps the contexts of the
addresses that stay, except for those on which it has asked in vain. -/

namespace Libvalkey

open Checked ValkeyClusterContext

/-- The primaries that hold a context: their names, their addresses and the context. -/
def ValkeyClusterContext.placements (cc : ValkeyClusterContext) : List (Nat × Bytes × Nat) :=
  cc.nodes.filterMap fun node => node.con.map fun con => (node.id, node.addr, con.id)

/-- The nodes that the loop of `valkeyClusterUpdateSlotmap` asks in vain. -/
def askedInVain (network : Nat → Outcome) (order : IterationOrder) (cc : ValkeyClusterContext) :
    List Nat → List Nat
  | [] => []
  | node :: rest =>
      match valkeyClusterGetValkeyContext network cc node with
      | .ok (none, cc) => askedInVain network order cc rest
      | .ok (some c, cc) =>
          match queryRoute network order cc c.id with
          | .ok (.err, cc) => node :: askedInVain network order (cc.setCon node none) rest
          | _ => []
      | .error _ => []

section Placements

variable {network : Nat → Outcome} {order : IterationOrder} {cc next : ValkeyClusterContext}

theorem mem_placements {placement : Nat × Bytes × Nat} :
    placement ∈ cc.placements ↔ ∃ node ∈ cc.nodes, ∃ con, node.con = some con ∧
      placement = (node.id, node.addr, con.id) := by
  unfold ValkeyClusterContext.placements
  rw [List.mem_filterMap]
  apply exists_congr
  intro node
  apply and_congr_right
  intro _
  rw [Option.map_eq_some_iff]
  exact exists_congr fun con => and_congr_right fun _ => eq_comm

theorem placements_of_nodes (nodes : next.nodes = cc.nodes) : next.placements = cc.placements := by
  unfold ValkeyClusterContext.placements
  rw [nodes]

theorem placements_putContext (con : ValkeyContext) :
    (cc.putContext con).placements = cc.placements := by
  unfold ValkeyClusterContext.placements ValkeyClusterContext.putContext
  rw [List.filterMap_map]
  apply List.filterMap_congr
  intro node _
  dsimp only [Function.comp, ValkeyClusterNode.mapCon]
  cases held : node.con with
  | none => rfl
  | some old =>
      dsimp only [Option.map_some]
      split
      · rename_i same
        rw [same]
      · rfl

theorem placements_setContextError (con : ValkeyContext) :
    (cc.setContextError con).placements = cc.placements :=
  placements_of_nodes (nodes_setContextError cc con)

theorem placements_exchange (before after : ValkeyContext) (reader : Request)
    (answer : Option Answer) : (cc.exchange before after reader answer).placements =
    cc.placements := by
  have put : (cc.advance.putContext after).placements = cc.placements :=
    (placements_putContext after).trans (placements_of_nodes rfl)
  cases answer with
  | none => exact put
  | some answer => exact put

/-- The node that is to hold the context gets it. -/
theorem mem_placements_setCon {placement : Nat × Bytes × Nat} (member : placement ∈ cc.placements)
    {node : Nat} (other : placement.1 ≠ node) (con : Option ValkeyContext) :
    placement ∈ (cc.setCon node con).placements := by
  obtain ⟨known, inNodes, held, holds, rfl⟩ := mem_placements.mp member
  exact mem_placements.mpr ⟨known, List.mem_map.mpr ⟨known, inNodes, if_neg other⟩,
    held, holds, rfl⟩

/-- A context that is looked for is added, and the others stay where they are. -/
theorem placements_getContext (wellFormed : cc.WellFormed) (node : Nat) :
    Ensures (valkeyClusterGetValkeyContext network cc node) InTable fun result =>
      ∀ placement ∈ cc.placements, placement ∈ result.2.placements := by
  apply (ensures_obtains network cc fun _ => inTable_danglingNode).mono
  rintro ⟨con, next⟩ ⟨known, inNodes, rfl, obtains⟩ placement member
  cases obtains with
  | unreachable without talked => exact placements_of_nodes talked.nodes ▸ member
  | existing known alive => exact member
  | reconnected known lost made established =>
      rw [placements_putContext, placements_of_nodes established.talked.nodes]
      exact member
  | @new con middle without established =>
      have here : placement ∈ middle.placements :=
        placements_of_nodes established.talked.nodes ▸ member
      apply mem_placements_setCon here
      obtain ⟨holder, inside, held, holds, rfl⟩ := mem_placements.mp member
      intro same
      obtain rfl : holder = known :=
        List.inj_on_of_nodup_map wellFormed.nodeNames_nodup inside inNodes same
      rw [without] at holds
      cases holds

/-- The contexts of the addresses that stay are kept. -/
def KeepsPlaces (cc next : ValkeyClusterContext) : Prop :=
  ∀ placement ∈ cc.placements, placement.2.1 ∈ next.addrs →
    ∃ node, (node, placement.2) ∈ next.placements

theorem KeepsPlaces.of_same (same : next.placements = cc.placements) : KeepsPlaces cc next :=
  fun placement member _ => ⟨placement.1, same ▸ member⟩

theorem keepsPlaces_replaceNodes (wellFormed : cc.WellFormed) (table : List (Option Nat))
    (nodes : List (ValkeyClusterNode ValkeyContext)) :
    KeepsPlaces cc (cc.replaceNodes table nodes) := by
  intro placement member stays
  obtain ⟨old, inNodes, con, held, rfl⟩ := mem_placements.mp member
  obtain ⟨new, inNew, addr⟩ := List.mem_map.mp stays
  refine ⟨new.id, mem_placements.mpr ⟨new, inNew, con, ?_, by rw [addr]⟩⟩
  obtain ⟨made, _, rfl⟩ := List.mem_map.mp inNew
  have known : findByAddr cc.nodes made.addr = some old := by
    have same : made.addr = old.addr := by
      revert addr
      dsimp only
      split <;> exact fun addr => addr
    rw [same]
    cases found : findByAddr cc.nodes old.addr with
    | none => simpa using List.find?_eq_none.mp found old inNodes
    | some other =>
        have addr : other.addr = old.addr := by simpa using List.find?_some found
        rw [List.inj_on_of_nodup_map wellFormed.addrs_nodup
          (List.mem_of_find?_eq_some found) inNodes
          addr]
  simp only [known, held, Option.some_or]

theorem keeps_handleReply (wellFormed : cc.WellFormed) (c : Nat) :
    Ensures (clusterUpdateRouteHandleReply network order cc c) InTable fun result =>
      KeepsPlaces cc result.2 ∧ (result.1 = .err → result.2.placements = cc.placements) := by
  apply (ensures_knownContext c).bind
  intro con _
  rcases valkeyGetReply (network cc.outcomes) con with ⟨answer, after⟩
  have same := sameNames_exchange cc con after .route answer
  have read := @placements_exchange cc con after .route answer
  dsimp only
  have failed {next : ValkeyClusterContext} (kept : next.placements = cc.placements) :
      KeepsPlaces cc next ∧ (Status.err = .err → next.placements = cc.placements) :=
    ⟨.of_same kept, fun _ => kept⟩
  cases answer with
  | none => exact failed ((placements_setContextError after).trans read)
  | some answer =>
      dsimp only
      split
      · exact failed ((placements_of_nodes rfl).trans read)
      split
      · exact failed ((placements_of_nodes rfl).trans read)
      rename_i nodes _
      rcases updateNodesAndSlotmap_cases order true _ nodes with
        ⟨type, str, updated⟩ | ⟨table, _, _, updated⟩
      · rw [updated]
        exact failed ((placements_of_nodes rfl).trans read)
      · rw [updated]
        refine ⟨?_, fun impossible => nomatch impossible⟩
        have kept := keepsPlaces_replaceNodes (wellFormed.of_sameNames same) table nodes
        intro placement member
        exact kept placement (read ▸ member)

theorem placements_sendCommand (c : Nat) :
    Ensures (clusterUpdateRouteSendCommand network cc c) InTable fun result =>
      result.2.placements = cc.placements := by
  apply (ensures_knownContext c).bind
  intro con _
  dsimp only
  rcases valkeyBufferWrite (network cc.outcomes) (valkeyAppendCommand con .route) with
    ⟨status, after⟩
  have sent : ((cc.advance.putContext after).recordWrites
      (valkeyAppendCommand con .route).flushed).placements = cc.placements :=
    (placements_putContext after).trans (placements_of_nodes rfl)
  cases status with
  | ok => exact sent
  | err => exact (placements_setContextError after).trans sent

theorem keeps_queryRoute (wellFormed : cc.WellFormed) (c : Nat) :
    Ensures (queryRoute network order cc c) InTable fun result =>
      KeepsPlaces cc result.2 ∧ (result.1 = .err → result.2.placements = cc.placements) := by
  apply ((modifies_sendCommand c).and (placements_sendCommand c)).bind
  rintro ⟨status, sent⟩ ⟨changes, same⟩
  cases status with
  | err => exact ⟨.of_same same, fun _ => same⟩
  | ok =>
      apply (keeps_handleReply (wellFormed.modifies changes) c).mono
      intro result kept
      rw [← same]
      exact ⟨fun placement member => kept.1 placement (same ▸ member), kept.2⟩

/-- The update keeps the contexts of the addresses that stay, except for those of the nodes
that it has asked in vain. -/
theorem keeps_updateSlotmapFrom (wellFormed : cc.WellFormed) (nodes : List Nat) :
    Ensures (updateSlotmapFrom network order cc nodes) InTable fun result =>
      ∀ placement ∈ cc.placements, placement.1 ∉ askedInVain network order cc nodes →
        placement.2.1 ∈ result.2.addrs → ∃ node, (node, placement.2) ∈ result.2.placements := by
  induction nodes generalizing cc with
  | nil => exact fun placement member _ _ => ⟨placement.1, member⟩
  | cons node rest induction =>
      have obtained := ((@modifies_getContext network cc node).and
        (placements_getContext wellFormed node)).computed
      unfold updateSlotmapFrom askedInVain
      apply obtained.bind
      rintro ⟨con, next⟩ ⟨result, changes, kept⟩
      have connected := wellFormed.modifies changes
      rw [result]
      cases con with
      | none =>
          apply (induction connected).mono
          exact fun _ later placement member => later placement (kept placement member)
      | some c =>
          have queried := ((@modifies_queryRoute network order next c.id).and
            (@keeps_queryRoute network order next connected c.id)).computed
          apply queried.bind
          rintro ⟨status, last⟩ ⟨asked, further, keeps, same⟩
          dsimp only
          rw [asked]
          cases status with
          | ok => exact fun placement member _ => keeps placement (kept placement member)
          | err =>
              apply (induction ((connected.modifies further).close node)).mono
              intro final later placement member apart
              obtain ⟨other, elsewhere⟩ := not_or.mp fun inside => apart (List.mem_cons.mpr inside)
              apply later placement _ elsewhere
              apply mem_placements_setCon _ other
              rw [same rfl]
              exact kept placement member

end Placements

end Libvalkey
