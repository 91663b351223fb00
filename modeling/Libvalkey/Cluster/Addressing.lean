import Libvalkey.Cluster.Calls
import Libvalkey.Cluster.Settled

/-! # Named nodes

A call to a node names one of the dictionary or one of its replicas. -/

namespace Libvalkey

open Checked

namespace ValkeyClusterContext

variable {cc : ValkeyClusterContext}

theorem mem_contexts_setReplicaCon {node index : Nat} {con found : ValkeyContext}
    (member : found ∈ (cc.setReplicaCon node index (some con)).contexts) :
    found = con ∨ found ∈ cc.contexts := by
  obtain ⟨changed, inNodes, held⟩ := List.mem_flatMap.mp member
  obtain ⟨other, inOld, rfl⟩ := List.mem_map.mp inNodes
  have old : found ∈ other.connections → found ∈ cc.contexts := fun inOther =>
    List.mem_flatMap.mpr ⟨other, inOld, inOther⟩
  split at held
  · rcases List.mem_append.mp held with own | inReplicas
    · exact Or.inr (old (List.mem_append_left _ own))
    · obtain ⟨replica, inModified, replicaCon⟩ := List.mem_filterMap.mp inReplicas
      obtain ⟨position, here⟩ := List.mem_iff_getElem?.mp inModified
      rw [List.getElem?_modify] at here
      obtain ⟨before, known, equal⟩ := Option.map_eq_some_iff.mp here
      split at equal
      · subst equal
        exact Or.inl (Option.some.inj replicaCon).symm
      · subst equal
        exact Or.inr (old (List.mem_append_right _
          (List.mem_filterMap.mpr ⟨before, List.mem_of_getElem? known, replicaCon⟩)))
  · exact Or.inr (old held)

/-- A named node is one of the dictionary or a replica of one. -/
theorem addressed_cases {addressee : Addressee} {known : Addressed}
    (named : cc.addressed addressee = .ok known) :
    ∃ node ∈ cc.nodes,
      addressee = .primary node.id ∧ known.addr = node.addr ∧ known.con = node.con ∨
        ∃ index replica, addressee = .replica node.id index ∧
          node.replicas[index]? = some replica ∧ known.con = replica.con := by
  have found : ∀ name, Ensures (cc.node name) anyFault fun node => node ∈ cc.nodes ∧
      node.id = name :=
    fun name => ensures_node fun _ => trivial
  unfold addressed at named
  cases addressee with
  | primary name =>
      cases result : cc.node name with
      | error fault => simp [result, bind, Except.bind] at named
      | ok node =>
          obtain ⟨member, rfl⟩ := (found name).of_ok result
          simp only [result, bind, Except.bind] at named
          obtain rfl := Except.ok.inj named
          exact ⟨node, member, Or.inl ⟨rfl, rfl, rfl⟩⟩
  | replica name index =>
      cases result : cc.node name with
      | error fault => simp [result, bind, Except.bind] at named
      | ok node =>
          obtain ⟨member, rfl⟩ := (found name).of_ok result
          simp only [result, bind, Except.bind] at named
          split at named
          · exact nomatch named
          · rename_i replica here
            obtain rfl := Except.ok.inj named
            exact ⟨node, member, Or.inr ⟨index, replica, rfl, here, rfl⟩⟩

theorem mem_contexts_addressed {addressee : Addressee} {known : Addressed}
    (named : cc.addressed addressee = .ok known) {c : ValkeyContext} (held : known.con = some c) :
    c ∈ cc.contexts := by
  obtain ⟨node, member, ⟨_, _, con⟩ | ⟨index, replica, _, here, con⟩⟩ := addressed_cases named
  · exact mem_contexts member (con.symm.trans held)
  · exact List.mem_flatMap.mpr ⟨node, member, List.mem_append_right _
      (List.mem_filterMap.mpr ⟨replica, List.mem_of_getElem? here, con.symm.trans held⟩)⟩

/-- A replica without a connection gets one. -/
theorem storesAt_setReplicaCon {nodes : List (ValkeyClusterNode ValkeyContext)}
    {known : ValkeyClusterNode ValkeyContext} (member : known ∈ nodes) {index : Nat}
    {replica : ReplicaNode ValkeyContext} (here : known.replicas[index]? = some replica)
    (without : replica.con = none) :
    StoresAt nodes fun cc con => cc.setReplicaCon known.id index (some con) where
  only _ _ := ⟨_, rfl⟩
  nodeNames cc con := by
    unfold ValkeyClusterContext.nodeNames setReplicaCon
    rw [List.map_map]
    refine List.map_congr_left fun other _ => ?_
    dsimp only [Function.comp]
    split <;> rfl
  addrs cc con := by
    unfold ValkeyClusterContext.addrs setReplicaCon
    rw [List.map_map]
    refine List.map_congr_left fun other _ => ?_
    dsimp only [Function.comp]
    split <;> rfl
  contexts _ _ _ inContexts := mem_contexts_setReplicaCon inContexts
  added cc con same nodup := by
    refine contextNames_change nodup (same ▸ member) (fun other =>
      { other with
        replicas := other.replicas.modify index fun replica => { replica with con := some con } })
      ?_ rfl
    obtain ⟨inside, rfl⟩ := List.getElem?_eq_some_iff.mp here
    have before : known.replicas = known.replicas.take index ++
        known.replicas[index] :: known.replicas.drop (index + 1) := by simp
    have connections : known.connections = known.con.toList ++
        ((known.replicas.take index).filterMap (·.con) ++
          (known.replicas.drop (index + 1)).filterMap (·.con)) := by
      rw [ValkeyClusterNode.connections]
      conv_lhs => rw [before]
      rw [List.filterMap_append, List.filterMap_cons_none without]
    rw [connections, ValkeyClusterNode.connections, List.modify_eq_take_cons_drop inside]
    simp only [List.filterMap_append, List.filterMap_cons, ← List.append_assoc]
    exact List.perm_middle
  here other con same := by
    refine List.mem_flatMap.mpr ⟨_, List.mem_map.mpr ⟨known, same ▸ member, if_pos rfl⟩, ?_⟩
    refine List.mem_append_right _ (List.mem_filterMap.mpr
      ⟨{ replica with con := some con }, List.mem_of_getElem? (i := index) ?_, rfl⟩)
    rw [List.getElem?_modify, here]
    simp

theorem storesAt_storeCon {addressee : Addressee} {known : Addressed}
    (named : cc.addressed addressee = .ok known) (without : known.con = none) :
    StoresAt cc.nodes fun cc con => cc.storeCon addressee con := by
  obtain ⟨node, member, ⟨rfl, _, con⟩ | ⟨index, replica, rfl, here, con⟩⟩ := addressed_cases named
  · exact storesAt_setCon member (con.symm.trans without)
  · exact storesAt_setReplicaCon member here (con.symm.trans without)

/-- A command that cannot be routed changes the error at most. -/
theorem prepareCommand_refused {cmd : Bytes} {next : ValkeyClusterContext}
    (refused : prepareCommand cc cmd = .error next) :
    ∃ err errstr, next = { cc with err := err, errstr := errstr } := by
  unfold prepareCommand at refused
  split at refused
  · exact ⟨_, _, (Except.error.inj refused).symm⟩
  split at refused
  all_goals first
    | exact ⟨_, _, (Except.error.inj refused).symm⟩
    | exact nomatch refused

end ValkeyClusterContext

end Libvalkey
