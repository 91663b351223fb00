import Libvalkey.Cluster.Exchange

/-! # Connections of nodes

What `valkeyClusterGetValkeyContext` can do: it finds a connection, sets up a lost
one again or makes a new one. -/

namespace Libvalkey

open Checked

/-- A connection that has been set up anew. -/
structure Established (cc : ValkeyClusterContext) (con : ValkeyContext)
    (next : ValkeyClusterContext) : Prop where
  talked : Talked cc next
  outcomes : cc.outcomes < next.outcomes
  session : con.session = cc.outcomes
  idle : con.outstanding = []
  paired : cc.Paired → next.Paired
  obuf : ∀ request ∈ con.obuf, ¬request.isCommand
  commandWrites : next.commandWrites = cc.commandWrites

/-- The handshake that follows an attempt to connect. -/
theorem Handshake.established {cc start next : ValkeyClusterContext} {host : Bytes} {id : Nat}
    {outcome : Outcome} {con : ValkeyContext} (talked : Talked cc start)
    (outcomes : start.outcomes = cc.outcomes + 1) (readings : start.readings = cc.readings)
    (writes : start.writes = cc.writes)
    (handshake : Handshake start (.connected id cc.outcomes host outcome) next con) :
    Established cc con next where
  talked := talked.trans handshake.talked
  outcomes := Nat.lt_of_lt_of_le (outcomes ▸ Nat.lt_succ_self _) handshake.outcomes
  session := handshake.session
  idle := handshake.idle (ValkeyContext.outstanding_connected _ _ _ _)
  paired := fun paired => handshake.paired (ValkeyContext.outstanding_connected _ _ _ _)
    (by rwa [ValkeyClusterContext.Paired, readings])
  obuf := handshake.obuf fun _ member => nomatch member
  commandWrites := by
    rw [handshake.writes fun _ member => nomatch member]
    unfold ValkeyClusterContext.commandWrites
    rw [writes]

section Connect

variable (network : Nat → Outcome) (cc : ValkeyClusterContext)

/-- `reconnect` ignores the statuses of the handshake: this is whether they are all good. -/
def reconnectAccepted (c : ValkeyContext) : Prop :=
  let c := valkeyReconnect cc.outcomes (network cc.outcomes) c
  let (_, c, cc) := initTls network cc.advance c
  let (auth, c, cc) := authenticate network cc c
  auth = .ok ∧ (select_db network cc c).1 = .ok

theorem reconnect_established (c : ValkeyContext) :
    Established cc (reconnect network cc c).1 (reconnect network cc c).2 ∧
      (reconnect network cc c).1.id = c.id ∧
      (reconnect network cc c).2.nextContext = cc.nextContext := by
  have tls := handshake_initTls network cc.advance
    (valkeyReconnect cc.outcomes (network cc.outcomes) c)
  have auth := tls.trans (handshake_authenticate network _ _)
  have select := auth.trans (handshake_select_db network _ _)
  exact ⟨select.established (.mk _ _ _ _ _ _) rfl rfl rfl, select.id, select.nextContext⟩

/-- The steps of an accepted handshake on a connection that remains. -/
theorem reconnect_accepted {c : ValkeyContext} (accepted : reconnectAccepted network cc c) :
    ∀ request ∈ cc.handshake, Granted request (reconnect network cc c).1.answered := by
  have tls := handshake_initTls network cc.advance
    (valkeyReconnect cc.outcomes (network cc.outcomes) c)
  have idle := tls.idle (ValkeyContext.outstanding_connected _ _ _ _)
  unfold reconnectAccepted at accepted
  unfold reconnect
  dsimp only at tls accepted ⊢
  generalize initTls network cc.advance (valkeyReconnect cc.outcomes (network cc.outcomes) c) =
    result at tls idle accepted ⊢
  obtain ⟨status, c, next⟩ := result
  have auth := handshake_authenticate network next c
  have acceptedAuth := granted_authenticate network next c idle accepted.1
  have idleAuth := auth.idle idle
  dsimp only at auth acceptedAuth idleAuth accepted ⊢
  generalize authenticate network next c = result at auth acceptedAuth idleAuth accepted ⊢
  obtain ⟨status, c, last⟩ := result
  have select := handshake_select_db network last c
  have acceptedSelect := granted_select_db network last c idleAuth accepted.2
  refine granted_handshake cc last ?_ (fun configured => ?_) acceptedSelect
  · exact auth.talked.handshake.trans tls.talked.handshake
  · refine (acceptedAuth ?_).mono select.answered
    have same : last.password = next.password := by
      have talked := auth.talked
      dsimp only at talked
      cases talked
      rfl
    rwa [← same]

/-- An accepted handshake sets no error. -/
theorem err_reconnect {c : ValkeyContext} (accepted : reconnectAccepted network cc c)
    (alive : (reconnect network cc c).1.err = none) :
    (reconnect network cc c).2.err = cc.err := by
  have tls := reports_initTls network cc.advance
    (valkeyReconnect cc.outcomes (network cc.outcomes) c)
  have aliveTls := initTls_alive network cc.advance
    (valkeyReconnect cc.outcomes (network cc.outcomes) c)
  unfold reconnectAccepted at accepted
  unfold reconnect at alive ⊢
  dsimp only at tls accepted alive ⊢
  generalize initTls network cc.advance (valkeyReconnect cc.outcomes (network cc.outcomes) c) =
    result at tls aliveTls accepted alive ⊢
  obtain ⟨status, c, next⟩ := result
  have auth := handshake_authenticate network next c
  have reportsAuth := reports_authenticate network next c
  dsimp only at auth reportsAuth accepted alive ⊢
  generalize authenticate network next c = result at auth reportsAuth accepted alive ⊢
  obtain ⟨status, c, last⟩ := result
  have select := handshake_select_db network last c
  have reportsSelect := reports_select_db network last c
  have errTls := tls.ok (aliveTls (auth.alive (select.alive alive)))
  exact (reportsSelect.ok accepted.2).trans ((reportsAuth.ok accepted.1).trans errTls)

/-- A rejected handshake sets an error. -/
theorem err_reconnect_rejected {c : ValkeyContext} (rejected : ¬reconnectAccepted network cc c) :
    (reconnect network cc c).2.err ≠ none := by
  unfold reconnectAccepted at rejected
  unfold reconnect
  dsimp only at rejected ⊢
  generalize initTls network cc.advance (valkeyReconnect cc.outcomes (network cc.outcomes) c) =
    result at rejected ⊢
  obtain ⟨_, c, next⟩ := result
  have reportsAuth := reports_authenticate network next c
  dsimp only at reportsAuth rejected ⊢
  generalize authenticate network next c = result at reportsAuth rejected ⊢
  obtain ⟨auth, c, last⟩ := result
  have reportsSelect := reports_select_db network last c
  dsimp only at reportsAuth rejected ⊢
  cases select : (select_db network last c).1 with
  | err => exact reportsSelect.err select
  | ok =>
      rw [reportsSelect.ok select]
      cases auth with
      | err => exact reportsAuth.err rfl
      | ok => exact absurd ⟨rfl, select⟩ rejected

/-- What making a connection does. -/
inductive Connects (cc : ValkeyClusterContext) : Option ValkeyContext × ValkeyClusterContext → Prop
  | failed {next : ValkeyClusterContext} (talked : Talked cc next)
      (outcomes : cc.outcomes < next.outcomes) (nextContext : cc.nextContext ≤ next.nextContext)
      (err : next.err ≠ none) (paired : cc.Paired → next.Paired)
      (commandWrites : next.commandWrites = cc.commandWrites) : Connects cc (none, next)
  | made {con : ValkeyContext} {next : ValkeyClusterContext} (established : Established cc con next)
      (id : con.id = cc.nextContext) (nextContext : next.nextContext = cc.nextContext + 1)
      (err : next.err = cc.err) (accepted : ∀ request ∈ cc.handshake,
        Granted request con.answered) :
      Connects cc (some con, next)

theorem Established.failed {cc next : ValkeyClusterContext} {con : ValkeyContext}
    (established : Established cc con next) (nextContext : next.nextContext = cc.nextContext + 1)
    (err : next.err ≠ none) : Connects cc (none, next) :=
  .failed established.talked established.outcomes (nextContext ▸ Nat.le_succ _) err
    established.paired established.commandWrites

theorem connectNode_connects (host : Bytes) : Connects cc (connectNode network cc host) := by
  unfold connectNode
  have established : ∀ {con : ValkeyContext} {next : ValkeyClusterContext},
      Handshake { cc.advance with nextContext := cc.nextContext + 1 }
        (.connected cc.nextContext cc.outcomes host (network cc.outcomes)) next con →
      Established cc con next ∧ next.nextContext = cc.nextContext + 1 :=
    fun handshake => ⟨handshake.established (.mk _ _ _ _ _ _) rfl rfl rfl, handshake.nextContext⟩
  dsimp only
  split
  · rename_i lost
    have refused := established Handshake.refl.setContextError
    refine refused.1.failed refused.2 ?_
    obtain ⟨err, known⟩ := Option.isSome_iff_exists.mp lost
    rw [ValkeyClusterContext.setContextError, known]
    exact fun none => nomatch none
  have tls := handshake_initTls network { cc.advance with nextContext := cc.nextContext + 1 }
    (.connected cc.nextContext cc.outcomes host (network cc.outcomes))
  have reportsTls := reports_initTls network { cc.advance with nextContext := cc.nextContext + 1 }
    (.connected cc.nextContext cc.outcomes host (network cc.outcomes))
  split
  · rename_i afterTls
    rw [afterTls] at tls reportsTls
    obtain ⟨established, nextContext⟩ := established tls
    exact established.failed nextContext (reportsTls.err rfl)
  rename_i con next afterTls
  rw [afterTls] at tls reportsTls
  have auth := handshake_authenticate network next con
  have reportsAuth := reports_authenticate network next con
  have idle := tls.idle (ValkeyContext.outstanding_connected _ _ _ _)
  have acceptedAuth := granted_authenticate network next con idle
  split
  · rename_i afterAuth
    rw [afterAuth] at auth reportsAuth
    obtain ⟨established, nextContext⟩ := established (tls.trans auth)
    exact established.failed nextContext (reportsAuth.err rfl)
  rename_i authenticated middle afterAuth
  rw [afterAuth] at auth reportsAuth acceptedAuth
  have select := handshake_select_db network middle authenticated
  have reportsSelect := reports_select_db network middle authenticated
  have acceptedSelect := granted_select_db network middle authenticated (auth.idle idle)
  split
  · rename_i afterSelect
    rw [afterSelect] at select reportsSelect
    obtain ⟨established, nextContext⟩ := established ((tls.trans auth).trans select)
    exact established.failed nextContext (reportsSelect.err rfl)
  rename_i selected last afterSelect
  rw [afterSelect] at select reportsSelect acceptedSelect
  obtain ⟨established, nextContext⟩ := established ((tls.trans auth).trans select)
  refine .made established (select.id.trans (auth.id.trans tls.id)) nextContext ?_ ?_
  · exact (reportsSelect.ok rfl).trans ((reportsAuth.ok rfl).trans (reportsTls.ok rfl))
  · refine granted_handshake cc middle ?_ (fun configured => ?_) (acceptedSelect rfl)
    · exact (auth.talked.handshake.trans tls.talked.handshake)
    · refine (acceptedAuth rfl ?_).mono select.answered
      have same : middle.password = next.password := by
        have talked := auth.talked
        dsimp only at talked
        cases talked
        rfl
      rwa [← same]

/-- What `valkeyClusterGetValkeyContext` can do for a node with a connection or without one. -/
inductive Obtains (cc : ValkeyClusterContext) (port : Int) (held : Option ValkeyContext)
    (store : ValkeyClusterContext → ValkeyContext → ValkeyClusterContext) :
    Option ValkeyContext × ValkeyClusterContext → Prop
  | unreachable {next : ValkeyClusterContext} (without : held = none) (talked : Talked cc next)
      (outcomes : cc.outcomes ≤ next.outcomes) (nextContext : cc.nextContext ≤ next.nextContext)
      (err : 0 < port → next.err ≠ none) (paired : cc.Paired → next.Paired)
      (commandWrites : next.commandWrites = cc.commandWrites) :
      Obtains cc port held store (none, next)
  | existing {con : ValkeyContext} (known : held = some con) (alive : con.err = none) :
      Obtains cc port held store (some con, cc)
  | reconnected {old con : ValkeyContext} {middle : ValkeyClusterContext} (known : held = some old)
      (lost : old.err ≠ none) (made : reconnect network cc old = (con, middle))
      (established : Established cc con middle) (id : con.id = old.id)
      (nextContext : middle.nextContext = cc.nextContext) :
      Obtains cc port held store (some con, middle.putContext con)
  | new {con : ValkeyContext} {middle : ValkeyClusterContext} (without : held = none)
      (established : Established cc con middle) (id : con.id = cc.nextContext)
      (nextContext : middle.nextContext = cc.nextContext + 1) (err : middle.err = cc.err)
      (accepted : ∀ request ∈ cc.handshake, Granted request con.answered) :
      Obtains cc port held store (some con, store middle con)

theorem getContext_obtains (host : Bytes) (port : Int) (held : Option ValkeyContext)
    (store : ValkeyClusterContext → ValkeyContext → ValkeyClusterContext) :
    Obtains network cc port held store (getContext network cc host port held store) := by
  unfold getContext
  cases held with
  | some con =>
      dsimp only
      split
      · rename_i lost
        obtain ⟨established, id, nextContext⟩ := reconnect_established network cc con
        exact .reconnected rfl (Option.isSome_iff_ne_none.mp lost) rfl established id nextContext
      · rename_i alive
        exact .existing rfl (by simpa using alive)
  | none =>
      dsimp only
      split
      · rename_i closed
        exact .unreachable rfl (.refl cc) (Nat.le_refl _) (Nat.le_refl _)
          (fun positive => absurd positive (Int.not_lt.mpr closed)) id rfl
      · have connects := connectNode_connects network cc host
        split
        · rename_i made
          rw [made] at connects
          cases connects with
          | failed talked outcomes nextContext err paired commandWrites =>
              exact .unreachable rfl talked (Nat.le_of_lt outcomes) nextContext (fun _ => err)
                paired commandWrites
        · rename_i made
          rw [made] at connects
          cases connects with
          | made established id nextContext err accepted =>
              exact .new rfl established id nextContext err accepted

theorem ensures_node {cc : ValkeyClusterContext} {allowed : Fault → Prop} {node : Nat}
    (dangling : node ∉ cc.nodeNames → allowed .danglingNode) :
    Ensures (cc.node node) allowed fun known => known ∈ cc.nodes ∧ known.id = node := by
  unfold ValkeyClusterContext.node ValkeyClusterContext.findNode
  split
  · rename_i known found
    exact ⟨List.mem_of_find?_eq_some found, by simpa using List.find?_some found⟩
  · rename_i missing
    refine dangling fun member => ?_
    obtain ⟨known, inNodes, rfl⟩ := List.mem_map.mp member
    simpa using List.find?_eq_none.mp missing known inNodes

theorem ensures_context {cc : ValkeyClusterContext} {allowed : Fault → Prop} {c : Nat}
    (dangling : c ∉ cc.contextNames → allowed .danglingContext) :
    Ensures (cc.context c) allowed fun con => con ∈ cc.contexts ∧ con.id = c := by
  unfold ValkeyClusterContext.context ValkeyClusterContext.findContext
  split
  · rename_i con found
    exact ⟨List.mem_of_find?_eq_some found, by simpa using List.find?_some found⟩
  · rename_i missing
    refine dangling fun member => ?_
    obtain ⟨con, inContexts, rfl⟩ := List.mem_map.mp member
    simpa using List.find?_eq_none.mp missing con inContexts

/-- A slot is looked up without a change, or with an error. -/
theorem node_get_by_table_found (cc : ValkeyClusterContext) (slot : Nat) :
    (∃ node, node_get_by_table cc slot = (some node, cc)) ∨
      ∃ str, node_get_by_table cc slot = (none, cc.setError .other str) := by
  unfold node_get_by_table
  split
  · exact Or.inr ⟨_, rfl⟩
  split
  · exact Or.inr ⟨_, rfl⟩
  split
  · exact Or.inr ⟨_, rfl⟩
  · exact Or.inl ⟨_, rfl⟩

/-- The node that a connection is asked for. -/
def ObtainsFor (cc : ValkeyClusterContext) (node : Nat)
    (result : Option ValkeyContext × ValkeyClusterContext) : Prop :=
  ∃ known ∈ cc.nodes, known.id = node ∧
    Obtains network cc known.port known.con (fun cc c => cc.setCon known.id (some c)) result

theorem ensures_obtains {allowed : Fault → Prop} {node : Nat}
    (dangling : node ∉ cc.nodeNames → allowed .danglingNode) :
    Ensures (valkeyClusterGetValkeyContext network cc node) allowed
      (ObtainsFor network cc node) := by
  refine (ensures_node dangling).bind fun known ⟨member, name⟩ => ?_
  subst name
  exact ⟨known, member, rfl, getContext_obtains network cc _ _ _ _⟩

end Connect

end Libvalkey
