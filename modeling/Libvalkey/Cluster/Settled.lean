import Libvalkey.Cluster.Ownership

/-! # Settled connections

Between two commands nothing is left to read, except for the reply to a deferred
route query. Setting up connections and updating the slot map keep it so. -/

namespace Libvalkey

open Checked ValkeyClusterContext

/-- A connection has nothing to read, or the reply to the deferred route query. -/
def Settled (updating : Option Nat) (con : ValkeyContext) : Prop :=
  con.outstanding = [] ∨ updating = some con.id ∧ con.outstanding = [.route]

namespace ValkeyClusterContext

/-- Every connection is settled, and every reply so far was read by the one who asked. -/
structure Settles (cc : ValkeyClusterContext) (updating : Option Nat) : Prop where
  paired : cc.Paired
  settled : ∀ con ∈ cc.contexts, Settled updating con

/-- Every connection but `c` is settled, and `here` holds of `c`. -/
structure Around (cc : ValkeyClusterContext) (c : Nat) (updating : Option Nat)
    (here : ValkeyContext → Prop) : Prop where
  paired : cc.Paired
  here : ∀ con ∈ cc.contexts, con.id = c → here con
  others : ∀ con ∈ cc.contexts, con.id ≠ c → Settled updating con

variable {cc next : ValkeyClusterContext} {updating : Option Nat} {c : Nat}
  {here there : ValkeyContext → Prop}

theorem Settles.of_nodes (settles : cc.Settles updating) (nodes : next.nodes = cc.nodes)
    (paired : next.Paired) : next.Settles updating :=
  ⟨paired, fun con member => settles.settled con (by rwa [contexts, nodes] at member)⟩

/-- Connections may go away. -/
theorem Settles.of_contexts (settles : cc.Settles updating)
    (contexts : ∀ con ∈ next.contexts, con ∈ cc.contexts) (paired : next.Paired) :
    next.Settles updating :=
  ⟨paired, fun con member => settles.settled con (contexts con member)⟩

theorem Settles.around (settles : cc.Settles updating) (c : Nat) :
    cc.Around c updating (Settled updating) :=
  ⟨settles.paired, fun con member _ => settles.settled con member,
    fun con member _ => settles.settled con member⟩

theorem Around.settles (around : cc.Around c updating here)
    (settled : ∀ con, con.id = c → here con → Settled updating con) : cc.Settles updating := by
  refine ⟨around.paired, fun con member => ?_⟩
  by_cases same : con.id = c
  · exact settled con same (around.here con member same)
  · exact around.others con member same

theorem Around.mono (around : cc.Around c updating here)
    (implies : ∀ con, con.id = c → here con → there con) : cc.Around c updating there :=
  ⟨around.paired, fun con member same => implies con same (around.here con member same),
    around.others⟩

theorem Around.of_contexts (around : cc.Around c updating here)
    (contexts : ∀ con ∈ next.contexts, con ∈ cc.contexts) (paired : next.Paired) :
    next.Around c updating here :=
  ⟨paired, fun con member => around.here con (contexts con member),
    fun con member => around.others con (contexts con member)⟩

/-- Storing a new connection keeps the others, or drops some. -/
def Stores (store : ValkeyClusterContext → ValkeyContext → ValkeyClusterContext) : Prop :=
  ∀ cc con, (∀ found ∈ (store cc con).contexts, found = con ∨ found ∈ cc.contexts) ∧
    (store cc con).readings = cc.readings

theorem stores_setCon (node : Nat) : Stores fun cc con => cc.setCon node (some con) :=
  fun _ _ => ⟨fun _ member => (mem_contexts_setCon member).imp_left fun equal =>
    (Option.some.inj equal).symm, rfl⟩

/-- One connection changes. -/
theorem Around.put (around : cc.Around c updating here) (con : ValkeyContext) (id : con.id = c)
    (changed : there con) (nodes : next.nodes = (cc.putContext con).nodes)
    (paired : next.Paired) : next.Around c updating there := by
  have cases : ∀ found ∈ next.contexts, found = con ∨ found ∈ cc.contexts ∧ found.id ≠ con.id :=
    fun found member => mem_contexts_putContext (by rwa [contexts, nodes] at member)
  refine ⟨paired, fun found member same => ?_, fun found member different => ?_⟩
  · rcases cases found member with rfl | ⟨_, different⟩
    · exact changed
    · exact absurd (same.trans id.symm) different
  · rcases cases found member with rfl | ⟨old, _⟩
    · exact absurd id different
    · exact around.others found old different

theorem Settles.of_obtains {network : Nat → Outcome} {port : Int}
    {held con : Option ValkeyContext}
    {store : ValkeyClusterContext → ValkeyContext → ValkeyClusterContext}
    (settles : cc.Settles updating) (obtains : Obtains network cc port held store (con, next))
    (stores : Stores store) : next.Settles updating := by
  cases obtains with
  | unreachable without talked outcomes nextContext err paired commandWrites =>
      exact settles.of_nodes talked.nodes (paired settles.paired)
  | existing held alive => exact settles
  | @reconnected old con middle held lost made established id nextContext =>
      have before := settles.of_nodes established.talked.nodes (established.paired settles.paired)
      refine ⟨before.paired, fun found inContexts => ?_⟩
      rcases mem_contexts_putContext inContexts with rfl | ⟨inOld, _⟩
      · exact Or.inl established.idle
      · exact before.settled found inOld
  | @new con middle without established id nextContext err accepted =>
      have before := settles.of_nodes established.talked.nodes (established.paired settles.paired)
      obtain ⟨contexts, readings⟩ := stores middle con
      refine ⟨by rw [Paired, readings]; exact before.paired, fun found inContexts => ?_⟩
      rcases contexts found inContexts with rfl | inOld
      · exact Or.inl established.idle
      · exact before.settled found inOld

theorem Settles.of_obtainsFor {network : Nat → Outcome} {node : Nat} {con : Option ValkeyContext}
    (settles : cc.Settles updating) (obtains : ObtainsFor network cc node (con, next)) :
    next.Settles updating := by
  obtain ⟨known, _, _, obtains⟩ := obtains
  exact settles.of_obtains obtains (stores_setCon known.id)

end ValkeyClusterContext

/-! ## The slot-map update -/

section Update

variable (network : Nat → Outcome) (order : IterationOrder) {cc : ValkeyClusterContext}
  {updating : Option Nat} {c : Nat} {here : ValkeyContext → Prop}

/-- Every fault is allowed. -/
def anyFault (_ : Fault) : Prop := True

/-- What sending the route query does to a connection. -/
structure SentRoute (old : ValkeyContext) (status : Status) (con : ValkeyContext) : Prop where
  sent : status = .ok → old.err = none ∧ con.err = none ∧
    con.outstanding = old.outstanding ++ [.route]
  lost : status = .err → con.err ≠ none ∧ con.outstanding <+: old.outstanding

theorem sentRoute (outcome : Outcome) (con : ValkeyContext) :
    SentRoute con (valkeyBufferWrite outcome (valkeyAppendCommand con .route)).1
      (valkeyBufferWrite outcome (valkeyAppendCommand con .route)).2 := by
  rcases valkeyBufferWrite_cases outcome (valkeyAppendCommand con .route) with
    ⟨written, alive⟩ | ⟨err, failed⟩
  · have alive : con.err = none := alive
    rw [written]
    refine ⟨fun _ => ⟨alive, alive, ?_⟩, fun err => by cases err⟩
    simp [ValkeyContext.outstanding, valkeyAppendCommand, alive]
  · rw [failed]
    refine ⟨fun ok => (by cases ok), fun _ => ⟨by simp, ?_⟩⟩
    simp [ValkeyContext.outstanding, valkeyAppendCommand]

theorem around_sendCommand (around : cc.Around c updating here) :
    Ensures (clusterUpdateRouteSendCommand network cc c) anyFault fun result =>
      result.2.Around c updating fun con =>
        ∃ old, old.id = c ∧ here old ∧ SentRoute old result.1 con := by
  refine (ensures_context fun _ => trivial).bind fun con ⟨member, name⟩ => ?_
  have sent := sentRoute (network cc.outcomes) con
  have id : (valkeyBufferWrite (network cc.outcomes) (valkeyAppendCommand con .route)).2.id =
      c := by
    rcases valkeyBufferWrite_cases (network cc.outcomes) (valkeyAppendCommand con .route) with
      ⟨written, _⟩ | ⟨err, failed⟩
    · rw [written]
      exact name
    · rw [failed]
      exact name
  dsimp only
  split
  · rename_i ok
    rw [ok] at sent
    exact around.put _ id ⟨con, name, around.here con member name, sent⟩ rfl around.paired
  · rename_i err
    rw [err] at sent
    refine around.put _ id ⟨con, name, around.here con member name, sent⟩ ?_ ?_
    · unfold setContextError
      split <;> rfl
    · unfold setContextError
      split <;> exact around.paired

/-- What reading a reply does to a connection: the first request is answered, or
the connection is lost. -/
theorem around_exchange (around : cc.Around c updating here) {con : ValkeyContext}
    (member : con ∈ cc.contexts) (name : con.id = c) {reader : Request}
    (first : ∀ request ∈ con.outstanding.head?, request = reader) :
    (cc.exchange con (valkeyGetReply (network cc.outcomes) con).2 reader
      (valkeyGetReply (network cc.outcomes) con).1).Around c updating fun after =>
        ∃ old, old.id = c ∧ here old ∧
          (after.outstanding = old.outstanding.tail ∨ after.outstanding = []) := by
  have paired : (cc.advance.putContext (valkeyGetReply (network cc.outcomes) con).2
      |>.recordWrites con.flushedToRead).Paired := around.paired
  rcases valkeyGetReply_cases (network cc.outcomes) con with
    ⟨answer, after, read, reads⟩ | ⟨after, read, lost⟩
  · rw [read] at paired ⊢
    refine around.put _ (reads.id.trans name)
      ⟨con, name, around.here con member name, Or.inl (by rw [reads.outstanding]; rfl)⟩ rfl
      (paired.record fun found equal => ?_)
    obtain rfl := Option.some.inj equal
    exact first _ (by rw [reads.outstanding]; rfl)
  · rw [read] at paired ⊢
    exact around.put _ (lost.id.trans name)
      ⟨con, name, around.here con member name, Or.inr lost.outstanding⟩ rfl paired

theorem around_handleReply (around : cc.Around c updating here)
    (first : ∀ con, here con → ∀ request ∈ con.outstanding.head?, request = .route) :
    Ensures (clusterUpdateRouteHandleReply network order cc c) anyFault fun result =>
      result.2.Around c updating fun con =>
        ∃ old, old.id = c ∧ here old ∧
          (con.outstanding = old.outstanding.tail ∨ con.outstanding = []) := by
  refine (ensures_context fun _ => trivial).bind fun con ⟨member, name⟩ => ?_
  have read := around_exchange network around member name
    (first con (around.here con member name))
  dsimp only
  generalize cc.exchange con (valkeyGetReply (network cc.outcomes) con).2 .route
    (valkeyGetReply (network cc.outcomes) con).1 = last at read ⊢
  split
  · refine read.of_contexts (fun other inContexts => ?_) ?_
    · unfold setContextError at inContexts
      split at inContexts <;> exact inContexts
    · unfold setContextError
      split <;> exact read.paired
  split
  · exact read.of_contexts (fun _ inContexts => inContexts) read.paired
  split
  · exact read.of_contexts (fun _ inContexts => inContexts) read.paired
  · rename_i made
    have new := (parses_routeReply last _ _).of_ok made
    rcases updateNodesAndSlotmap_cases order true last _ with
      ⟨type, str, updated⟩ | ⟨table, _, _, updated⟩
    · rw [updated]
      exact read.of_contexts (fun _ inContexts => inContexts) read.paired
    · rw [updated]
      exact read.of_contexts (fun _ inContexts => contexts_replaceNodes new inContexts) read.paired

/-- The reply to a route query is read in the place of the one before. -/
theorem settles_queryRoute (settles : cc.Settles updating) (c : Nat) :
    Ensures (queryRoute network order cc c) anyFault fun result =>
      result.2.Settles updating := by
  refine (around_sendCommand network (settles.around c)).bind fun ⟨status, next⟩ around => ?_
  dsimp only at around ⊢
  cases status with
  | err =>
      refine around.settles fun con name ⟨old, oldName, settled, sent⟩ => ?_
      have fewer := (sent.lost rfl).2
      rcases settled with nothing | ⟨deferred, one⟩
      · rw [nothing] at fewer
        exact Or.inl (List.prefix_nil.mp fewer)
      · rw [one, List.prefix_cons_iff] at fewer
        rcases fewer with nothing | ⟨rest, equal, none⟩
        · exact Or.inl nothing
        · exact Or.inr ⟨deferred.trans (by rw [oldName, name]),
            by rw [equal, List.prefix_nil.mp none]⟩
  | ok =>
      have queries : ∀ con : ValkeyContext, (∃ old, old.id = c ∧ Settled updating old ∧
          SentRoute old .ok con) → con.outstanding = [.route] ∨
            updating = some c ∧ con.outstanding = [.route, .route] := by
        rintro con ⟨old, oldName, settled, sent⟩
        rw [(sent.sent rfl).2.2]
        rcases settled with nothing | ⟨deferred, one⟩
        · exact Or.inl (by rw [nothing, List.nil_append])
        · exact Or.inr ⟨oldName ▸ deferred, by rw [one]; rfl⟩
      refine (around_handleReply network order around fun con sent request member => ?_).mono
        fun result after => after.settles fun con name ⟨old, _, sent, read⟩ => ?_
      · rcases queries con sent with one | ⟨_, two⟩
        · rw [one] at member
          exact (Option.some.inj member).symm
        · rw [two] at member
          exact (Option.some.inj member).symm
      · rcases read with tail | nothing
        · rcases queries old sent with one | ⟨deferred, two⟩
          · exact Or.inl (by rw [tail, one]; rfl)
          · exact Or.inr ⟨name ▸ deferred, by rw [tail, two]; rfl⟩
        · exact Or.inl nothing

theorem settles_updateSlotmapFrom (settles : cc.Settles updating) (nodes : List Nat) :
    Ensures (updateSlotmapFrom network order cc nodes) anyFault fun result =>
      result.2.Settles updating := by
  induction nodes generalizing cc with
  | nil => exact settles
  | cons node rest induction =>
      refine (ensures_obtains network cc fun _ => trivial).bind fun ⟨con, next⟩ obtains => ?_
      have after := settles.of_obtainsFor obtains
      cases con with
      | none => exact induction after
      | some c =>
          refine (settles_queryRoute network order after c.id).bind fun ⟨status, last⟩ queried => ?_
          cases status with
          | ok => exact queried.of_nodes rfl queried.paired
          | err =>
              refine induction (queried.of_contexts (fun con member => ?_) queried.paired)
              rcases mem_contexts_setCon member with closed | old
              · exact nomatch closed
              · exact old

theorem settles_updateSlotmap (settles : cc.Settles updating) :
    Ensures (valkeyClusterUpdateSlotmap network order cc) anyFault fun result =>
      result.2.Settles updating :=
  settles_updateSlotmapFrom network order settles _

end Update

end Libvalkey
