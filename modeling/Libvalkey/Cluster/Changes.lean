import Mathlib.Logic.Relation
import Libvalkey.Cluster.Addressing
import Libvalkey.Cluster.NoDangling

/-! # What the calls of the synchronous client change

A call makes changes of a few kinds, one after another, and stops at a fault where a
pointer dangles or a redirect names a slot that there is not. -/

namespace Libvalkey

open Checked ValkeyClusterContext

/-- A fault that is not a write outside the slot table. -/
def InTable (fault : Fault) : Prop := ∀ slot, fault ≠ .tableIndex slot

theorem inTable_danglingNode : InTable .danglingNode := by simp [InTable]

theorem inTable_danglingContext : InTable .danglingContext := by simp [InTable]

section Changes

variable (network : Nat → Outcome) (order : IterationOrder)

/-- The kinds of changes. -/
inductive Modified (cc : ValkeyClusterContext) : ValkeyClusterContext → Prop
  | same {next : ValkeyClusterContext} (same : SameNames cc next) : Modified cc next
  | obtain {port : Int} {held con : Option ValkeyContext}
      {store : ValkeyClusterContext → ValkeyContext → ValkeyClusterContext}
      {next : ValkeyClusterContext} (obtains : Obtains network cc port held store (con, next))
      (member : ∀ c ∈ held, c ∈ cc.contexts) (stores : held = none → StoresAt cc.nodes store) :
      Modified cc next
  | replace {table : List (Option Nat)} {nodes : List (ValkeyClusterNode ValkeyContext)}
      (new : NewNodes cc.nextNode nodes) (filled : nodes ≠ [])
      (refers : RefersTo (nodes.map (·.id)) table) :
      Modified cc (cc.replaceNodes table nodes)
  | add {redirect : Redirect} (unknown : findByAddr cc.nodes redirect.key = none) :
      Modified cc (cc.addNode redirect)
  | enter {table : List (Option Nat)} {node : Nat} (slot : Nat) (present : cc.table = some table)
      (known : node ∈ cc.nodeNames) :
        Modified cc { cc with table := some (table.set slot (some node)) }
  | close (node : Nat) : Modified cc (cc.setCon node none)
  | clear : Modified cc cc.clearAll

/-- Changes one after another. -/
abbrev Modifies : ValkeyClusterContext → ValkeyClusterContext → Prop :=
  Relation.ReflTransGen (Modified network)

variable {network order} {cc next : ValkeyClusterContext}

theorem contextNames_clearAll : cc.clearAll.contextNames.Sublist cc.contextNames := by
  unfold ValkeyClusterContext.contextNames contexts clearAll
  apply List.Sublist.map
  dsimp only
  rw [List.flatMap_map]
  induction cc.nodes with
  | nil => exact List.Sublist.slnil
  | cons node rest induction =>
      rw [List.flatMap_cons, List.flatMap_cons]
      exact (List.sublist_append_right _ _).append induction

theorem ValkeyClusterContext.WellFormed.clearAll (wellFormed : cc.WellFormed) :
    cc.clearAll.WellFormed := by
  have nodeNames : cc.clearAll.nodeNames = cc.nodeNames := by
    unfold ValkeyClusterContext.nodeNames ValkeyClusterContext.clearAll
    rw [List.map_map]
    rfl
  have addrs : cc.clearAll.addrs = cc.addrs := by
    unfold ValkeyClusterContext.addrs ValkeyClusterContext.clearAll
    rw [List.map_map]
    rfl
  have contexts := @contextNames_clearAll cc
  constructor
  · exact nodeNames ▸ wellFormed.nodeNames_nodup
  · exact addrs ▸ wellFormed.addrs_nodup
  · exact wellFormed.contextNames_nodup.sublist contexts
  · exact nodeNames ▸ wellFormed.nodeNames_lt
  · exact fun c member => wellFormed.contextNames_lt c (contexts.subset member)
  · exact wellFormed.tableOwned.mono rfl fun node member => nodeNames ▸ member

/-- Every change keeps a client well-formed. -/
theorem ValkeyClusterContext.WellFormed.modified (wellFormed : cc.WellFormed)
    (change : Modified network cc next) : next.WellFormed := by
  cases change with
  | same same => exact wellFormed.of_sameNames same
  | obtain obtains member stores => exact (wellFormed.of_obtains obtains member stores).1
  | replace new filled refers => exact wellFormed.replaceNodes new refers
  | add unknown => exact wellFormed_addNode wellFormed unknown
  | @enter table node slot present known =>
      refine ⟨wellFormed.nodeNames_nodup, wellFormed.addrs_nodup, wellFormed.contextNames_nodup,
        wellFormed.nodeNames_lt, wellFormed.contextNames_lt, ?_⟩
      intro changed equal
      obtain rfl := Option.some.inj equal
      exact RefersTo.set (fun other => wellFormed.tableOwned table present other) known slot
  | close node => exact wellFormed.close node
  | clear => exact wellFormed.clearAll

theorem ValkeyClusterContext.WellFormed.modifies (wellFormed : cc.WellFormed)
    (changes : Modifies network cc next) : next.WellFormed := by
  induction changes with
  | refl => exact wellFormed
  | tail _ change induction => exact induction.modified change

/-- A client does not lose all nodes. -/
theorem Modified.filled (change : Modified network cc next) (filled : cc.nodes ≠ []) :
    next.nodes ≠ [] := by
  have ofNames (last : ValkeyClusterContext) (same : last.nodeNames = cc.nodeNames) :
      last.nodes ≠ [] := by
    intro empty
    rw [ValkeyClusterContext.nodeNames, empty, List.map_nil] at same
    exact filled (List.map_eq_nil_iff.mp same.symm)
  cases change with
  | same same => exact ofNames next same.nodeNames
  | obtain obtains member stores =>
      cases obtains with
      | unreachable _ talked => exact talked.nodes ▸ filled
      | existing => exact filled
      | @reconnected old con middle known lost made established =>
          intro empty
          exact filled (established.talked.nodes ▸ List.map_eq_nil_iff.mp empty)
      | @new con middle without established =>
          apply ofNames
          rw [(stores without).nodeNames, ValkeyClusterContext.nodeNames, established.talked.nodes]
          rfl
  | replace new filled => exact fun empty => filled (List.map_eq_nil_iff.mp empty)
  | add => exact fun empty => List.cons_ne_nil _ _ (List.append_eq_nil_iff.mp empty).2
  | enter => exact filled
  | close => exact fun empty => filled (List.map_eq_nil_iff.mp empty)
  | clear => exact fun empty => filled (List.map_eq_nil_iff.mp empty)

theorem filled_modifies (changes : Modifies network cc next) (filled : cc.nodes ≠ []) :
    next.nodes ≠ [] := by
  induction changes with
  | refl => exact filled
  | tail _ change induction => exact change.filled induction

theorem ValkeyClusterContext.SameNames.modifies (same : SameNames cc next) :
    Modifies network cc next :=
  Relation.ReflTransGen.single (.same same)

/-! ## Connections and the update of the slot map -/

theorem modifies_setContextError (con : ValkeyContext) :
    Modifies network cc (cc.setContextError con) :=
  (sameNames_setContextError cc con).modifies

theorem modifies_setError (type : ErrorType) (str : Bytes) :
    Modifies network cc (cc.setError type str) :=
  (sameNames_setError cc type str).modifies

theorem ensures_knownContext (c : Nat) :
    Ensures (cc.context c) InTable fun con => con ∈ cc.contexts ∧ con.id = c :=
  ensures_context fun _ => inTable_danglingContext

theorem modifies_getContext (node : Nat) :
    Ensures (valkeyClusterGetValkeyContext network cc node) InTable fun result =>
      Modifies network cc result.2 := by
  apply (ensures_obtains network cc fun _ => inTable_danglingNode).mono
  rintro ⟨con, next⟩ ⟨known, member, _, obtains⟩
  exact .single (.obtain obtains (fun c held => mem_contexts member held) (storesAt_setCon member))

theorem modifies_sendCommand (c : Nat) :
    Ensures (clusterUpdateRouteSendCommand network cc c) InTable fun result =>
      Modifies network cc result.2 := by
  by_cases known : c ∈ cc.contextNames
  · apply ((ensures_sendCommand network known).allow fun _ impossible => impossible.elim).mono
    exact fun result same => same.modifies
  · apply (ensures_knownContext c).bind
    rintro con ⟨member, rfl⟩
    exact absurd (List.mem_map_of_mem member) known

theorem modifies_exchange (before after : ValkeyContext) (reader : Request)
    (answer : Option Answer) : Modifies network cc (cc.exchange before after reader answer) :=
  (sameNames_exchange cc before after reader answer).modifies

theorem modifies_handleReply (c : Nat) :
    Ensures (clusterUpdateRouteHandleReply network order cc c) InTable fun result =>
      Modifies network cc result.2 := by
  apply (ensures_knownContext c).bind
  intro con _
  rcases valkeyGetReply (network cc.outcomes) con with ⟨answer, after⟩
  dsimp only
  have read : Modifies network cc (cc.exchange con after .route answer) :=
    modifies_exchange con after .route answer
  cases answer with
  | none => exact read.trans (modifies_setContextError after)
  | some answer =>
      dsimp only
      split
      · exact read.trans (modifies_setError _ _)
      split
      · exact read.trans (modifies_setError _ _)
      rename_i nodes parsed
      have new := (parses_routeReply _ _ _).of_ok parsed
      rcases updateNodesAndSlotmap_cases order true _ nodes with
        ⟨type, str, updated⟩ | ⟨table, _, created, updated⟩
      · rw [updated]
        exact read.trans (modifies_setError type str)
      · rw [updated]
        have filled := (filled_routeReply _ _ _).of_ok parsed
        exact read.tail (.replace new filled ((parses_createTable order _).of_ok created))

theorem modifies_queryRoute (c : Nat) :
    Ensures (queryRoute network order cc c) InTable fun result => Modifies network cc result.2 := by
  apply (modifies_sendCommand c).bind
  rintro ⟨status, next⟩ sent
  cases status with
  | err => exact sent
  | ok => exact (modifies_handleReply c).mono fun _ handled => sent.trans handled

theorem modifies_updateSlotmapFrom (nodes : List Nat) :
    Ensures (updateSlotmapFrom network order cc nodes) InTable fun result =>
      Modifies network cc result.2 := by
  induction nodes generalizing cc with
  | nil => exact .refl
  | cons node rest induction =>
      apply (modifies_getContext node).bind
      rintro ⟨con, next⟩ connected
      cases con with
      | none => exact induction.mono fun _ later => connected.trans later
      | some c =>
          apply (modifies_queryRoute c.id).bind
          rintro ⟨status, last⟩ queried
          have here := connected.trans queried
          cases status with
          | ok => exact here.trans (sameNames_clearError last).modifies
          | err => exact induction.mono fun _ later => (here.tail (.close node)).trans later

theorem modifies_updateSlotmap :
    Ensures (valkeyClusterUpdateSlotmap network order cc) InTable fun result =>
      Modifies network cc result.2 :=
  modifies_updateSlotmapFrom _

theorem modifies_table (slot : Nat) : Modifies network cc (node_get_by_table cc slot).2 := by
  unfold node_get_by_table
  split
  · exact modifies_setError _ _
  split
  · exact modifies_setError _ _
  split
  · exact modifies_setError _ _
  · exact .refl

/-! ## The executor -/

/-- A write outside the slot table, for a redirect to a slot that there is not. -/
def OutsideTable (str : Bytes) (fault : Fault) : Prop :=
  ∃ host redirect, parseRedirect host str = .ok redirect ∧
    (valkeyClusterSlots : Int) ≤ redirect.slot ∧ fault = .tableIndex redirect.slot

def RedirectFault (str : Bytes) (fault : Fault) : Prop := InTable fault ∨ OutsideTable str fault

/-- The node that a redirect names is one of the nodes then. -/
theorem modifies_redirect (c : Nat) (str : Bytes) :
    Ensures (getNodeFromRedirectReply cc c str) InTable fun result =>
      Modifies network cc result.2 ∧ ∀ target ∈ result.1, target.1 ∈ result.2.nodeNames ∧
        ∃ host redirect, parseRedirect host str = .ok redirect ∧ redirect.slot = target.2 := by
  apply (ensures_knownContext c).bind
  intro con _
  split
  · exact ⟨modifies_setError _ _, fun _ impossible => nomatch impossible⟩
  rename_i redirect parsed
  split
  · rename_i node found
    refine ⟨.refl, fun target equal => ?_⟩
    obtain rfl := Option.some.inj equal
    exact ⟨List.mem_map_of_mem (List.mem_of_find?_eq_some found), _, redirect, parsed, rfl⟩
  · rename_i unknown
    refine ⟨.single (.add unknown), fun target equal => ?_⟩
    obtain rfl := Option.some.inj equal
    rw [nodeNames_addNode]
    exact ⟨List.mem_append_right _ (List.mem_singleton_self _), _, redirect, parsed, rfl⟩

theorem modifies_updateSlot {slot : Int} {node : Nat} (known : node ∈ cc.nodeNames) :
    Ensures (updateSlot cc slot node)
      (fun fault => InTable fault ∨
        ((valkeyClusterSlots : Int) ≤ slot ∧ fault = .tableIndex slot))
      (Modifies network cc) := by
  unfold updateSlot setTable
  split
  · split
    · exact .inl (by simp [InTable])
    · rename_i table present
      split
      · exact .single (.enter _ present known)
      · rename_i outside
        exact .inr ⟨not_lt.mp outside, rfl⟩
  · exact .refl

theorem modifies_useConnection (s : Executor) (con : Option ValkeyContext) (label : Nat → Label) :
    Modifies network s.cc (useConnection s con label).2.cc := by
  cases con with
  | none => exact .refl
  | some c =>
      unfold useConnection
      dsimp only
      split
      · exact modifies_setContextError c
      · exact .refl

theorem modifies_scheduledUpdate (updating : Option Nat) (c : Nat) :
    Ensures (scheduledUpdate network cc updating c) InTable fun result =>
      Modifies network cc result.2 := by
  unfold scheduledUpdate
  split
  · exact modifies_sendCommand c
  · exact .refl

theorem modifies_scheduleUpdate : Modifies network cc (scheduleUpdate cc) :=
  (sameNames_scheduleUpdate cc).modifies

theorem modifies_putContext (con : ValkeyContext) : Modifies network cc (cc.putContext con) :=
  (sameNames_putContext cc con).modifies

section Steps

variable {command : Command} {s : Executor}

/-- A client is looked at where the connection was made with it. -/
abbrev Alters (network : Nat → Outcome) (s : Executor) (next : ExecutorState) : Prop :=
  Modifies network s.cc next.2.cc

theorem modifies_lookup {slot : Nat} {served : Option Nat}
    (found : node_get_by_table cc slot = (served, next)) : Modifies network cc next := by
  have looked := @modifies_table network cc slot
  rw [found] at looked
  exact looked

theorem alters_retryStep : Ensures (retryStep command s) InTable (Alters network s) := by
  unfold retryStep
  split
  · rename_i found
    exact modifies_lookup found
  · rename_i found
    exact modifies_lookup found

theorem alters_updateUnservedStep :
    Ensures (updateUnservedStep network order command s) InTable (Alters network s) := by
  apply modifies_updateSlotmap.bind
  rintro ⟨status, next⟩ updated
  cases status with
  | err => exact updated
  | ok =>
      dsimp only
      split
      · rename_i found
        exact updated.trans (modifies_lookup found)
      · rename_i found
        exact updated.trans (modifies_lookup found)

theorem alters_connectStep (node : Nat) :
    Ensures (connectStep network s node) InTable (Alters network s) := by
  apply (modifies_getContext node).bind
  rintro ⟨con, next⟩ connected
  cases con with
  | none => exact connected
  | some c =>
      dsimp only
      split
      · exact connected
      · exact connected

theorem alters_updateUnreachableStep :
    Ensures (updateUnreachableStep network order command s) InTable (Alters network s) := by
  apply modifies_updateSlotmap.bind
  rintro ⟨status, next⟩ updated
  cases status with
  | err => exact updated
  | ok =>
      dsimp only
      split
      · rename_i found
        exact updated.trans (modifies_lookup found)
      · rename_i node last found
        apply (modifies_getContext node).bind
        rintro ⟨con, final⟩ connected
        exact ((updated.trans (modifies_lookup found)).trans connected).trans
          (modifies_useConnection { s with cc := final } con .movedRetry)

theorem alters_movedRetryStep (c : Nat) :
    Ensures (movedRetryStep network command s c) InTable (Alters network s) := by
  apply (ensures_knownContext c).bind
  intro con _
  have appended : Modifies network s.cc
      (s.cc.putContext (valkeyAppendCommand con (.command command.cmd))) :=
    modifies_putContext _
  apply (modifies_scheduledUpdate s.updating c).bind
  rintro ⟨status, next⟩ scheduled
  apply (ensures_knownContext c).bind
  intro other _
  rcases valkeyGetReply (network next.outcomes) other with ⟨answer, after⟩
  have read := (appended.trans scheduled).trans
    (modifies_exchange other after (.command command.cmd) answer)
  cases answer with
  | some answer => exact read
  | none => exact (read.trans (modifies_setContextError after)).trans modifies_scheduleUpdate

theorem alters_repliedStep (c : Nat) :
    Ensures (repliedStep s c) InTable (Alters network s) := by
  have counted (cc : ValkeyClusterContext) (nodes : cc.nodes = s.cc.nodes)
      (table : cc.table = s.cc.table) (nextNode : cc.nextNode = s.cc.nextNode)
      (nextContext : cc.nextContext = s.cc.nextContext) : Modifies network s.cc cc :=
    (SameNames.of_fields nodes table nextNode nextContext).modifies
  unfold repliedStep
  split
  · exact .refl
  dsimp only
  split
  · exact .refl
  split
  · exact counted _ rfl rfl rfl rfl
  split
  · exact counted _ rfl rfl rfl rfl
  · exact counted _ rfl rfl rfl rfl
  · exact counted _ rfl rfl rfl rfl

theorem alters_movedStep (c : Nat) :
    Ensures (movedStep network s c) (RedirectFault s.text) (Alters network s) := by
  apply ((modifies_redirect c s.text).allow fun _ => .inl).bind
  rintro ⟨target, next⟩ ⟨redirected, named⟩
  cases target with
  | none => exact redirected
  | some target =>
      obtain ⟨known, host, redirect, parsed, slot⟩ := named target rfl
      have written := (@modifies_updateSlot network _ target.2 _ known).allow fun fault allowed =>
        allowed.imp_right fun ⟨outside, same⟩ =>
          show OutsideTable s.text fault from ⟨host, redirect, parsed, slot ▸ outside, slot ▸ same⟩
      apply written.bind
      intro last entered
      have here := redirected.trans entered
      dsimp only
      split
      · exact here
      apply ((modifies_sendCommand c).allow fun _ => .inl).bind
      rintro ⟨status, final⟩ sent
      cases status with
      | ok => exact here.trans sent
      | err => exact here.trans sent

theorem alters_movedUpdateStep (node : Nat) :
    Ensures (movedUpdateStep network order s node) InTable (Alters network s) := by
  apply modifies_updateSlotmap.bind
  rintro ⟨status, next⟩ updated
  cases status with
  | ok => exact updated.trans (sameNames_clearError next).modifies
  | err => exact updated

theorem alters_movedConnectStep (node : Nat) :
    Ensures (movedConnectStep network s node) InTable (Alters network s) := by
  apply (modifies_getContext node).bind
  rintro ⟨con, next⟩ connected
  exact connected.trans (modifies_useConnection { s with cc := next } con .movedRetry)

theorem alters_askStep (c : Nat) :
    Ensures (askStep network s c) InTable (Alters network s) := by
  apply (modifies_redirect c s.text).bind
  rintro ⟨target, next⟩ ⟨redirected, _⟩
  cases target with
  | none => exact redirected
  | some target =>
      apply (modifies_getContext target.1).bind
      rintro ⟨con, last⟩ connected
      exact (redirected.trans connected).trans
        (modifies_useConnection { s with cc := last, reply := none } con .asking)

theorem alters_askingStep (c : Nat) :
    Ensures (askingStep network s c) InTable (Alters network s) := by
  apply (ensures_knownContext c).bind
  intro con _
  have command := handshake_valkeyCommand network s.cc con .asking (by simp [Request.isCommand])
  dsimp only
  generalize valkeyCommand network s.cc con .asking = result at command ⊢
  obtain ⟨answer, after, next⟩ := result
  have asked : SameNames s.cc next :=
    .of_fields command.talked.nodes command.talked.table command.talked.nextNode command.nextContext
  have put := asked.modifies.trans (@modifies_putContext network next after)
  cases answer with
  | none => exact put.trans (modifies_setContextError after)
  | some answer => exact put

theorem alters_doneStep :
    Ensures (doneStep network order s) InTable (Alters network s) := by
  unfold doneStep
  split
  · exact .refl
  · rename_i c updating
    apply (modifies_handleReply c).bind
    rintro ⟨status, next⟩ handled
    cases status with
    | ok => exact handled
    | err =>
        apply modifies_updateSlotmap.bind
        rintro ⟨status, last⟩ updated
        have here := (handled.trans (sameNames_clearError next).modifies).trans updated
        cases status with
        | ok => exact here
        | err => exact here

/-- The MOVED reply that the executor is about to follow names a slot that there is. -/
def StepFault (state : ExecutorState) (fault : Fault) : Prop :=
  InTable fault ∨ ∃ c, state.1 = .moved c ∧ RedirectFault state.2.text fault

theorem alters_executorStep (state : ExecutorState) :
    Ensures (executorStep network order command state) (StepFault state) fun next =>
      Modifies network state.2.cc next.2.cc := by
  obtain ⟨label, s⟩ := state
  cases label with
  | retry => exact alters_retryStep.allow fun _ => .inl
  | updateUnserved => exact alters_updateUnservedStep.allow fun _ => .inl
  | connect node => exact (alters_connectStep node).allow fun _ => .inl
  | updateUnreachable => exact alters_updateUnreachableStep.allow fun _ => .inl
  | movedRetry c => exact (alters_movedRetryStep c).allow fun _ => .inl
  | replied c => exact (alters_repliedStep c).allow fun _ => .inl
  | moved c => exact (alters_movedStep c).allow fun fault outside => .inr ⟨c, rfl, outside⟩
  | movedUpdate node => exact (alters_movedUpdateStep node).allow fun _ => .inl
  | movedConnect node => exact (alters_movedConnectStep node).allow fun _ => .inl
  | ask c => exact (alters_askStep c).allow fun _ => .inl
  | asking c => exact (alters_askingStep c).allow fun _ => .inl
  | error => exact .refl
  | done => exact alters_doneStep.allow fun _ => .inl
  | returned => exact .refl

end Steps

/-! ## Calls -/

theorem modifies_fields (nodes : next.nodes = cc.nodes) (table : next.table = cc.table)
    (nextNode : next.nextNode = cc.nextNode) (nextContext : next.nextContext = cc.nextContext) :
    Modifies network cc next :=
  (SameNames.of_fields nodes table nextNode nextContext).modifies

theorem ensures_addressed (addressee : Addressee) :
    Ensures (cc.addressed addressee) InTable fun known => cc.addressed addressee = .ok known := by
  have trivially : Ensures (cc.addressed addressee) InTable fun _ => True := by
    cases addressee with
    | primary node => exact (ensures_node fun _ => inTable_danglingNode).bind fun _ _ => trivial
    | replica node index =>
        apply (ensures_node fun _ => inTable_danglingNode).bind
        intro known _
        split
        · exact inTable_danglingNode
        · trivial
  exact trivially.computed.mono fun _ result => result.1

theorem modifies_contextOf (addressee : Addressee) :
    Ensures (contextOf network cc addressee) InTable fun result =>
      Modifies network cc result.2.2 := by
  apply (ensures_addressed addressee).bind
  intro known named
  exact .single (.obtain (getContext_obtains network cc _ _ _ _)
    (fun c held => mem_contexts_addressed named held) (storesAt_storeCon named))

theorem modifies_prepareCommand {cmd : Bytes} (refused : prepareCommand cc cmd = .error next) :
    Modifies network cc next := by
  obtain ⟨err, errstr, rfl⟩ := prepareCommand_refused refused
  exact modifies_fields rfl rfl rfl rfl

theorem modifies_appendRequest (con : ValkeyContext) (cmd : Bytes) (target : Target) :
    Modifies network cc (cc.appendRequest con cmd target) :=
  (modifies_putContext _).trans (modifies_fields rfl rfl rfl rfl)

theorem modifies_appendFormattedCommand (cmd : Bytes) :
    Ensures (valkeyClusterAppendFormattedCommand network cc cmd) InTable fun result =>
      Modifies network cc result.2 := by
  unfold valkeyClusterAppendFormattedCommand
  split
  · rename_i refused
    exact modifies_prepareCommand refused
  split
  · rename_i found
    exact modifies_lookup found
  · rename_i node next found
    apply (modifies_getContext node).bind
    rintro ⟨con, last⟩ connected
    have here := (modifies_lookup found).trans connected
    cases con with
    | none => exact here
    | some c =>
        dsimp only
        split
        · exact here.trans (modifies_setContextError c)
        · exact here.trans (modifies_appendRequest c _ _)

theorem modifies_appendCommandToNode (addressee : Addressee) (formatted : Option Bytes) :
    Ensures (valkeyClusterAppendCommandToNode network cc addressee formatted) InTable fun result =>
      Modifies network cc result.2 := by
  apply (modifies_contextOf addressee).bind
  rintro ⟨addr, con, next⟩ connected
  cases con with
  | none => exact connected
  | some c =>
      dsimp only
      split
      · exact connected.trans (modifies_setContextError c)
      cases formatted with
      | none => exact connected.trans (modifies_setError _ _)
      | some cmd => exact connected.trans (modifies_appendRequest c _ _)

theorem modifies_countFailure : Modifies network cc cc.countFailure := by
  unfold countFailure
  split
  · exact .refl
  split
  · exact modifies_fields rfl rfl rfl rfl
  · exact modifies_fields rfl rfl rfl rfl

theorem modifies_getReplyFromNode (con : Option ValkeyContext) (request : Pipelined) :
    Modifies network cc (valkeyClusterGetReplyFromNode network cc con request).2.2 := by
  cases con with
  | none => exact .refl
  | some c =>
      unfold valkeyClusterGetReplyFromNode
      dsimp only
      split
      · exact modifies_countFailure.trans (modifies_setContextError c)
      rcases valkeyGetReply (network cc.outcomes) c with ⟨answer, after⟩
      have read : Modifies network cc
          (cc.exchange c after (.pipelined request.index request.cmd) answer) :=
        modifies_exchange c after _ answer
      cases answer with
      | none => exact read.trans (modifies_setContextError after)
      | some answer =>
          dsimp only
          split
          · exact read.trans (modifies_fields rfl rfl rfl rfl)
          · exact read

theorem modifies_getReply :
    Ensures (valkeyClusterGetReply network cc) InTable fun result =>
      Modifies network cc result.2.2 := by
  unfold valkeyClusterGetReply
  split
  · exact modifies_fields rfl rfl rfl rfl
  rename_i request rest _
  have taken : Modifies network cc { cc.clearError with requests := rest } :=
    modifies_fields rfl rfl rfl rfl
  dsimp only
  split
  · split
    · rename_i found
      exact taken.trans (modifies_lookup found)
    · rename_i node next found
      apply (ensures_node fun _ => inTable_danglingNode).bind
      intro known _
      exact (taken.trans (modifies_lookup found)).trans
        (modifies_getReplyFromNode known.con request)
  · split
    · exact taken.trans (modifies_setError _ _)
    · rename_i known found
      exact taken.trans (modifies_getReplyFromNode known.con request)

theorem modifies_sendAll (nodes : List Nat) :
    Ensures (valkeyClusterSendAll network cc nodes) InTable (Modifies network cc) := by
  induction nodes generalizing cc with
  | nil => exact .refl
  | cons node rest induction =>
      apply (modifies_getContext node).bind
      rintro ⟨con, next⟩ connected
      cases con with
      | none => exact induction.mono fun _ later => connected.trans later
      | some c =>
          rcases written : valkeyBufferWrite (network next.outcomes) c with ⟨status, after⟩
          have here : Modifies network cc
              ((next.advance.putContext after).recordWrites c.flushed) :=
            ((connected.trans (sameNames_advance next).modifies).trans
              (modifies_putContext after)).trans (sameNames_recordWrites _ _).modifies
          dsimp only
          rw [written]
          cases status with
          | ok => exact induction.mono fun _ later => here.trans later
          | err => exact here

theorem modifies_readReplies (count : Nat) :
    Ensures (readReplies network cc count) InTable (Modifies network cc) := by
  induction count generalizing cc with
  | zero => exact .refl
  | succ count induction =>
      apply modifies_getReply.bind
      rintro ⟨status, answer, next⟩ read
      cases status with
      | err => exact read.tail .clear
      | ok =>
          cases answer with
          | none => exact read
          | some answer => exact induction.mono fun _ later => read.trans later

theorem modifies_resetRequests :
    Ensures (resetRequests network order cc) InTable (Modifies network cc) := by
  unfold resetRequests
  split
  · exact .single .clear
  · apply (modifies_sendAll _).bind
    intro next sent
    exact (modifies_readReplies _).mono fun _ read => sent.trans read

theorem modifies_reset :
    Ensures (valkeyClusterReset network order cc) InTable (Modifies network cc) := by
  apply modifies_resetRequests.bind
  intro next reset
  have here : Modifies network cc { next with requests := [] } :=
    reset.trans (modifies_fields rfl rfl rfl rfl)
  dsimp only
  split
  · apply modifies_updateSlotmap.bind
    rintro ⟨status, last⟩ updated
    cases status with
    | err => exact here.trans updated
    | ok => exact (here.trans updated).trans (modifies_fields rfl rfl rfl rfl)
  · exact here

theorem modifies_finishUpdate (c : Nat) (updating : Bool) :
    Ensures (finishUpdate network order cc c updating) InTable (Modifies network cc) := by
  unfold finishUpdate
  split
  · apply (modifies_handleReply c).bind
    rintro ⟨status, next⟩ handled
    cases status with
    | ok => exact handled
    | err => exact handled.trans (sameNames_clearError next).modifies
  · exact .refl

theorem modifies_commandToNode (addressee : Addressee) (formatted : Option Bytes) :
    Ensures (valkeyClusterCommandToNode network order cc addressee formatted) InTable fun result =>
      Modifies network cc result.2 := by
  apply (modifies_contextOf addressee).bind
  rintro ⟨addr, con, next⟩ connected
  cases con with
  | none => exact connected
  | some c =>
      dsimp only
      split
      · exact connected.trans (modifies_setContextError c)
      have cleared := connected.trans (sameNames_clearError next).modifies
      cases formatted with
      | none =>
          exact (cleared.trans (modifies_putContext (formatError c))).trans
            (modifies_setContextError (formatError c))
      | some cmd =>
          apply (modifies_scheduledUpdate none c.id).bind
          rintro ⟨status, sent⟩ scheduled
          have here := (cleared.trans (modifies_putContext _)).trans scheduled
          apply (ensures_knownContext c.id).bind
          intro other _
          rcases valkeyGetReply (network sent.outcomes) other with ⟨answer, after⟩
          have read := here.trans (modifies_exchange other after (.command cmd) answer)
          cases answer with
          | none =>
                exact (read.trans (modifies_setContextError after)).trans modifies_scheduleUpdate
          | some answer =>
              apply (modifies_finishUpdate c.id _).bind
              exact fun last finished => read.trans finished

/-- What a step of the client can fail with. -/
def ClientFault : Client → Fault → Prop
  | .idle _, fault => InTable fault
  | .executing _ state, fault => StepFault state fault

theorem modifies_makeCall (call : Call) :
    Ensures (makeCall network order cc call) InTable fun client =>
      Modifies network cc client.cc := by
  have cleared : Modifies network cc cc.clearError := (sameNames_clearError cc).modifies
  cases call with
  | command cmd =>
      unfold makeCall
      dsimp only
      split
      · rename_i refused
        exact (cleared.trans (modifies_prepareCommand refused)).trans
          (modifies_fields rfl rfl rfl rfl)
      · exact cleared
  | commandToNode addressee formatted =>
      exact (modifies_commandToNode addressee formatted).bind fun _ made => made
  | append cmd => exact (modifies_appendFormattedCommand cmd).bind fun _ made => made
  | appendToNode addressee formatted =>
      exact (modifies_appendCommandToNode addressee formatted).bind fun _ made => made
  | getReply => exact modifies_getReply.bind fun _ made => made
  | updateSlotmap => exact modifies_updateSlotmap.bind fun _ made => made
  | reset => exact modifies_reset.bind fun _ made => made

theorem modifies_clientStep (call : Call) (client : Client) :
    Ensures (clientStep network order call client) (ClientFault client) fun next =>
      Modifies network client.cc next.cc := by
  cases client with
  | idle cc => exact modifies_makeCall call
  | executing command state =>
      obtain ⟨label, s⟩ := state
      have stepped : Ensures (executorStep network order command (label, s) >>= fun next =>
          pure (Client.executing command next)) (StepFault (label, s)) fun next =>
            Modifies network s.cc next.cc :=
        (alters_executorStep (label, s)).bind fun _ made => made
      cases label with
      | returned => exact modifies_fields rfl rfl rfl rfl
      | _ => exact stepped

end Changes

end Libvalkey
