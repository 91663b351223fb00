import Libvalkey.Cluster.PipelineRuns

/-! # Appending with little memory

The calls that append a command change two stores, the output buffer of a connection and
the list of the requests, and every allocation on the way may fail. -/

namespace Libvalkey

open Checked ValkeyClusterContext

/-! ## The calls -/

/-- Which allocations of a call succeed. An allocation that fails while a connection is set
up shows in the outcome of the network. -/
structure AppendMemory where
  /-- The formatted command. -/
  format : Bool
  /-- The `struct cmd`. -/
  command : Bool
  /-- The text of a parse error. -/
  errstr : Bool
  /-- The larger output buffer. -/
  obuf : Bool
  /-- The copy of the address in `node_addr`. -/
  nodeAddr : Bool
  /-- The node of the list of requests. -/
  listNode : Bool
  deriving DecidableEq, Repr

def AppendMemory.enough : AppendMemory := ⟨true, true, true, true, true, true⟩

/-- `valkeyAppendCmdLen` where there is no memory for the larger buffer. -/
def ValkeyContext.outOfMemory (c : ValkeyContext) : ValkeyContext :=
  { c with err := some ⟨.oom, ascii "Out of memory"⟩ }

namespace ValkeyClusterContext

def outOfMemory (cc : ValkeyClusterContext) : ValkeyClusterContext :=
  cc.setError .oom (ascii "Out of memory")

/-- A command is appended to the output buffer of a connection. -/
def appendBytes (cc : ValkeyClusterContext) (c : ValkeyContext) (cmd : Bytes) :
    ValkeyClusterContext :=
  { cc.putContext (valkeyAppendCommand c (.pipelined cc.appended cmd)) with
    appended := cc.appended + 1 }

/-- A command could not be appended. -/
def failAppend (cc : ValkeyClusterContext) (c : ValkeyContext) : ValkeyClusterContext :=
  (cc.putContext c.outOfMemory).setContextError c.outOfMemory

/-- A command is appended to an open connection and then remembered. `kept` tells whether
there is memory to remember it. -/
def appendRequestWith (memory : AppendMemory) (kept : Bool) (cc : ValkeyClusterContext)
    (c : ValkeyContext) (cmd : Bytes) (target : Target) : Status × ValkeyClusterContext :=
  if memory.obuf then
    if kept then
      (.ok,
        { cc.appendBytes c cmd with
          requests := cc.requests ++ [⟨cc.appended, cmd, target, c.session⟩] })
    else (.err, (cc.appendBytes c cmd).outOfMemory)
  else (.err, cc.failAppend c)

end ValkeyClusterContext

/-- `prepareCommand` -/
def prepareCommandWith (memory : AppendMemory) (cc : ValkeyClusterContext) (cmd : Bytes) :
    Except ValkeyClusterContext Command :=
  if cmd.length = 0 then .error cc
  else
    match valkey_parse_cmd cmd with
    | .error errstr =>
        if memory.errstr then .error (cc.setError .protocol errstr) else .error cc.outOfMemory
    | .ok none | .ok (some []) =>
        .error (cc.setError .other
          (ascii "No keys in command(must have keys for valkey cluster mode)"))
    | .ok (some key) => .ok ⟨keyHashSlot key, cmd⟩

section Calls

variable (memory : AppendMemory) (network : Nat → Outcome)

/-- `valkeyClusterAppendFormattedCommand` -/
def valkeyClusterAppendFormattedCommandWith (cc : ValkeyClusterContext) (cmd : Bytes) :
    Except Fault (Status × ValkeyClusterContext) :=
  if ¬memory.command then .ok (.err, cc.outOfMemory)
  else
    match prepareCommandWith memory cc cmd with
    | .error cc => .ok (.err, cc)
    | .ok command =>
        match node_get_by_table cc command.slot with
        | (none, cc) => .ok (.err, cc)
        | (some node, cc) => do
            let (con, cc) ← valkeyClusterGetValkeyContext network cc node
            match con with
            | none => return (.err, cc)
            | some c =>
                if c.err.isSome then return (.err, cc.setContextError c)
                else return appendRequestWith memory memory.listNode cc c cmd (.slot command.slot)

/-- `valkeyClustervAppendCommand`, and `valkeyClusterAppendCommandArgv` where the format is
always valid. -/
def valkeyClusterAppendCommandWith (cc : ValkeyClusterContext) (formatted : Option Bytes) :
    Except Fault (Status × ValkeyClusterContext) :=
  if ¬memory.format then .ok (.err, cc.outOfMemory)
  else
    match formatted with
    | none => .ok (.err, cc.setError .other (ascii "Invalid format string"))
    | some cmd => valkeyClusterAppendFormattedCommandWith memory network cc cmd

/-- `valkeyClustervAppendCommandToNode` -/
def valkeyClusterAppendCommandToNodeWith (cc : ValkeyClusterContext) (addressee : Addressee)
    (formatted : Option Bytes) : Except Fault (Status × ValkeyClusterContext) := do
  let (addr, con, cc) ← contextOf network cc addressee
  match con with
  | none => return (.err, cc)
  | some c =>
      if c.err.isSome then return (.err, cc.setContextError c)
      else if ¬memory.format then return (.err, cc.outOfMemory)
      else
        match formatted with
        | none => return (.err, cc.setError .other (ascii "Invalid format string"))
        | some cmd =>
            return appendRequestWith memory (memory.command && memory.nodeAddr && memory.listNode)
              cc c cmd (.node addr)

/-- The functions that append a command. -/
inductive AppendCall
  | formattedCommand (cmd : Bytes)
  | command (formatted : Option Bytes)
  | commandToNode (addressee : Addressee) (formatted : Option Bytes)
  deriving DecidableEq, Repr

def AppendCall.make (cc : ValkeyClusterContext) :
    AppendCall → Except Fault (Status × ValkeyClusterContext)
  | .formattedCommand cmd => valkeyClusterAppendFormattedCommandWith memory network cc cmd
  | .command formatted => valkeyClusterAppendCommandWith memory network cc formatted
  | .commandToNode addressee formatted =>
      valkeyClusterAppendCommandToNodeWith memory network cc addressee formatted

/-- The allocations that follow once the command is in the output buffer. -/
def AppendCall.kept : AppendCall → Bool
  | .formattedCommand _ | .command _ => memory.listNode
  | .commandToNode _ _ => memory.command && memory.nodeAddr && memory.listNode

/-- A command with a slot comes to an open connection. -/
def ReachesSlot (cc : ValkeyClusterContext) (cmd : Bytes) : Prop :=
  memory.command ∧ memory.obuf ∧ ∃ command node looked c next,
    prepareCommandWith memory cc cmd = .ok command ∧
      node_get_by_table cc command.slot = (some node, looked) ∧
      valkeyClusterGetValkeyContext network looked node = .ok (some c, next) ∧ c.err = none

/-- The command comes to the output buffer of an open connection. -/
def AppendCall.Reaches (cc : ValkeyClusterContext) : AppendCall → Prop
  | .formattedCommand cmd => ReachesSlot memory network cc cmd
  | .command formatted =>
      memory.format ∧ ∃ cmd, formatted = some cmd ∧ ReachesSlot memory network cc cmd
  | .commandToNode addressee formatted =>
      memory.format ∧ memory.obuf ∧ formatted.isSome ∧ ∃ addr c next,
        contextOf network cc addressee = .ok (addr, some c, next) ∧ c.err = none

end Calls

/-! ## Enough memory -/

theorem prepareCommandWith_enough (cc : ValkeyClusterContext) (cmd : Bytes) :
    prepareCommandWith .enough cc cmd = prepareCommand cc cmd := rfl

theorem appendFormattedCommandWith_enough (network : Nat → Outcome) (cc : ValkeyClusterContext)
    (cmd : Bytes) : valkeyClusterAppendFormattedCommandWith .enough network cc cmd =
      valkeyClusterAppendFormattedCommand network cc cmd := rfl

theorem appendCommandToNodeWith_enough (network : Nat → Outcome) (cc : ValkeyClusterContext)
    (addressee : Addressee) (formatted : Option Bytes) :
    valkeyClusterAppendCommandToNodeWith .enough network cc addressee formatted =
      valkeyClusterAppendCommandToNode network cc addressee formatted := by
  apply congrArg (contextOf network cc addressee >>= ·)
  funext ⟨addr, con, next⟩
  cases con with
  | none => rfl
  | some c => cases formatted <;> rfl

/-! ## What a refused call leaves -/

namespace ValkeyClusterContext

variable {cc looked next last : ValkeyClusterContext}

/-- Neither the requests nor what is still to be sent has changed. A connection with an error
may have been opened anew. -/
structure Untouched (cc next : ValkeyClusterContext) : Prop where
  requests : next.requests = cc.requests
  kept : ∀ con ∈ cc.contexts, ∃ after ∈ next.contexts, after.id = con.id ∧
    (after.session = con.session ∧ after.obuf = con.obuf ∨
      con.err ≠ none ∧ after.session = cc.outcomes)
  unsent : ∀ after ∈ next.contexts, after.err = none → after.obuf = [] ∨
    ∃ con ∈ cc.contexts, con.err = none ∧ con.id = after.id ∧ con.session = after.session ∧
      con.obuf = after.obuf

namespace Untouched

theorem of_nodes (requests : next.requests = cc.requests) (nodes : next.nodes = cc.nodes) :
    Untouched cc next := by
  have contexts : next.contexts = cc.contexts := by
    rw [ValkeyClusterContext.contexts, nodes, ← ValkeyClusterContext.contexts]
  constructor
  · exact requests
  · exact fun con member => ⟨con, contexts ▸ member, rfl, .inl ⟨rfl, rfl⟩⟩
  · exact fun after member alive => .inr ⟨after, contexts ▸ member, alive, rfl, rfl, rfl⟩

theorem refl (cc : ValkeyClusterContext) : Untouched cc cc := .of_nodes rfl rfl

/-- The error of the client has changed since. -/
theorem then_nodes (untouched : Untouched cc next) (requests : last.requests = next.requests)
    (nodes : last.nodes = next.nodes) : Untouched cc last := by
  have contexts : last.contexts = next.contexts := by
    rw [ValkeyClusterContext.contexts, nodes, ← ValkeyClusterContext.contexts]
  constructor
  · exact requests.trans untouched.requests
  · exact contexts ▸ untouched.kept
  · exact contexts ▸ untouched.unsent

theorem then_setContextError (untouched : Untouched cc next) (c : ValkeyContext) :
    Untouched cc (next.setContextError c) :=
  untouched.then_nodes (SameRequests.setContextError next c).requests (nodes_setContextError next c)

theorem then_setError (untouched : Untouched cc next) (type : ErrorType) (str : Bytes) :
    Untouched cc (next.setError type str) := untouched.then_nodes rfl rfl

theorem then_outOfMemory (untouched : Untouched cc next) : Untouched cc next.outOfMemory :=
  untouched.then_setError _ _

/-- The output buffer of a connection could not grow. -/
theorem failAppend (untouched : Untouched cc next) (wellFormed : next.WellFormed)
    {c : ValkeyContext} (member : c ∈ next.contexts) : Untouched cc (next.failAppend c) := by
  unfold ValkeyClusterContext.failAppend
  apply then_setContextError
  constructor
  · exact untouched.requests
  · intro con inContexts
    obtain ⟨after, inNext, id, same⟩ := untouched.kept con inContexts
    by_cases here : after.id = c.id
    · obtain rfl := List.inj_on_of_nodup_map wellFormed.contextNames_nodup inNext member here
      refine ⟨after.outOfMemory, ?_, id, same⟩
      rw [contexts_putContext]
      exact List.mem_map.mpr ⟨after, inNext, if_pos rfl⟩
    · refine ⟨after, ?_, id, same⟩
      rw [contexts_putContext]
      exact List.mem_map.mpr ⟨after, inNext, if_neg here⟩
  · intro after inPut alive
    rcases mem_contexts_putContext inPut with rfl | ⟨inNext, _⟩
    · exact nomatch alive
    · exact untouched.unsent after inNext alive

end Untouched

theorem obuf_idle {c : ValkeyContext} (idle : c.outstanding = []) (alive : c.err = none) :
    c.obuf = [] := by
  unfold ValkeyContext.outstanding at idle
  rw [if_pos alive] at idle
  exact (List.append_eq_nil_iff.mp (List.append_eq_nil_iff.mp idle).2).2

/-- Looking for the connection of a node appends nothing. -/
theorem untouched_obtains {network : Nat → Outcome} (wellFormed : cc.WellFormed) {port : Int}
    {held con : Option ValkeyContext}
    {store : ValkeyClusterContext → ValkeyContext → ValkeyClusterContext}
    (obtains : Obtains network cc port held store (con, next))
    (member : ∀ c ∈ held, c ∈ cc.contexts) (stores : held = none → StoresAt cc.nodes store) :
    Untouched cc next := by
  cases obtains with
  | unreachable without talked => exact .of_nodes talked.requests talked.nodes
  | existing known alive => exact .refl cc
  | @reconnected old con middle known lost made established id =>
      have contexts : middle.contexts = cc.contexts := by
        rw [ValkeyClusterContext.contexts, established.talked.nodes,
          ← ValkeyClusterContext.contexts]
      constructor
      · exact established.talked.requests
      · intro other inContexts
        rw [contexts_putContext, contexts]
        by_cases here : other.id = con.id
        · obtain rfl := List.inj_on_of_nodup_map wellFormed.contextNames_nodup inContexts
            (member old known) (here.trans id)
          exact ⟨con, List.mem_map.mpr ⟨other, inContexts, if_pos here⟩, here.symm,
            .inr ⟨lost, established.session⟩⟩
        · exact ⟨other, List.mem_map.mpr ⟨other, inContexts, if_neg here⟩, rfl, .inl ⟨rfl, rfl⟩⟩
      · intro after inPut alive
        rcases mem_contexts_putContext inPut with rfl | ⟨inMiddle, _⟩
        · exact .inl (obuf_idle established.idle alive)
        · exact .inr ⟨after, contexts ▸ inMiddle, alive, rfl, rfl, rfl⟩
  | @new con middle without established id =>
      have contexts : middle.contexts = cc.contexts := by
        rw [ValkeyClusterContext.contexts, established.talked.nodes,
          ← ValkeyClusterContext.contexts]
      have stored := stores without
      obtain ⟨changed, only⟩ := stored.only middle con
      have names : middle.nodeNames.Nodup := by
        rw [ValkeyClusterContext.nodeNames, established.talked.nodes]
        exact wellFormed.nodeNames_nodup
      constructor
      · rw [only]
        exact established.talked.requests
      · intro other inContexts
        have added := stored.added middle con established.talked.nodes names
        have named : other.id ∈ (store middle con).contextNames := by
          apply added.mem_iff.mpr
          apply List.mem_cons_of_mem
          rw [ValkeyClusterContext.contextNames, contexts]
          exact List.mem_map_of_mem inContexts
        obtain ⟨after, inStored, same⟩ := List.mem_map.mp named
        rcases stored.contexts middle con after inStored with rfl | inMiddle
        · have below := wellFormed.contextNames_lt other.id (List.mem_map_of_mem inContexts)
          exact absurd (same.symm.trans id) (Nat.ne_of_lt below)
        · obtain rfl := List.inj_on_of_nodup_map wellFormed.contextNames_nodup
            (contexts ▸ inMiddle) inContexts same
          exact ⟨after, inStored, rfl, .inl ⟨rfl, rfl⟩⟩
      · intro after inStored alive
        rcases stored.contexts middle con after inStored with rfl | inMiddle
        · exact .inl (obuf_idle established.idle alive)
        · exact .inr ⟨after, contexts ▸ inMiddle, alive, rfl, rfl, rfl⟩

/-- An open connection of the client has been looked up. -/
structure Found (cc : ValkeyClusterContext) (c : ValkeyContext) (next : ValkeyClusterContext) :
    Prop where
  wellFormed : next.WellFormed
  untouched : Untouched cc next
  member : c ∈ next.contexts
  same : ∀ con ∈ cc.contexts, con.err = none → con.id = c.id → con = c

theorem found_obtains {network : Nat → Outcome} (wellFormed : cc.WellFormed) {port : Int}
    {held : Option ValkeyContext} {c : ValkeyContext}
    {store : ValkeyClusterContext → ValkeyContext → ValkeyClusterContext}
    (obtains : Obtains network cc port held store (some c, next))
    (member : ∀ c ∈ held, c ∈ cc.contexts) (stores : held = none → StoresAt cc.nodes store) :
    Found cc c next where
  wellFormed := (wellFormed.of_obtains obtains member stores).1
  untouched := untouched_obtains wellFormed obtains member stores
  member := by
    cases obtains with
    | existing known alive => exact member c known
    | @reconnected old _ middle known lost made established id =>
        rw [contexts_putContext, ValkeyClusterContext.contexts, established.talked.nodes,
          ← ValkeyClusterContext.contexts]
        exact List.mem_map.mpr ⟨old, member old known, if_pos id.symm⟩
    | @new _ middle without established =>
        exact (stores without).here middle c established.talked.nodes
  same := by
    intro con inContexts alive id
    cases obtains with
    | existing known _ =>
        exact List.inj_on_of_nodup_map wellFormed.contextNames_nodup inContexts (member c known) id
    | @reconnected old _ middle known lost made established name =>
        obtain rfl := List.inj_on_of_nodup_map wellFormed.contextNames_nodup inContexts
          (member old known) (id.trans name)
        exact absurd alive lost
    | new without established name =>
        have below := wellFormed.contextNames_lt con.id (List.mem_map_of_mem inContexts)
        exact absurd (id.trans name) (Nat.ne_of_lt below)

/-- Bytes that have been appended and are not remembered are a change. -/
theorem Found.not_untouched {c : ValkeyContext} (found : Found cc c next) (alive : c.err = none)
    (cmd : Bytes) (nodes : last.nodes = (next.appendBytes c cmd).nodes) : ¬Untouched cc last := by
  intro untouched
  have member : valkeyAppendCommand c (.pipelined next.appended cmd) ∈ last.contexts := by
    rw [ValkeyClusterContext.contexts, nodes, ← ValkeyClusterContext.contexts]
    change _ ∈ (next.putContext _).contexts
    rw [contexts_putContext]
    exact List.mem_map.mpr ⟨c, found.member, if_pos rfl⟩
  rcases untouched.unsent _ member alive with empty | ⟨con, inContexts, open_, id, _, obuf⟩
  · exact List.append_ne_nil_of_right_ne_nil _ (List.cons_ne_nil _ _) empty
  · obtain rfl := found.same con inContexts open_ id
    exact absurd (congrArg List.length obuf) (by simp [valkeyAppendCommand])

/-- The call is all or nothing. -/
def AllOrNothing (cc : ValkeyClusterContext) (result : Status × ValkeyClusterContext) : Prop :=
  result.1 = .err → Untouched cc result.2

theorem Untouched.allOrNothing {status : Status} {reaches kept : Prop}
    (untouched : Untouched cc next) (unreached : ¬reaches) :
    AllOrNothing cc (status, next) ↔ (reaches → kept) :=
  ⟨fun _ reached => absurd reached unreached, fun _ _ => untouched⟩

theorem Found.allOrNothing {c : ValkeyContext} (found : Found cc c next) (alive : c.err = none)
    (memory : AppendMemory) (kept : Bool) (cmd : Bytes) (target : Target) :
    AllOrNothing cc (appendRequestWith memory kept next c cmd target) ↔
      (memory.obuf = true → kept = true) := by
  unfold appendRequestWith
  split
  · rename_i appended
    split
    · rename_i remembered
      exact ⟨fun _ _ => remembered, fun _ impossible => nomatch impossible⟩
    · rename_i forgotten
      constructor
      · exact fun nothing => absurd (nothing rfl) (found.not_untouched alive cmd rfl)
      · exact fun remembered => absurd (remembered appended) forgotten
  · rename_i full
    exact (found.untouched.failAppend found.wellFormed found.member).allOrNothing full

end ValkeyClusterContext

/-! ## All or nothing -/

section AllOrNothing

variable {memory : AppendMemory} {network : Nat → Outcome} {cc next : ValkeyClusterContext}

theorem prepareCommandWith_refused {cmd : Bytes}
    (refused : prepareCommandWith memory cc cmd = .error next) : cc.Untouched next := by
  unfold prepareCommandWith at refused
  split at refused
  · obtain rfl := Except.error.inj refused
    exact .refl cc
  split at refused
  · split at refused
    all_goals
      obtain rfl := Except.error.inj refused
      exact .of_nodes rfl rfl
  · obtain rfl := Except.error.inj refused
    exact .of_nodes rfl rfl
  · obtain rfl := Except.error.inj refused
    exact .of_nodes rfl rfl
  · exact nomatch refused

theorem allOrNothing_formattedCommand (wellFormed : cc.WellFormed) (cmd : Bytes) :
    Ensures (valkeyClusterAppendFormattedCommandWith memory network cc cmd) anyFault fun result =>
      AllOrNothing cc result ↔ (ReachesSlot memory network cc cmd → memory.listNode = true) := by
  unfold valkeyClusterAppendFormattedCommandWith
  split
  · rename_i without
    have untouched : cc.Untouched cc := .refl cc
    exact untouched.then_outOfMemory.allOrNothing fun reaches => without reaches.1
  rename_i allocated
  cases prepared : prepareCommandWith memory cc cmd with
  | error refused =>
      apply (prepareCommandWith_refused prepared).allOrNothing
      rintro ⟨_, _, _, _, _, _, _, impossible, _⟩
      exact nomatch prepared.symm.trans impossible
  | ok command =>
      dsimp only
      rcases node_get_by_table_found cc command.slot with ⟨node, looked⟩ | ⟨str, missing⟩
      · rw [looked]
        apply (ensures_obtains network cc fun _ => trivial).computed.bind
        rintro ⟨con, next⟩ ⟨got, known, member, _, obtains⟩
        have inContexts (c : ValkeyContext) (held : c ∈ known.con) : c ∈ cc.contexts :=
          mem_contexts member held
        have stores := storesAt_setCon member
        have reached (reaches : ReachesSlot memory network cc cmd) :
            memory.obuf = true ∧ ∃ c, con = some c ∧ c.err = none := by
          obtain ⟨_, obuf, other, name, after, c, last, also, found, gives, alive⟩ := reaches
          obtain rfl := Except.ok.inj (prepared.symm.trans also)
          obtain ⟨named, rfl⟩ := Prod.mk.inj (looked.symm.trans found)
          obtain rfl := Option.some.inj named
          obtain ⟨rfl, _⟩ := Prod.mk.inj (Except.ok.inj (got.symm.trans gives))
          exact ⟨obuf, c, rfl, alive⟩
        have untouched := untouched_obtains wellFormed obtains inContexts stores
        cases con with
        | none =>
            apply untouched.allOrNothing
            intro reaches
            obtain ⟨_, c, impossible, _⟩ := reached reaches
            exact nomatch impossible
        | some c =>
            dsimp only
            split
            · rename_i dead
              apply (untouched.then_setContextError c).allOrNothing
              intro reaches
              obtain ⟨_, same, here, alive⟩ := reached reaches
              obtain rfl := Option.some.inj here
              exact Option.isSome_iff_ne_none.mp dead alive
            · rename_i dead
              have alive : c.err = none := by simpa using dead
              have found := found_obtains wellFormed obtains inContexts stores
              apply (found.allOrNothing alive memory memory.listNode cmd _).trans
              have allocated : memory.command = true := by simpa using allocated
              constructor
              · exact fun kept reaches => kept (reached reaches).1
              · exact fun kept obuf => kept
                  ⟨allocated, obuf, command, node, cc, c, next, prepared, looked, got, alive⟩
      · rw [missing]
        have untouched : cc.Untouched cc := .refl cc
        apply (untouched.then_setError .other str).allOrNothing
        rintro ⟨_, _, _, _, _, _, _, also, found, _⟩
        obtain rfl := Except.ok.inj (prepared.symm.trans also)
        exact nomatch missing.symm.trans found

theorem allOrNothing_commandToNode (wellFormed : cc.WellFormed) (addressee : Addressee)
    (formatted : Option Bytes) :
    Ensures (valkeyClusterAppendCommandToNodeWith memory network cc addressee formatted) anyFault
      fun result => AllOrNothing cc result ↔
        (AppendCall.Reaches memory network cc (.commandToNode addressee formatted) →
          AppendCall.kept memory (.commandToNode addressee formatted) = true) := by
  have connecting : Ensures (contextOf network cc addressee) anyFault fun result =>
      cc.Untouched result.2.2 ∧ ∀ c ∈ result.2.1, Found cc c result.2.2 := by
    unfold contextOf
    cases named : cc.addressed addressee with
    | error fault => trivial
    | ok known =>
        have obtains := getContext_obtains network cc known.host known.port known.con
          fun cc c => cc.storeCon addressee c
        dsimp only [bind, Except.bind, ensures_pure]
        generalize getContext network cc known.host known.port known.con
          (fun cc c => cc.storeCon addressee c) = result at obtains ⊢
        obtain ⟨con, next⟩ := result
        have inContexts (c : ValkeyContext) (held : c ∈ known.con) : c ∈ cc.contexts :=
          mem_contexts_addressed named held
        refine ⟨untouched_obtains wellFormed obtains inContexts (storesAt_storeCon named), ?_⟩
        intro c held
        obtain rfl : con = some c := held
        exact found_obtains wellFormed obtains inContexts (storesAt_storeCon named)
  apply connecting.computed.bind
  rintro ⟨addr, con, next⟩ ⟨got, untouched, finds⟩
  have reached
      (reaches : AppendCall.Reaches memory network cc (.commandToNode addressee formatted)) :
      ∃ c, con = some c ∧ c.err = none := by
    obtain ⟨_, _, _, name, c, last, gives, alive⟩ := reaches
    obtain ⟨_, same⟩ := Prod.mk.inj (Except.ok.inj (got.symm.trans gives))
    exact ⟨c, (Prod.mk.inj same).1, alive⟩
  cases con with
  | none =>
      apply untouched.allOrNothing
      intro reaches
      obtain ⟨c, impossible, _⟩ := reached reaches
      cases impossible
  | some c =>
      dsimp only
      split
      · rename_i dead
        apply (untouched.then_setContextError c).allOrNothing
        intro reaches
        obtain ⟨_, here, alive⟩ := reached reaches
        obtain rfl := Option.some.inj here
        exact Option.isSome_iff_ne_none.mp dead alive
      rename_i dead
      have alive : c.err = none := by simpa using dead
      split
      · rename_i unformatted
        apply untouched.then_outOfMemory.allOrNothing
        exact fun reaches => unformatted reaches.1
      rename_i format
      have format : memory.format = true := by simpa using format
      cases formatted with
      | none =>
          apply (untouched.then_setError _ _).allOrNothing
          exact fun reaches => by cases reaches.2.2.1
      | some cmd =>
          apply ((finds c rfl).allOrNothing alive memory _ cmd _).trans
          constructor
          · exact fun kept reaches => kept reaches.2.1
          · exact fun kept obuf => kept ⟨format, obuf, rfl, addr, c, next, got, alive⟩

/-- A call that appends a command and fails leaves the requests and what is to be sent as they
were, if and only if the command does not come to an output buffer, or all allocations after
that succeed. -/
theorem append_all_or_nothing (wellFormed : cc.WellFormed) {call : AppendCall}
    {result : Status × ValkeyClusterContext} (made : call.make memory network cc = .ok result) :
    AllOrNothing cc result ↔ (call.Reaches memory network cc → call.kept memory = true) := by
  cases call with
  | formattedCommand cmd => exact (allOrNothing_formattedCommand wellFormed cmd).of_ok made
  | commandToNode addressee formatted =>
      exact (allOrNothing_commandToNode wellFormed addressee formatted).of_ok made
  | command formatted =>
      have made : valkeyClusterAppendCommandWith memory network cc formatted = .ok result := made
      unfold valkeyClusterAppendCommandWith at made
      split at made
      · rename_i unformatted
        obtain rfl := Except.ok.inj made
        have untouched : cc.Untouched cc := .refl cc
        exact untouched.then_outOfMemory.allOrNothing fun reaches => unformatted reaches.1
      rename_i format
      have format : memory.format = true := by simpa using format
      cases formatted with
      | none =>
          obtain rfl := Except.ok.inj made
          have untouched : cc.Untouched cc := .refl cc
          apply (untouched.then_setError _ _).allOrNothing
          rintro ⟨_, _, impossible, _⟩
          exact nomatch impossible
      | some cmd =>
          apply ((allOrNothing_formattedCommand wellFormed cmd).of_ok made).trans
          constructor
          · rintro kept ⟨_, same, here, reaches⟩
            obtain rfl := Option.some.inj here
            exact kept reaches
          · exact fun kept reaches => kept ⟨format, cmd, rfl, reaches⟩

end AllOrNothing

end Libvalkey
