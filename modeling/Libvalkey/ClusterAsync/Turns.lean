import Libvalkey.Async.Ordinary
import Libvalkey.ClusterAsync.Changes

/-! # What one step of the asynchronous cluster client does

A step makes some changes, submits a command, closes a connection, lets one go on, or
releases nodes. -/

namespace Libvalkey

open Checked

variable {Fn Data : Type}

/-! ## Stacks -/

/-- The part of a stack that tells what the library still has to do. -/
def essential (stack : List Activity) : List Activity :=
  stack.filter fun
    | .connection _ | .release _ _ | .user (.finishes _) | .user .frees => true
    | .user .returns | .disconnect _ => false

/-- The records that are freed when the callbacks of the user return. -/
def finishing (stack : List Activity) : List Nat :=
  stack.filterMap fun
    | .user (.finishes cad) => some cad
    | _ => none

/-- The connections that the library goes on with. -/
def busy (stack : List Activity) : List Nat :=
  stack.filterMap fun
    | .connection c => some c
    | _ => none

theorem busy_essential (stack : List Activity) : busy (essential stack) = busy stack := by
  unfold busy essential
  rw [List.filterMap_filter]
  apply List.filterMap_congr
  intro frame _
  rcases frame with c | (_ | cad | _) | ⟨count, last⟩ | nodes <;> rfl

theorem busy_same {stack frames : List Activity} (same : essential frames = essential stack) :
    busy frames = busy stack := by
  rw [← busy_essential frames, same, busy_essential]

/-! ## Events -/

/-- The connection that an event lets go on, how, and what is below it. -/
def ClusterEvent.handles (stack : List Activity) :
    ClusterEvent Fn Data → Option (Nat × AsyncEvent ClusterFn ClusterData × List Activity)
  | .proceed =>
      match stack with
      | .connection c :: rest => some (c, .proceed, rest)
      | _ => none
  | .readable c outcome input => if stack = [] then some (c, .readable outcome input, []) else none
  | .writable c outcome output =>
        if stack = [] then some (c, .writable outcome output, []) else none
  | .timer c => if stack = [] then some (c, .timer, []) else none
  | _ => none

/-- An event for a connection is one of the event library, while the library waits, or the
library goes on with the connection. -/
theorem handles_cases {stack rest : List Activity} {event : ClusterEvent Fn Data} {c : Nat}
    {handled : AsyncEvent ClusterFn ClusterData}
    (handles : event.handles stack = some (c, handled, rest)) :
    handled.isCall = false ∧
      ((stack = [] ∧ rest = []) ∨ (handled = .proceed ∧ stack = .connection c :: rest)) := by
  unfold ClusterEvent.handles at handles
  split at handles
  · split at handles
    · cases handles
      exact ⟨rfl, .inr ⟨rfl, rfl⟩⟩
    · cases handles
  all_goals first
    | cases handles
    | split at handles
      · rename_i empty
        cases handles
        exact ⟨rfl, .inl ⟨empty, rfl⟩⟩
      · cases handles

/-- A submission of the user. -/
inductive ClusterEvent.Submits : ClusterEvent Fn Data → Option Fn → Data → Bytes → Prop
  | routed (fn : Option Fn) (privdata : Data) (cmd : Bytes) :
      Submits (.command fn privdata cmd) fn privdata cmd
  | named (node : Addressee) (fn : Option Fn) (privdata : Data) (cmd : Bytes) :
      Submits (.commandToNode node fn privdata cmd) fn privdata cmd

section Turns

variable (world : World)

/-- The nodes of a reply to `CLUSTER SLOTS` or `CLUSTER NODES`, and a table of them. -/
structure Learned (base : Nat) (table : List (Option Nat))
    (nodes : List (ValkeyClusterNode ValkeyContext)) : Prop where
  new : NewNodes base nodes
  filled : nodes ≠ []
  refers : RefersTo (nodes.map (·.id)) table

/-- What a callback of the client does. -/
inductive Called (stack : List Activity) (acc : ValkeyClusterAsyncContext Fn Data) (c : Nat) :
    ClusterFn → ClusterData → Option ReplyTree → ClusterAsyncState Fn Data → Prop
  | selected (data : ClusterData) {reply : ReplyTree} (accepted : reply.isError = false) :
      Called stack acc c .selectReply data (some reply) (stack, acc)
  | rejected (data : ClusterData) {reply : Option ReplyTree} {ac closed : Connection}
      (refused : reply.all (·.isError)) (found : acc.connection c = .ok ac)
      (close : ac.disconnect world = .ok closed) :
      Called stack acc c .selectReply data reply
        (stack, (acc.setError (some selectFailed)).putConnection closed)
  | refreshed (useClusterNodes : Bool) (data : ClusterData) (reply : Option ReplyTree)
      {next : ValkeyClusterAsyncContext Fn Data} (works : Works (acc.stampUpdate world) next) :
      Called stack acc c (routeCallback useClusterNodes) data reply (stack, next)
  | replaced (useClusterNodes : Bool) (data : ClusterData) (reply : Option ReplyTree)
      {table : List (Option Nat)} {nodes : List (ValkeyClusterNode ValkeyContext)}
      (learned : Learned acc.cc.nextNode table nodes) :
      Called stack acc c (routeCallback useClusterNodes) data reply
        (.release (owners acc.cc.nodes).length false :: stack,
          installNodes world (acc.stampUpdate world) table nodes)
  | resent {id : Nat} {cad : ClusterAsyncData Fn Data} {reply : Option ReplyTree}
      {next : ValkeyClusterAsyncContext Fn Data} (known : acc.findRecord id = some cad)
      (handled : valkeyClusterAsyncCallback world acc c cad reply = .ok (.returns, next))
      (answered : Answered acc cad (.returns, next)) :
      Called stack acc c .asyncCallback (.record id) reply (stack, next)
  | delivered {id : Nat} {cad : ClusterAsyncData Fn Data} {reply given : Option ReplyTree}
      {fn : Fn} {next : ValkeyClusterAsyncContext Fn Data} (known : acc.findRecord id = some cad)
      (handled : valkeyClusterAsyncCallback world acc c cad reply = .ok (.calls cad given, next))
      (answered : Answered acc cad (.calls cad given, next)) (callback : cad.callback = some fn) :
      Called stack acc c .asyncCallback (.record id) reply
        (.user (.finishes cad.id) :: stack,
          { next with deliveries := next.deliveries ++ [⟨cad.id, fn, cad.privdata, given⟩] })

/-- What a new state of a connection leads to. -/
inductive Settling (stack : List Activity) (acc : ValkeyClusterAsyncContext Fn Data)
    (ac : Connection) : ClusterAsyncState Fn Data → Prop
  | keeps {frames : List Activity}
      (same : essential frames =
        essential (if ac.state.1.isIdle then stack else .connection ac.id :: stack))
      (quiet : ac.state.1.isServed = false) (present : ac.state.1 ≠ .gone) :
      Settling stack acc ac (frames, acc.putConnection ac)
  | gone {next : ValkeyClusterAsyncContext Fn Data} (label : ac.state.1 = .gone)
      (removed : acc.removeConnection ac = .ok next) : Settling stack acc ac (stack, next)
  | serves {cb : Callback ClusterFn ClusterData} {fn : ClusterFn} {data : ClusterData}
      {reply : Option ReplyTree} {final : ClusterAsyncState Fn Data}
      (served : ac.state.1.isServed = true) (last : lastServed ac.state.2 = some ⟨cb, reply⟩)
      (callback : cb.fn = some (.user fn)) (privdata : cb.privdata = .user data)
      (alive : acc.life ≠ .freed)
      (called : Called world (.connection ac.id :: stack) (acc.putConnection ac) ac.id fn data reply
        final) : Settling stack acc ac final

/-- Why a connection can not go on. -/
inductive Fails (acc : ValkeyClusterAsyncContext Fn Data) (ac : Connection) : ClusterFault → Prop
  | sheltered {fault : ClusterFault} (sheltered : Sheltered fault) : Fails acc ac fault
  | outside {cb : Callback ClusterFn ClusterData} {reply : ReplyTree} {id : Nat}
      {cad : ClusterAsyncData Fn Data} {text : Bytes} {fault : ClusterFault}
      (served : ac.state.1.isServed = true) (last : lastServed ac.state.2 = some ⟨cb, some reply⟩)
      (callback : cb.fn = some (.user .asyncCallback)) (privdata : cb.privdata = .user (.record id))
      (known : acc.findRecord id = some cad) (follows : followed acc cad reply = some text)
      (outside : Outside text fault) : Fails acc ac fault
  | freed (life : acc.life = .freed) : Fails acc ac .usedAfterFree
  | unknown {cb : Callback ClusterFn ClusterData} {reply : Option ReplyTree} {id : Nat}
      (served : ac.state.1.isServed = true) (last : lastServed ac.state.2 = some ⟨cb, reply⟩)
      (callback : cb.fn = some (.user .asyncCallback)) (privdata : cb.privdata = .user (.record id))
      (missing : acc.findRecord id = none) : Fails acc ac .usedAfterFree

variable {world} {stack : List Activity} {acc : ValkeyClusterAsyncContext Fn Data}

/-! ## Callbacks of the client -/

theorem ensures_ofConnection {α : Type} (computation : Except AsyncFault α) :
    Ensures (ofConnection computation) Sheltered fun value => computation = .ok value := by
  cases computation with
  | ok value => exact rfl
  | error fault => simp [ofConnection, Sheltered]

theorem ensures_disconnect (ac : Connection) :
    Ensures (ac.disconnect world) Sheltered fun closed => ac.disconnect world = .ok closed := by
  have disconnected : Ensures (ac.disconnect world) Sheltered fun _ => True := by
    apply (ensures_ofConnection _).bind
    intro state _
    trivial
  exact disconnected.computed.mono fun closed same => same.1

theorem ensures_selectReply (c : Nat) (data : ClusterData) (reply : Option ReplyTree) :
    Ensures (selectReplyCallback world acc c reply) Sheltered fun next =>
      Called world stack acc c .selectReply data reply (stack, next) := by
  unfold selectReplyCallback
  split
  · rename_i refused
    apply (ensures_connection c).bind
    intro ac found
    apply (ensures_disconnect ac).bind
    intro closed close
    exact .rejected data refused found close
  · rename_i accepted
    cases reply with
    | none => simp at accepted
    | some reply => exact .selected data (by simpa using accepted)

theorem ensures_routeReply
    {parse : Bytes → Nat → ReplyTree → Except String (List (ValkeyClusterNode ValkeyContext))}
    (parses : ∀ host base reply,
      Parses (parse host base reply) fun nodes => NewNodes base nodes ∧ nodes ≠ []) (c : Nat)
    (reply : Option ReplyTree) :
    Ensures (routeReplyCallback world parse acc c reply) Sheltered fun result =>
      (result.1 = .returns ∧ Works (acc.stampUpdate world) result.2) ∨
        ∃ table nodes, Learned acc.cc.nextNode table nodes ∧
          result = (.releases (owners acc.cc.nodes).length,
            installNodes world (acc.stampUpdate world) table nodes) := by
  unfold routeReplyCallback
  cases reply with
  | none =>
      apply (ensures_updateSlotMapAsync none).bind
      intro result works
      exact .inl ⟨rfl, works⟩
  | some reply =>
      have failed (message : String) : Works (acc.stampUpdate world)
          ((acc.stampUpdate world).ccSetError .other (ascii message)) :=
        works_cc (.setError _ _ _)
      apply (ensures_connection c).bind
      intro ac _
      dsimp only
      split
      · apply (ensures_updateSlotMapAsync none).bind
        intro result works
        exact .inl ⟨rfl, (failed _).trans works⟩
      rename_i nodes parsed
      split
      · apply (ensures_updateSlotMapAsync none).bind
        intro result works
        exact .inl ⟨rfl, (failed _).trans works⟩
      rename_i table created
      obtain ⟨new, filled⟩ := (parses ac.host acc.cc.nextNode reply).of_ok parsed
      have refers := (parses_createTable world.order nodes).of_ok created
      exact .inr ⟨table, nodes, ⟨new, filled, refers⟩, rfl⟩

theorem ensures_clusterReply (useClusterNodes : Bool) (c : Nat) (data : ClusterData)
    (reply : Option ReplyTree)
    {computation : Except ClusterFault (Action Fn Data × ValkeyClusterAsyncContext Fn Data)}
    (refreshes : Ensures computation Sheltered fun result =>
      (result.1 = .returns ∧ Works (acc.stampUpdate world) result.2) ∨
        ∃ table nodes, Learned acc.cc.nextNode table nodes ∧
          result = (.releases (owners acc.cc.nodes).length,
            installNodes world (acc.stampUpdate world) table nodes)) :
    Ensures (computation >>= act stack) Sheltered
      (Called world stack acc c (routeCallback useClusterNodes) data reply) := by
  apply refreshes.bind
  rintro ⟨action, next⟩ (⟨rfl, works⟩ | ⟨table, nodes, learned, same⟩)
  · exact .refreshed useClusterNodes data reply works
  · obtain ⟨rfl, rfl⟩ := Prod.mk.inj same
    exact .replaced useClusterNodes data reply learned

/-- A callback of the client. A record that it is called with has to be there. -/
theorem ensures_callFn (alive : acc.life ≠ .freed) (c : Nat) (fn : ClusterFn) (data : ClusterData)
    (reply : Option ReplyTree) :
    Ensures (callFn world stack acc c fn data reply)
      (fun fault => Sheltered fault ∨
        (fn = .asyncCallback ∧ ∃ id cad, data = .record id ∧ acc.findRecord id = some cad ∧
          ∃ given ∈ reply, ∃ text ∈ followed acc cad given, Outside text fault) ∨
            fault = .usedAfterFree ∧ fn = .asyncCallback ∧
              ∃ id, data = .record id ∧ acc.findRecord id = none)
      (Called world stack acc c fn data reply) := by
  unfold callFn
  rw [if_neg alive]
  cases fn with
  | selectReply =>
      apply ((ensures_selectReply c data reply).allow fun _ => .inl).bind
      exact fun _ called => called
  | slotsReply =>
      have refreshed := @ensures_routeReply Fn Data world acc _
        (fun host base given => (parses_cluster_slots acc.cc.addReplicas host given).and
          (filled_cluster_slots acc.cc.addReplicas host given)) c reply
      exact (ensures_clusterReply false c data reply refreshed).allow fun _ => .inl
  | nodesReply =>
      have refreshed := @ensures_routeReply Fn Data world acc _
        (fun host base given => (parses_cluster_nodes acc.cc.addReplicas host given).and
          (filled_cluster_nodes acc.cc.addReplicas host given)) c reply
      exact (ensures_clusterReply true c data reply refreshed).allow fun _ => .inl
  | asyncCallback =>
      cases data with
      | record id =>
          dsimp only
          split
          · rename_i missing
            exact .inr (.inr ⟨rfl, rfl, id, rfl, missing⟩)
          rename_i cad known
          apply ((ensures_asyncCallback c cad reply).computed.allow fun fault allowed =>
            allowed.imp_right fun outside => .inl ⟨rfl, id, cad, rfl, known, outside⟩).bind
          rintro ⟨action, next⟩ ⟨handled, answered⟩
          cases action with
          | returns => exact .resent known handled answered
          | releases count => cases answered
          | calls record given =>
              obtain rfl : record = cad := by cases answered <;> rfl
              unfold act callUser
              dsimp only
              split
              · exact .inl (by simp [Sheltered])
              · rename_i fn callback
                exact .delivered known handled answered callback
      | null => exact .inl (by simp [Sheltered])
      | client => exact .inl (by simp [Sheltered])

/-! ## Connections -/

theorem ensures_unlink (data : Option Addressee) :
    Ensures (acc.unlink data) Sheltered fun next => acc.unlink data = .ok next := by
  cases data with
  | none => exact rfl
  | some node =>
      unfold ValkeyClusterAsyncContext.unlink
      dsimp only
      split
      · exact rfl
      · exact sheltered_danglingNode

/-- The callback of a command. -/
theorem ensures_served {ac : Connection} (served : ac.state.1.isServed = true) :
    Ensures (callBody world (.connection ac.id :: stack) (acc.putConnection ac) ac .timeout)
      (Fails acc ac) (Settling world stack acc ac) := by
  unfold callBody
  dsimp only
  split
  · rename_i fn data _ _ _ _ reply last
    by_cases freed : acc.life = .freed
    · have stops : (acc.putConnection ac).life = .freed := freed
      unfold callFn
      rw [if_pos stops]
      exact .freed freed
    have called := @ensures_callFn Fn Data world (.connection ac.id :: stack) (acc.putConnection ac)
      freed ac.id fn data reply
    apply (called.mono fun _ called => Settling.serves served last rfl rfl freed called).allow
    rintro fault (sheltered | ⟨rfl, id, cad, rfl, known, given, answer, text, follows, outside⟩ |
      ⟨rfl, rfl, id, rfl, missing⟩)
    · exact .sheltered sheltered
    · obtain rfl := Option.mem_def.mp answer
      exact .outside served last rfl rfl known follows outside
    · exact .unknown served last rfl rfl missing
  · exact .sheltered (by simp [Sheltered])

theorem ensures_settle (ac : Connection) :
    Ensures (settle world stack acc ac) (Fails acc ac) (Settling world stack acc ac) := by
  have keeps {frames : List Activity} (quiet : ac.state.1.isServed = false)
      (present : ac.state.1 ≠ .gone) (waits : ac.state.1.isIdle = false)
      (same : essential frames = essential (.connection ac.id :: stack)) :
      Settling world stack acc ac (frames, acc.putConnection ac) := by
    refine .keeps ?_ quiet present
    rw [waits, same]
    rfl
  unfold settle
  cases label : ac.state.1 with
  | idle => exact .keeps (by rw [label]; rfl) (by rw [label]; rfl) (by rw [label]; simp)
  | callback resume =>
      have waits (quiet : resume.isServed = false) :
          Settling world stack acc ac
            (.user .returns :: .connection ac.id :: stack, acc.putConnection ac) :=
        keeps (by rw [label]; exact quiet) (by rw [label]; simp) (by rw [label]; rfl) rfl
      have serves (here : resume.isServed = true) :=
        @ensures_served Fn Data world stack acc ac (by rw [label]; exact here)
      cases resume with
      | reply cb => exact serves rfl
      | timeout => exact serves rfl
      | freeing subscriptions => exact serves rfl
      | connected next => exact waits rfl
      | connectFailed => exact waits rfl
      | connectTimeout => exact waits rfl
      | push => exact waits rfl
      | disconnected => exact waits rfl
  | gone =>
      have removed : Ensures (acc.removeConnection ac) Sheltered fun _ => True := by
        apply (ensures_unlink ac.data).bind
        exact fun _ _ => trivial
      apply (removed.computed.allow fun _ => .sheltered).bind
      exact fun next result => .gone label result.1
  | processing =>
      exact keeps (by rw [label]; rfl) (by rw [label]; simp) (by rw [label]; rfl) rfl
  | timeout =>
      exact keeps (by rw [label]; rfl) (by rw [label]; simp) (by rw [label]; rfl) rfl
  | freeing subscriptions =>
      exact keeps (by rw [label]; rfl) (by rw [label]; simp) (by rw [label]; rfl) rfl

/-! ## Steps -/

/-- The nodes of a client are to be freed. -/
def ValkeyClusterAsyncContext.closing (acc : ValkeyClusterAsyncContext Fn Data) (world : World)
    (disconnecting : Bool) : ValkeyClusterAsyncContext Fn Data :=
  { acc with
    cc := { acc.cc with table := none, nodes := [] }
    retired := owners (world.order.order acc.cc.nodes) ++ acc.retired
    life := .closing
    disconnecting := disconnecting }

variable (world) in
/-- The kinds of steps. -/
inductive Turn (event : ClusterEvent Fn Data) :
    ClusterAsyncState Fn Data → ClusterAsyncState Fn Data → Prop
  | works {stack frames : List Activity} {acc next : ValkeyClusterAsyncContext Fn Data}
      (same : essential frames = essential stack) (works : Works acc next) :
      Turn event (stack, acc) (frames, next)
  | submits {stack : List Activity} {acc : ValkeyClusterAsyncContext Fn Data} {fn : Option Fn}
      {privdata : Data} {cmd : Bytes} {result : Status × ValkeyClusterAsyncContext Fn Data}
      (submits : event.Submits fn privdata cmd) (alive : acc.life ≠ .freed)
      (submitted : Submitted acc fn privdata cmd result) :
      Turn event (stack, acc) (stack, result.2)
  | drives {stack rest : List Activity} {acc : ValkeyClusterAsyncContext Fn Data} {c : Nat}
      {ac : Connection} {handled : AsyncEvent ClusterFn ClusterData}
      {state : AsyncState ClusterFn ClusterData} {final : ClusterAsyncState Fn Data}
      (handles : event.handles stack = some (c, handled, rest)) (found : acc.connection c = .ok ac)
      (driven : asyncStep world.order ac.state handled = .ok state)
      (settling : Settling world rest acc { ac with state := state } final) :
      Turn event (stack, acc) final
  | closes {stack frames : List Activity} {acc : ValkeyClusterAsyncContext Fn Data} {c : Nat}
      {ac closed : Connection} (same : essential frames = essential stack)
      (found : acc.connection c = .ok ac)
      (close : ac.disconnect world = .ok closed ∨ closed = ac.free world) :
      Turn event (stack, acc) (handled frames acc closed)
  | passes {stack : List Activity} {acc : ValkeyClusterAsyncContext Fn Data} {count : Nat}
      {last : Bool} (none : acc.retired = []) :
      Turn event (.release (count + 1) last :: stack, acc) (.release count last :: stack, acc)
  | drops {stack : List Activity} {acc : ValkeyClusterAsyncContext Fn Data} {count : Nat}
      {last : Bool} {node : Addressee} {rest : List Owner}
      (first : acc.retired = ⟨node, none⟩ :: rest) :
      Turn event (.release (count + 1) last :: stack, acc)
        (.release count last :: stack, { acc with retired := rest })
  | releases {stack : List Activity} {acc : ValkeyClusterAsyncContext Fn Data} {count : Nat}
      {last : Bool} {node : Addressee} {c : Nat} {rest : List Owner} {ac : Connection}
      (first : acc.retired = ⟨node, some c⟩ :: rest) (found : acc.connection c = .ok ac) :
      Turn event (.release (count + 1) last :: stack, acc)
        (handled (.release count last :: stack) { acc with retired := rest }
          (Connection.free world { ac with data := none }))
  | released {stack frames : List Activity} {acc : ValkeyClusterAsyncContext Fn Data}
      (same : essential frames = essential stack) (alive : acc.life ≠ .freed) :
      Turn event (.release 0 false :: stack, acc) (frames, acc)
  | disconnects {stack frames : List Activity} {acc : ValkeyClusterAsyncContext Fn Data}
      (same : essential frames = essential stack) (alive : acc.life = .alive) :
      Turn event (stack, acc) (frames, { acc with disconnecting := true })
  | asks {stack : List Activity} {acc : ValkeyClusterAsyncContext Fn Data} (frees : event = .free)
      (alive : acc.life = .alive) :
      Turn event (stack, acc) (.user .frees :: stack, { acc with disconnecting := true })
  | finishes {stack : List Activity} {acc : ValkeyClusterAsyncContext Fn Data} (cad : Nat)
      (alive : acc.life ≠ .freed) :
      Turn event (.user (.finishes cad) :: stack, acc) (stack, acc.clearError.freeRecord cad)
  | tears {stack frames : List Activity} {acc : ValkeyClusterAsyncContext Fn Data}
      (disconnecting : Bool) (alive : acc.life = .alive)
      (frees : (event = .free ∧ stack = frames ∧ disconnecting = true) ∨
        (stack = .user .frees :: frames ∧ disconnecting = acc.disconnecting)) :
      Turn event (stack, acc)
        (.release (owners acc.cc.nodes).length true :: frames, acc.closing world disconnecting)
  | dies {stack : List Activity} {acc : ValkeyClusterAsyncContext Fn Data}
      (alive : acc.life ≠ .freed) :
      Turn event (.release 0 true :: stack, acc) (stack, { acc with life := .freed })

variable (world) in
/-- Why there is no next step: a client is used that is not alive, or a connection can not
go on. -/
inductive Halts (event : ClusterEvent Fn Data) : ClusterAsyncState Fn Data → ClusterFault → Prop
  | sheltered {state : ClusterAsyncState Fn Data} {fault : ClusterFault}
      (sheltered : Sheltered fault) : Halts event state fault
  | fails {stack : List Activity} {acc : ValkeyClusterAsyncContext Fn Data} {fault : ClusterFault}
      {c : Nat} {ac : Connection} {handled : AsyncEvent ClusterFn ClusterData}
      {state : AsyncState ClusterFn ClusterData}
      {rest : List Activity} (handles : event.handles stack = some (c, handled, rest))
      (found : acc.connection c = .ok ac)
      (driven : asyncStep world.order ac.state handled = .ok state)
      (fails : Fails acc { ac with state := state } fault) : Halts event (stack, acc) fault
  | dead {state : ClusterAsyncState Fn Data} (life : state.2.life ≠ .alive) :
      Halts event state .usedAfterFree

variable {event : ClusterEvent Fn Data}

theorem ensures_drive {rest : List Activity} {c : Nat} {ac : Connection}
    {handled : AsyncEvent ClusterFn ClusterData}
    (handles : event.handles stack = some (c, handled, rest)) (found : acc.connection c = .ok ac) :
    Ensures (drive world rest acc ac handled) (Halts world event (stack, acc))
      (Turn world event (stack, acc)) := by
  apply ((ensures_ofConnection _).allow fun _ => .sheltered).bind
  intro state driven
  apply ((ensures_settle _).allow fun fault => .fails handles found driven).mono
  exact fun final settling => .drives handles found driven settling

theorem ensures_closeConnection {frames : List Activity} (c : Nat)
    {close : Connection → Except ClusterFault Connection}
    (same : essential frames = essential stack)
    (closes : ∀ ac, Ensures (close ac) Sheltered fun closed =>
      ac.disconnect world = .ok closed ∨ closed = ac.free world) :
    Ensures (closeConnection frames acc c close) (Halts world event (stack, acc))
      (Turn world event (stack, acc)) := by
  apply ((ensures_connection c).allow fun _ => .sheltered).bind
  intro ac found
  apply ((closes ac).allow fun _ => .sheltered).bind
  intro closed close
  exact .closes same found close

theorem ensures_freeNode (count : Nat) (last : Bool) :
    Ensures (freeValkeyClusterNode world (.release count last :: stack) acc)
      (Halts world event (.release (count + 1) last :: stack, acc))
      (Turn world event (.release (count + 1) last :: stack, acc)) := by
  unfold freeValkeyClusterNode
  split
  · rename_i none
    exact .passes none
  · rename_i node rest first
    exact .drops first
  · rename_i node c rest first
    apply ((ensures_connection c).allow fun _ => .sheltered).bind
    intro ac found
    exact .releases first found

theorem ensures_disconnectNode {frames : List Activity} (node : Nat)
    (same : essential frames = essential stack) :
    Ensures (disconnectNode world frames acc node) (Halts world event (stack, acc))
      (Turn world event (stack, acc)) := by
  apply ((ensures_asyncNode _).allow fun _ => .sheltered).bind
  rintro ⟨host, port, acon⟩ _
  cases acon with
  | none => exact .works same .refl
  | some c =>
      apply ensures_closeConnection c same
      exact fun ac => (ensures_disconnect ac).mono fun _ => .inl

theorem ensures_free :
    Ensures (valkeyClusterAsyncFree world stack acc) (Halts world .free (stack, acc))
      (Turn world .free (stack, acc)) := by
  unfold valkeyClusterAsyncFree
  by_cases alive : acc.life = .alive
  · rw [if_neg (not_not.mpr alive)]
    dsimp only
    split
    · exact .asks rfl alive
    · unfold valkeyClusterFree
      dsimp only
      rw [if_neg (not_not.mpr alive)]
      exact .tears true alive (.inl ⟨rfl, rfl, rfl⟩)
  · rw [if_pos alive]
    exact .dead alive

theorem ensures_finishRelease (last : Bool) :
    Ensures (finishRelease stack acc last) (Halts world event (.release 0 last :: stack, acc))
      (Turn world event (.release 0 last :: stack, acc)) := by
  unfold finishRelease
  split
  · rename_i freed
    exact .dead (by simp [freed])
  rename_i alive
  cases last with
  | true => exact .dies alive
  | false =>
      rw [if_neg Bool.false_ne_true]
      split
      · exact .released rfl alive
      · exact .released rfl alive

theorem ensures_afterUser (after : After) :
    Ensures (afterUser world stack acc after) (Halts world event (.user after :: stack, acc))
      (Turn world event (.user after :: stack, acc)) := by
  cases after with
  | returns => exact .works rfl .refl
  | finishes cad =>
      unfold afterUser
      dsimp only
      split
      · rename_i freed
        exact .dead (by simp [freed])
      · rename_i alive
        exact .finishes cad alive
  | frees =>
      unfold afterUser valkeyClusterFree
      dsimp only
      split
      · rename_i dead
        exact .dead dead
      · rename_i alive
        exact .tears acc.disconnecting (not_not.mp alive) (.inr ⟨rfl, rfl⟩)

theorem ensures_userCall :
    Ensures (userCall world stack acc event) (Halts world event (stack, acc))
      (Turn world event (stack, acc)) := by
  have dead {Result : Type} {post : Result → Prop} {call : Except ClusterFault Result}
      (used : acc.life ≠ .freed → Ensures call (Halts world event (stack, acc)) post) :
      Ensures (if acc.life = .freed then .error .usedAfterFree else call)
        (Halts world event (stack, acc)) post := by
    split
    · rename_i freed
      exact .dead (by simp [freed])
    · rename_i alive
      exact used alive
  cases event with
  | command fn privdata cmd =>
      apply dead
      intro alive
      apply ((ensures_formattedCommand fn privdata cmd).allow fun _ => .sheltered).bind
      exact fun result submitted => .submits (.routed fn privdata cmd) alive submitted
  | commandToNode node fn privdata cmd =>
      apply dead
      intro alive
      apply ((ensures_formattedCommandToNode node fn privdata cmd).allow fun _ => .sheltered).bind
      exact fun result submitted => .submits (.named node fn privdata cmd) alive submitted
  | connect node =>
      apply dead
      intro _
      apply ((ensures_getContext node).allow fun _ => .sheltered).bind
      exact fun result aside => .works rfl aside.works
  | disconnect =>
      unfold userCall valkeyClusterAsyncDisconnect
      dsimp only
      split
      · rename_i dead
        exact .dead dead
      · rename_i alive
        exact .disconnects rfl (not_not.mp alive)
  | free => exact ensures_free
  | disconnectConnection c =>
      apply ensures_closeConnection c rfl
      exact fun ac => (ensures_disconnect ac).mono fun _ => .inl
  | freeConnection c =>
      apply ensures_closeConnection c rfl
      exact fun ac => .inr rfl
  | returns => exact .works rfl .refl
  | readable c outcome input => exact .works rfl .refl
  | writable c outcome output => exact .works rfl .refl
  | timer c => exact .works rfl .refl
  | proceed => exact .works rfl .refl

theorem ensures_socketEvent {c : Nat} {handled : AsyncEvent ClusterFn ClusterData}
    (handles : event.handles [] = some (c, handled, [])) :
    Ensures (socketEvent world acc c handled) (Halts world event ([], acc))
      (Turn world event ([], acc)) := by
  apply ((ensures_connection c).allow fun _ => .sheltered).bind
  exact fun ac found => ensures_drive handles found

theorem ensures_proceed :
    Ensures (proceed world acc stack) (Halts world .proceed (stack, acc))
      (Turn world .proceed (stack, acc)) := by
  unfold proceed
  split
  · rename_i c rest
    apply ((ensures_connection c).allow fun _ => .sheltered).bind
    exact fun ac found => ensures_drive rfl found
  · exact ensures_finishRelease _
  · exact ensures_freeNode _ _
  · exact .works rfl .refl
  · exact ensures_disconnectNode _ rfl
  · exact .works rfl .refl

/-- A step is of one of the kinds, or there is a reason why there is none. -/
theorem ensures_clusterStep (state : ClusterAsyncState Fn Data) (event : ClusterEvent Fn Data) :
    Ensures (clusterStep world state event) (Halts world event state) (Turn world event state) := by
  obtain ⟨stack, acc⟩ := state
  unfold clusterStep
  dsimp only
  split
  · exact ensures_proceed
  · exact ensures_afterUser _
  · exact .works rfl .refl
  · exact ensures_socketEvent rfl
  · exact ensures_socketEvent rfl
  · exact ensures_socketEvent rfl
  · exact ensures_userCall
  · exact ensures_userCall
  · exact .works rfl .refl

end Turns

end Libvalkey
