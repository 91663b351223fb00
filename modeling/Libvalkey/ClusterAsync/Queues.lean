import Libvalkey.ClusterAsync.Holders

/-! # What waits on the connections

The commands that the client sends on its own are regular ones. As long as those of the user
are, too, every connection runs its callbacks one after another, and a connection that goes on
without waiting for an event is on the stack. -/

namespace Libvalkey

open Checked

variable {Fn Data : Type}

/-! ## The commands of the client -/

/-- The name of a command that is neither about subscriptions nor `MONITOR`. -/
structure RegularName (name : Bytes) : Prop where
  unsharded : ∀ rest, valkeyIsShardedVariant (name ++ rest) = false
  noPattern : ∀ rest, isPatternVariant (name ++ rest) = false
  noSubscribe : ∀ rest, startsIgnoringCase (ascii "subscribe\r\n") (name ++ rest) = false
  noUnsubscribe : ∀ rest, startsIgnoringCase (ascii "unsubscribe\r\n") (name ++ rest) = false
  noMonitor : ∀ rest, startsIgnoringCase (ascii "monitor\r\n") (name ++ rest) = false

theorem regularCommand_format {name : Bytes} (small : name.length ≤ maxBulkLen)
    (regular : RegularName name) (argv : List Bytes) :
    RegularCommand (valkeyFormatCommandArgv (name :: argv)) := by
  intro first found
  rw [nextArgument_format small argv] at found
  obtain rfl := Option.some.inj found
  simp [commandKind, prefixLength, regular.unsharded, regular.noPattern, regular.noSubscribe,
    regular.noUnsubscribe, regular.noMonitor]

theorem regularCommand_auth (username : Option Bytes) (password : Bytes) :
    RegularCommand (authCommand username password) :=
  regularCommand_format (by decide)
    ⟨fun _ => rfl, fun _ => rfl, fun _ => rfl, fun _ => rfl, fun _ => rfl⟩ _

theorem regularCommand_select (db : Int) : RegularCommand (selectCommand db) :=
  regularCommand_format (by decide)
    ⟨fun _ => rfl, fun _ => rfl, fun _ => rfl, fun _ => rfl, fun _ => rfl⟩ _

theorem regularCommand_route (useClusterNodes : Bool) :
    RegularCommand (routeCommand useClusterNodes) :=
  regularCommand_format (by decide)
    ⟨fun _ => rfl, fun _ => rfl, fun _ => rfl, fun _ => rfl, fun _ => rfl⟩ _

theorem regularCommand_asking : RegularCommand askingCommand :=
  regularCommand_format (by decide)
    ⟨fun _ => rfl, fun _ => rfl, fun _ => rfl, fun _ => rfl, fun _ => rfl⟩ _

/-! ## Connections -/

/-- The callbacks that wait on the connections. -/
def ValkeyClusterAsyncContext.waiting (acc : ValkeyClusterAsyncContext Fn Data) :
    List (Callback ClusterFn ClusterData) :=
  acc.connections.flatMap fun ac => ac.state.2.replies

/-- Every connection has regular commands only, and those that the library goes on with are
on the stack. -/
structure Orderly (stack : List Activity) (acc : ValkeyClusterAsyncContext Fn Data) : Prop where
  bonded : Bonded acc
  ordinary : ∀ ac ∈ acc.connections, Ordinary ac.state
  present : ∀ ac ∈ acc.connections, ac.state.1 ≠ .gone
  waits : ∀ ac ∈ acc.connections, ac.state.1.isIdle = false → ac.id ∈ busy stack
  commands : ∀ cad ∈ acc.records, RegularCommand cad.command

section Connections

open ValkeyClusterAsyncContext

variable {stack frames : List Activity} {acc next : ValkeyClusterAsyncContext Fn Data}

/-- Only what waits on one connection changes. -/
theorem waiting_put (names : (acc.connections.map Connection.id).Nodup) {c : Nat}
    {ac : Connection} (found : acc.connection c = .ok ac) (changed : Connection)
    (same : changed.id = ac.id) :
    ∃ rest, acc.waiting.Perm (ac.state.2.replies ++ rest) ∧
      (acc.putConnection changed).waiting.Perm (changed.state.2.replies ++ rest) := by
  obtain ⟨member, rfl⟩ := found_connection found
  have others := Links.perm_others Connection.id names member
  refine ⟨(acc.connections.filter fun other => other.id != ac.id).flatMap fun ac =>
    ac.state.2.replies, ?_, ?_⟩
  · exact others.flatMap_right _
  · have changes := others.map fun other => if other.id = changed.id then changed else other
    rw [List.map_cons, if_pos same.symm] at changes
    have kept : (acc.connections.filter fun other => other.id != ac.id).map
        (fun other => if other.id = changed.id then changed else other) =
          acc.connections.filter fun other => other.id != ac.id := by
      conv_rhs => rw [← List.map_id (acc.connections.filter fun other => other.id != ac.id)]
      apply List.map_congr_left
      intro other inside
      have different : other.id ≠ ac.id := by simpa using (List.mem_filter.mp inside).2
      rw [if_neg (same ▸ different), id]
    rw [kept] at changes
    exact changes.flatMap_right _

theorem waiting_remove (names : (acc.connections.map Connection.id).Nodup) {ac : Connection}
    (member : ac ∈ acc.connections) :
    acc.waiting.Perm (ac.state.2.replies ++
      (acc.connections.filter fun other => other.id != ac.id).flatMap fun ac =>
        ac.state.2.replies) :=
  (Links.perm_others Connection.id names member).flatMap_right _

theorem mem_putConnection {changed other : Connection}
    (member : other ∈ (acc.putConnection changed).connections) :
    other = changed ∨ (other ∈ acc.connections ∧ other.id ≠ changed.id) := by
  obtain ⟨old, inside, rfl⟩ := List.mem_map.mp member
  split
  · exact .inl rfl
  · rename_i different
    exact .inr ⟨inside, different⟩

/-- A connection gets another state. -/
theorem Orderly.replace (orderly : Orderly stack acc) (bonded : Bonded next) {changed : Connection}
    (connections : next.connections = (acc.putConnection changed).connections)
    (records : next.records = acc.records) (ordinary : Ordinary changed.state)
    (present : changed.state.1 ≠ .gone)
    (waits : changed.state.1.isIdle = false → changed.id ∈ busy frames)
    (others : ∀ other ∈ busy stack, other ≠ changed.id → other ∈ busy frames) :
    Orderly frames next := by
  have each {holds : Connection → Prop} (here : holds changed)
      (there : ∀ other ∈ acc.connections, other.id ≠ changed.id → holds other) :
      ∀ other ∈ next.connections, holds other := by
    intro other member
    rw [connections] at member
    rcases mem_putConnection member with rfl | ⟨inside, different⟩
    · exact here
    · exact there other inside different
  refine ⟨bonded, ?_, ?_, ?_, records ▸ orderly.commands⟩
  · exact each ordinary fun other inside _ => orderly.ordinary other inside
  · exact each present fun other inside _ => orderly.present other inside
  · refine @each (fun other => other.state.1.isIdle = false → other.id ∈ busy frames) waits ?_
    intro other inside different goes
    exact others _ (orderly.waits other inside goes) different

theorem Orderly.put (orderly : Orderly stack acc) {c : Nat} {ac changed : Connection}
    (found : acc.connection c = .ok ac) (same : changed.link = ac.link)
    (ordinary : Ordinary changed.state) (present : changed.state.1 ≠ .gone)
    (waits : changed.state.1.isIdle = false → changed.id ∈ busy frames)
    (others : ∀ other ∈ busy stack, other ≠ changed.id → other ∈ busy frames) :
    Orderly frames (acc.putConnection changed) :=
  orderly.replace (orderly.bonded.put found same) rfl rfl ordinary present waits others

theorem Orderly.of_busy (orderly : Orderly stack acc) (same : busy stack ⊆ busy frames) :
    Orderly frames acc :=
  ⟨orderly.bonded, orderly.ordinary, orderly.present, fun ac member goes =>
    same (orderly.waits ac member goes),
    orderly.commands⟩

/-- Other data does not matter. -/
theorem Orderly.of_same (orderly : Orderly stack acc) (bonded : Bonded next)
    (connections : next.connections = acc.connections)
    (commands : ∀ cad ∈ next.records, RegularCommand cad.command) : Orderly stack next := by
  obtain ⟨_, ordinary, present, waits, _⟩ := orderly
  rw [← connections] at ordinary present waits
  exact ⟨bonded, ordinary, present, waits, commands⟩

theorem append_cases {ac appended : Connection} {fn : Option ClusterFn} {data : ClusterData}
    {cmd : Bytes} {status : Status} (accepted : ac.append fn data cmd = (status, appended)) :
    ∃ context, valkeyAsyncAppendCmdLen ac.state.2 fn data cmd = (status, context) ∧
      appended = { ac with state := (ac.state.1, context) } := by
  unfold Connection.append at accepted
  obtain ⟨rfl, rfl⟩ := Prod.mk.inj accepted
  exact ⟨_, rfl, rfl⟩

/-- A regular command is appended. -/
theorem Orderly.append (orderly : Orderly stack acc) {c : Nat} {ac appended : Connection}
    {fn : Option ClusterFn} {data : ClusterData} {cmd : Bytes} (regular : RegularCommand cmd)
    (found : acc.connection c = .ok ac) (accepted : ac.append fn data cmd = (.ok, appended)) :
    Orderly stack (acc.putConnection appended) ∧
      ∃ number, (acc.putConnection appended).waiting.Perm
        (acc.waiting ++ [newCallback number fn data]) := by
  obtain ⟨context, registered, rfl⟩ := append_cases accepted
  obtain ⟨member, rfl⟩ := found_connection found
  obtain ⟨ordinary, _, replies⟩ := (orderly.ordinary ac member).append (orderly.present ac member)
    regular registered
  constructor
  · refine orderly.put found ?_ ordinary (orderly.present ac member)
      (fun goes => orderly.waits ac member goes) (fun other inside _ => inside)
    rfl
  · obtain ⟨rest, before, after⟩ := waiting_put orderly.bonded.names_nodup found
      { ac with state := (ac.state.1, context) } rfl
    refine ⟨ac.state.2.submitted.length, after.trans ?_⟩
    dsimp only
    rw [replies, List.append_assoc]
    have moved (cb : Callback ClusterFn ClusterData) :
        (ac.state.2.replies ++ ([cb] ++ rest)).Perm (ac.state.2.replies ++ (rest ++ [cb])) :=
      List.perm_append_comm.append_left _
    apply (moved _).trans
    rw [← List.append_assoc]
    exact before.symm.append_right _

/-- A step of `async.c`. -/
theorem Orderly.driven {order : IterationOrder} {rest : List Activity}
    {event : ClusterEvent Fn Data} {c : Nat} {ac : Connection}
    {handled : AsyncEvent ClusterFn ClusterData} {state : AsyncState ClusterFn ClusterData}
    (orderly : Orderly stack acc) (handles : event.handles stack = some (c, handled, rest))
    (found : acc.connection c = .ok ac)
    (driven : asyncStep order ac.state handled = .ok state) :
    Ordinary state ∧ Serves ac.state.2.replies ac.state.2.served state := by
  obtain ⟨library, waits⟩ := handles_cases handles
  have member := (found_connection found).1
  have here : ac.state.1.isIdle = true ∨ handled = .proceed := by
    rcases waits with ⟨rfl, _⟩ | ⟨proceeds, _⟩
    · cases idle : ac.state.1.isIdle with
      | true => exact .inl rfl
      | false => exact nomatch orderly.waits ac member idle
    · exact .inr proceeds
  exact ((orderly.ordinary ac member).asyncStep order library here).of_ok driven

/-! ## Changes -/

/-- A callback that does nothing to the slot map or to a record. -/
def Callback.IsMinor (cb : Callback ClusterFn ClusterData) : Prop :=
  cb.fn = none ∨ cb.fn = some (.user .selectReply)

/-- What a change registers: nothing that does anything to the slot map, or an update of it
when none is going on. -/
inductive Registers (acc next : ValkeyClusterAsyncContext Fn Data) : Prop
  | minor (added : List (Callback ClusterFn ClusterData))
      (waits : next.waiting.Perm (acc.waiting ++ added))
      (minor : ∀ cb ∈ added, cb.IsMinor)
      (attempt : next.lastSlotmapUpdateAttempt = acc.lastSlotmapUpdateAttempt ∨
        (acc.lastSlotmapUpdateAttempt ≠ .ongoing ∧ next.lastSlotmapUpdateAttempt ≠ .ongoing))
  | update (cb : Callback ClusterFn ClusterData) (useClusterNodes : Bool)
      (waits : next.waiting.Perm (acc.waiting ++ [cb]))
      (callback : cb.fn = some (.user (routeCallback useClusterNodes)))
      (idle : acc.lastSlotmapUpdateAttempt ≠ .ongoing)
      (ongoing : next.lastSlotmapUpdateAttempt = .ongoing)

theorem registers_none (connections : next.connections = acc.connections)
    (attempt : next.lastSlotmapUpdateAttempt = acc.lastSlotmapUpdateAttempt ∨
      (acc.lastSlotmapUpdateAttempt ≠ .ongoing ∧ next.lastSlotmapUpdateAttempt ≠ .ongoing)) :
    Registers acc next := by
  have waits : next.waiting = acc.waiting := by
    unfold waiting
    rw [connections]
  refine .minor [] ?_ (fun _ impossible => nomatch impossible) attempt
  rw [waits, List.append_nil]

/-- A connection that waits for an event, with callbacks for its AUTH and SELECT. -/
structure Fresh (ac : Connection) : Prop where
  ordinary : Ordinary ac.state
  idle : ac.state.1 = .idle
  minor : ∀ cb ∈ ac.state.2.replies, cb.IsMinor

theorem Fresh.append {ac : Connection} (fresh : Fresh ac) {fn : Option ClusterFn}
    (minor : fn = none ∨ fn = some .selectReply) (data : ClusterData) {cmd : Bytes}
    (regular : RegularCommand cmd) : Fresh (ac.append fn data cmd).2 := by
  obtain ⟨ordinary, idle, waiting⟩ := fresh
  unfold Connection.append
  cases result : valkeyAsyncAppendCmdLen ac.state.2 fn data cmd with
  | mk status context =>
      cases status with
      | err =>
          obtain rfl : ac.state.2 = context := by
            unfold valkeyAsyncAppendCmdLen at result
            split at result
            · exact (Prod.mk.inj result).2
            split at result
            · exact (Prod.mk.inj result).2
            split at result
            · exact (Prod.mk.inj result).2
            · cases result
          exact ⟨ordinary, idle, waiting⟩
      | ok =>
          obtain ⟨kept, _, replies⟩ := ordinary.append (by rw [idle]; simp) regular result
          refine ⟨kept, idle, ?_⟩
          dsimp only
          rw [replies]
          intro cb member
          rcases List.mem_append.mp member with old | new
          · exact waiting cb old
          · rw [List.mem_singleton.mp new]
            rcases minor with rfl | rfl
            · exact .inl rfl
            · exact .inr rfl

/-- A connection that has just been made. -/
theorem fresh_openedConnection (acc : ValkeyClusterAsyncContext Fn Data) (node : Addressee)
    (host : Bytes) : Fresh (openedConnection acc node host) := by
  have made : Fresh (newConnection acc host none) :=
    ⟨ordinary_valkeyAsyncInitialize _, rfl, fun _ impossible => nomatch impossible⟩
  have authenticated : Fresh ((newConnection acc host none).authenticate acc).2 := by
    unfold Connection.authenticate
    split
    · exact made
    · exact made.append (.inl rfl) .null (regularCommand_auth _ _)
  have selected : Fresh (((newConnection acc host none).authenticate acc).2.selectDb acc).2 := by
    unfold Connection.selectDb
    split
    · exact authenticated.append (.inr rfl) .client (regularCommand_select _)
    · exact authenticated
  obtain ⟨⟨consistent, only, callbacks, label⟩, idle, minor⟩ := selected
  refine ⟨⟨?_, only, callbacks, label⟩, idle, minor⟩
  unfold Consistent at consistent ⊢
  rw [idle] at consistent
  have stays : (openedConnection acc node host).state.1 = .idle := idle
  rw [stays]
  exact ⟨consistent.1, fun impossible => impossible.elim⟩

theorem Orderly.change (orderly : Orderly stack acc) (change : Change acc next) :
    Orderly stack next ∧ Registers acc next := by
  have bonded := orderly.bonded.change change
  cases change with
  | quiet calm err ticks draws =>
      exact ⟨orderly.of_same bonded rfl orderly.commands, registers_none rfl (.inl rfl)⟩
  | number connections records =>
      exact ⟨orderly.of_same bonded rfl orderly.commands, registers_none rfl (.inl rfl)⟩
  | stamp idle time =>
      exact ⟨orderly.of_same bonded rfl orderly.commands, registers_none rfl (.inr ⟨idle, by simp⟩)⟩
  | route known updated =>
      exact ⟨orderly.of_same bonded rfl orderly.commands, registers_none rfl (.inl rfl)⟩
  | addNode unknown =>
      exact ⟨orderly.of_same bonded rfl orderly.commands, registers_none rfl (.inl rfl)⟩
  | @connect node host single =>
      obtain ⟨ordinary, idle, minor⟩ := fresh_openedConnection acc node host
      constructor
      · refine ⟨bonded, ?_, ?_, ?_, orderly.commands⟩
        · intro ac member
          rcases List.mem_append.mp member with old | new
          · exact orderly.ordinary ac old
          · exact List.mem_singleton.mp new ▸ ordinary
        · intro ac member
          rcases List.mem_append.mp member with old | new
          · exact orderly.present ac old
          · rw [List.mem_singleton.mp new, idle]
            simp
        · intro ac member goes
          rcases List.mem_append.mp member with old | new
          · exact orderly.waits ac old goes
          · rw [List.mem_singleton.mp new, idle] at goes
            cases goes
      · refine .minor (openedConnection acc node host).state.2.replies ?_ minor (.inl rfl)
        simp [waiting]
  | asking found accepted =>
      obtain ⟨kept, number, waits⟩ := orderly.append regularCommand_asking found accepted
      exact ⟨kept, .minor _ waits (fun cb member => by
        rw [List.mem_singleton.mp member]
        exact .inl rfl) (.inl rfl)⟩
  | update useClusterNodes idle found accepted =>
      obtain ⟨kept, number, waits⟩ :=
        orderly.append (regularCommand_route useClusterNodes) found accepted
      exact ⟨kept.of_same bonded rfl kept.commands, .update _ useClusterNodes waits rfl idle rfl⟩

/-! ## The mark of an update -/

/-- The callback of an update of the slot map. -/
def Callback.updates (cb : Callback ClusterFn ClusterData) : Bool :=
  cb.fn == some (.user .slotsReply) || cb.fn == some (.user .nodesReply)

/-- The number of updates of the slot map that wait for their replies. -/
def ValkeyClusterAsyncContext.updatesInFlight (acc : ValkeyClusterAsyncContext Fn Data) : Nat :=
  acc.waiting.countP (·.updates)

/-- The mark is set as long as an update is going on, and no other one is. -/
def Exclusive (acc : ValkeyClusterAsyncContext Fn Data) : Prop :=
  acc.updatesInFlight = if acc.lastSlotmapUpdateAttempt = .ongoing then 1 else 0

theorem updates_minor {cb : Callback ClusterFn ClusterData} (minor : cb.IsMinor) :
    cb.updates = false := by
  rcases minor with none | select
  · simp [Callback.updates, none]
  · simp [Callback.updates, select]

theorem updates_route {cb : Callback ClusterFn ClusterData} {useClusterNodes : Bool}
    (callback : cb.fn = some (.user (routeCallback useClusterNodes))) : cb.updates = true := by
  cases useClusterNodes with
  | false => simp [Callback.updates, callback, routeCallback]
  | true => simp [Callback.updates, callback, routeCallback]

/-- Only the callbacks that wait and the mark matter. -/
theorem Exclusive.of_waiting (exclusive : Exclusive acc)
    (waits : next.updatesInFlight = acc.updatesInFlight)
    (mark : next.lastSlotmapUpdateAttempt = acc.lastSlotmapUpdateAttempt) : Exclusive next := by
  unfold Exclusive
  rw [waits, mark]
  exact exclusive

theorem Exclusive.registers (exclusive : Exclusive acc) (registers : Registers acc next) :
    Exclusive next := by
  cases registers with
  | minor added waits minor attempt =>
      have none : added.countP (·.updates) = 0 := by
        rw [List.countP_eq_zero]
        intro cb member
        simp [updates_minor (minor cb member)]
      have same : next.updatesInFlight = acc.updatesInFlight := by
        unfold updatesInFlight
        rw [waits.countP_eq, List.countP_append, none, Nat.add_zero]
      rcases attempt with mark | ⟨idle, stillIdle⟩
      · exact exclusive.of_waiting same mark
      · unfold Exclusive at exclusive ⊢
        rw [if_neg idle] at exclusive
        rw [same, exclusive, if_neg stillIdle]
  | update cb useClusterNodes waits callback idle ongoing =>
      unfold Exclusive at exclusive ⊢
      rw [if_neg idle] at exclusive
      unfold updatesInFlight at exclusive ⊢
      rw [waits.countP_eq, List.countP_append, exclusive, if_pos ongoing]
      simp [updates_route callback]

/-- A callback that was waiting has been run, and only that one. -/
theorem updatesInFlight_put (names : (acc.connections.map Connection.id).Nodup) {c : Nat}
    {ac changed : Connection} (found : acc.connection c = .ok ac) (same : changed.id = ac.id)
    {run : List (Callback ClusterFn ClusterData)}
    (replies : ac.state.2.replies = run ++ changed.state.2.replies) :
    acc.updatesInFlight =
      run.countP (·.updates) + (acc.putConnection changed).updatesInFlight := by
  obtain ⟨rest, before, after⟩ := waiting_put names found changed same
  unfold updatesInFlight
  rw [before.countP_eq, after.countP_eq, replies]
  simp only [List.countP_append]
  omega

/-! ## Steps -/

/-- The connections are orderly, and the mark tells of the one update that is going on. -/
structure Going (stack : List Activity) (acc : ValkeyClusterAsyncContext Fn Data) : Prop where
  orderly : Orderly stack acc
  exclusive : Exclusive acc

variable {world : World}

theorem Going.works (going : Going stack acc) (works : Works acc next) : Going stack next := by
  induction works with
  | refl => exact going
  | tail _ change induction =>
      obtain ⟨orderly, registers⟩ := induction.orderly.change change
      exact ⟨orderly, induction.exclusive.registers registers⟩

/-- Other data does not matter. -/
theorem Going.of_same (going : Going stack acc) (others : busy stack ⊆ busy frames)
    (bonded : Bonded next) (connections : next.connections = acc.connections)
    (commands : ∀ cad ∈ next.records, RegularCommand cad.command)
    (mark : next.lastSlotmapUpdateAttempt = acc.lastSlotmapUpdateAttempt) : Going frames next := by
  have same : next.updatesInFlight = acc.updatesInFlight := by
    unfold updatesInFlight waiting
    rw [connections]
  exact ⟨(going.orderly.of_same bonded connections commands).of_busy others,
    going.exclusive.of_waiting same mark⟩

theorem busy_subset (same : essential frames = essential stack) : busy stack ⊆ busy frames := by
  rw [busy_same same]
  exact List.Subset.refl _

/-- A regular command that does not ask for the slot map is appended. -/
theorem Going.append (going : Going stack acc) {c : Nat} {ac appended : Connection}
    {fn : Option ClusterFn} {data : ClusterData} {cmd : Bytes} (regular : RegularCommand cmd)
    (found : acc.connection c = .ok ac) (accepted : ac.append fn data cmd = (.ok, appended))
    (quiet : ∀ number, (newCallback number fn data).updates = false) :
    Going stack (acc.putConnection appended) := by
  obtain ⟨orderly, number, waits⟩ := going.orderly.append regular found accepted
  refine ⟨orderly, going.exclusive.of_waiting ?_ rfl⟩
  unfold updatesInFlight
  rw [waits.countP_eq, List.countP_append]
  simp [quiet number]

theorem regular_findRecord (commands : ∀ cad ∈ acc.records, RegularCommand cad.command) {id : Nat}
    {cad : ClusterAsyncData Fn Data} (known : acc.findRecord id = some cad) :
    RegularCommand cad.command :=
  commands cad (List.mem_of_find?_eq_some known)

theorem Going.countRetry (going : Going stack acc) (cad count : Nat) :
    Going stack (acc.countRetry cad count) := by
  refine going.of_same (List.Subset.refl _) (going.orderly.bonded.counted cad count) rfl ?_ rfl
  intro record member
  obtain ⟨old, inside, rfl⟩ := List.mem_map.mp member
  split
  · exact going.orderly.commands old inside
  · exact going.orderly.commands old inside

theorem Going.answered (going : Going stack acc) {id : Nat} {cad : ClusterAsyncData Fn Data}
    {result : Action Fn Data × ValkeyClusterAsyncContext Fn Data}
    (known : acc.findRecord id = some cad) (answered : Answered acc cad result) :
    Going stack result.2 := by
  cases answered with
  | calls reply works => exact going.works works
  | callsCounted count reply works => exact (going.countRetry cad.id count).works works
  | resends retries below works found accepted =>
      have worked := (going.countRetry cad.id _).works works
      have regular := regular_findRecord going.orderly.commands known
      have appended := worked.append regular found accepted fun _ => rfl
      exact appended.of_same (List.Subset.refl _) (appended.orderly.bonded.of_same rfl rfl rfl rfl)
        rfl appended.orderly.commands rfl

/-- A connection gets another state, in which the same callbacks wait. -/
theorem Going.put (going : Going stack acc) {c : Nat} {ac changed : Connection}
    (found : acc.connection c = .ok ac) (id : changed.id = ac.id) (bonded : Bonded next)
    (connections : next.connections = (acc.putConnection changed).connections)
    (records : next.records = acc.records)
    (mark : next.lastSlotmapUpdateAttempt = acc.lastSlotmapUpdateAttempt)
    (ordinary : Ordinary changed.state) (present : changed.state.1 ≠ .gone)
    (waiting : changed.state.2.replies = ac.state.2.replies)
    (waits : changed.state.1.isIdle = false → changed.id ∈ busy frames)
    (others : busy stack ⊆ busy frames) : Going frames next := by
  obtain ⟨orderly, exclusive⟩ := going
  refine ⟨orderly.replace bonded connections records ordinary present waits
    fun other inside _ => others inside, exclusive.of_waiting ?_ mark⟩
  have none : ac.state.2.replies = [] ++ changed.state.2.replies := waiting.symm
  have counted := updatesInFlight_put orderly.bonded.names_nodup found id none
  rw [counted, List.countP_nil, Nat.zero_add]
  unfold updatesInFlight ValkeyClusterAsyncContext.waiting
  rw [connections]

/-- A connection is closed: it does not wait for an event after that, or it is on the stack. -/
theorem Going.close (going : Going stack acc) {base : ValkeyClusterAsyncContext Fn Data} {c : Nat}
    {ac closed : Connection} (found : acc.connection c = .ok ac) (id : closed.id = ac.id)
    (bonded : Bonded (base.putConnection closed)) (connections : base.connections = acc.connections)
    (records : base.records = acc.records)
    (mark : base.lastSlotmapUpdateAttempt = acc.lastSlotmapUpdateAttempt)
    (ordinary : Ordinary closed.state) (closes : Closes ac.state.1 ac.state.2 closed.state)
    (same : essential frames = essential stack) :
    Going (handled frames base closed).1 (handled frames base closed).2 := by
  have member := (found_connection found).1
  have put : (base.putConnection closed).connections = (acc.putConnection closed).connections := by
    unfold putConnection
    dsimp only
    rw [connections]
  have grows : busy stack ⊆ busy (handled frames base closed).1 := by
    rw [← busy_same same]
    unfold handled
    dsimp only
    split
    · exact List.subset_cons_self _ _
    · exact List.Subset.refl _
  apply going.put found id bonded put records mark ordinary
    (closes.present (going.orderly.present ac member)) closes.waiting _ grows
  intro goes
  rcases closes.label with label | label | label
  · rw [id]
    exact grows (going.orderly.waits ac member (label ▸ goes))
  · rw [label] at goes
    cases goes
  · have runs : closed.state.1.runs = true := by
      rw [label]
      rfl
    unfold handled
    rw [if_pos runs]
    exact List.mem_cons_self

theorem disconnect_cases {ac closed : Connection} (close : ac.disconnect world = .ok closed) :
    ∃ state, valkeyAsyncDisconnect world.order ac.state.1 ac.state.2 = .ok state ∧
      closed = { ac with state := state } := by
  unfold Connection.disconnect at close
  cases result : valkeyAsyncDisconnect world.order ac.state.1 ac.state.2 with
  | error fault =>
      rw [result] at close
      cases close
  | ok state =>
      rw [result] at close
      cases close
      exact ⟨state, rfl, rfl⟩

theorem closes_of_disconnect {ac closed : Connection} (ordinary : Ordinary ac.state)
    (close : ac.disconnect world = .ok closed) :
    closed.link = ac.link ∧ Ordinary closed.state ∧ Closes ac.state.1 ac.state.2 closed.state := by
  obtain ⟨state, disconnected, rfl⟩ := disconnect_cases close
  exact ⟨rfl, (Ordinary.disconnect world.order ordinary).of_ok disconnected⟩

theorem relink_state (nodes : List (ValkeyClusterNode ValkeyContext)) (ac : Connection) :
    (relink nodes ac).state = ac.state ∧ (relink nodes ac).id = ac.id := by
  unfold relink
  split
  · exact ⟨rfl, rfl⟩
  · exact ⟨rfl, rfl⟩

/-- The connections keep their states when the nodes are replaced. -/
theorem Going.install (going : Going stack acc) (others : busy stack ⊆ busy frames)
    {table : List (Option Nat)} {nodes : List (ValkeyClusterNode ValkeyContext)}
    (learned : Learned acc.cc.nextNode table nodes) :
    Going frames (installNodes world acc table nodes) := by
  obtain ⟨orderly, exclusive⟩ := going
  have each {holds : AsyncState ClusterFn ClusterData → Nat → Prop}
      (all : ∀ ac ∈ acc.connections, holds ac.state ac.id) :
      ∀ ac ∈ (installNodes world acc table nodes).connections, holds ac.state ac.id := by
    intro ac member
    obtain ⟨old, inside, rfl⟩ := List.mem_map.mp member
    obtain ⟨state, id⟩ := relink_state (acc.cc.replaceNodes table nodes).nodes old
    rw [state, id]
    exact all old inside
  refine ⟨⟨orderly.bonded.install learned, ?_, ?_, ?_, orderly.commands⟩, ?_⟩
  · exact @each (fun state _ => Ordinary state) orderly.ordinary
  · exact @each (fun state _ => state.1 ≠ .gone) orderly.present
  · apply @each (fun state id => state.1.isIdle = false → id ∈ busy frames)
    exact fun ac member goes => others (orderly.waits ac member goes)
  · refine exclusive.of_waiting ?_ rfl
    unfold updatesInFlight waiting installNodes
    dsimp only
    rw [List.flatMap_map]
    simp only [relink_state]

/-- A callback of the client. The connection is on the stack. -/
theorem Going.called {c : Nat} {fn : ClusterFn} {data : ClusterData} {reply : Option ReplyTree}
    {final : ClusterAsyncState Fn Data} (orderly : Orderly (.connection c :: stack) acc)
    (exclusive : (∀ useClusterNodes, fn ≠ routeCallback useClusterNodes) → Exclusive acc)
    (none : (∃ useClusterNodes, fn = routeCallback useClusterNodes) → acc.updatesInFlight = 0)
    (called : Called world (.connection c :: stack) acc c fn data reply final) :
    Going final.1 final.2 := by
  have other (quiet : ∀ useClusterNodes, fn ≠ routeCallback useClusterNodes) :
      Going (.connection c :: stack) acc := ⟨orderly, exclusive quiet⟩
  have stamped (none : acc.updatesInFlight = 0) :
      Going (.connection c :: stack) (acc.stampUpdate world) := by
    refine ⟨orderly.of_same orderly.bonded.stamped rfl orderly.commands, ?_⟩
    unfold Exclusive
    rw [if_neg (by simp [stampUpdate])]
    exact none
  cases called with
  | selected data accepted => exact other (by intro use; cases use <;> simp [routeCallback])
  | rejected data refused found close =>
      have going := (other (by intro use; cases use <;> simp [routeCallback])).works
        (works_setError (some selectFailed))
      have member := (found_connection found).1
      obtain ⟨link, ordinary, closes⟩ :=
        closes_of_disconnect (going.orderly.ordinary _ member) close
      have id := (Prod.mk.inj link).1
      have named := (found_connection found).2
      apply going.put found id (going.orderly.bonded.put found link) rfl rfl rfl ordinary
        (closes.present (going.orderly.present _ member)) closes.waiting _ (List.Subset.refl _)
      intro _
      rw [id, named]
      exact List.mem_cons_self
  | refreshed useClusterNodes data reply works => exact (stamped (none ⟨_, rfl⟩)).works works
  | replaced useClusterNodes data reply learned =>
      refine (stamped (none ⟨_, rfl⟩)).install ?_ learned
      exact List.Subset.refl _
  | resent known handled answered =>
      exact (other (by intro use; cases use <;> simp [routeCallback])).answered known answered
  | delivered known handled answered callback =>
      have going := (other (by intro use; cases use <;> simp [routeCallback])).answered
        known answered
      exact going.of_same (List.Subset.refl _) (going.orderly.bonded.of_same rfl rfl rfl rfl) rfl
        going.orderly.commands rfl

/-- A step that runs no callback of the client takes none of an update from those that wait. -/
theorem quiet_replies {ac : Connection} {state : AsyncState ClusterFn ClusterData}
    (serves : Serves ac.state.2.replies ac.state.2.served state)
    (quiet : state.1.isServed = false) :
    ∃ run, ac.state.2.replies = run ++ state.2.replies ∧ run.countP (·.updates) = 0 := by
  cases serves with
  | none waiting run quiet => exact ⟨[], waiting.symm, rfl⟩
  | @first _ _ cb reply waiting run runs =>
      have none : cb.fn = none := by
        rw [quiet] at runs
        simpa using runs.symm
      refine ⟨[cb], waiting, ?_⟩
      simp [updates_minor (.inl none)]

theorem removed_fields {ac : Connection} (removed : acc.removeConnection ac = .ok next) :
    next.connections = acc.connections.filter (fun other => other.id != ac.id) ∧
      next.records = acc.records ∧
        next.lastSlotmapUpdateAttempt = acc.lastSlotmapUpdateAttempt := by
  unfold removeConnection unlink at removed
  cases held : ac.data with
  | none =>
      rw [held] at removed
      cases removed
      exact ⟨rfl, rfl, rfl⟩
  | some node =>
      rw [held] at removed
      dsimp only at removed
      split at removed
      · cases removed
        exact ⟨rfl, rfl, rfl⟩
      · cases removed

/-- What a new state of a connection leads to. -/
theorem Going.settling (going : Going stack acc) {below : List Activity} {c : Nat}
    {ac : Connection} {state : AsyncState ClusterFn ClusterData} {final : ClusterAsyncState Fn Data}
    (found : acc.connection c = .ok ac)
    (rest : ∀ other ∈ busy stack, other ≠ ac.id → other ∈ busy below) (ordinary : Ordinary state)
    (serves : Serves ac.state.2.replies ac.state.2.served state)
    (settling : Settling world below acc { ac with state := state } final) :
    Going final.1 final.2 := by
  obtain ⟨orderly, exclusive⟩ := going
  have names := orderly.bonded.names_nodup
  cases settling with
  | keeps same quiet present =>
      obtain ⟨run, replies, none⟩ := quiet_replies serves quiet
      have kept := busy_same same
      refine ⟨orderly.put found ?_ ordinary present ?_ ?_, ?_⟩
      · rfl
      · intro goes
        dsimp only at goes ⊢
        rw [kept, if_neg (by simp [goes])]
        exact List.mem_cons_self
      · intro other inside different
        dsimp only
        rw [kept]
        split
        · exact rest other inside different
        · exact List.mem_cons_of_mem _ (rest other inside different)
      · refine exclusive.of_waiting ?_ rfl
        have counted := @updatesInFlight_put Fn Data acc names c ac { ac with state := state } found
          rfl run replies
        rw [counted, none, Nat.zero_add]
  | @gone next label removed =>
      obtain ⟨run, replies, none⟩ := quiet_replies serves (by
        dsimp only at label
        rw [label]
        rfl)
      have empty : state.2.replies = [] := by
        have consistent := ordinary.consistent
        unfold Consistent at consistent
        dsimp only at label
        rw [label] at consistent
        exact consistent.1
      have member := (found_connection found).1
      obtain ⟨connections, records, mark⟩ := removed_fields removed
      dsimp only at connections
      have others {other : Connection} (inside : other ∈ next.connections) :
          other ∈ acc.connections ∧ other.id ≠ ac.id := by
        rw [connections] at inside
        simpa using inside
      refine ⟨⟨orderly.bonded.remove found ?_ removed, ?_, ?_, ?_, records ▸ orderly.commands⟩, ?_⟩
      · rfl
      · exact fun other inside => orderly.ordinary other (others inside).1
      · exact fun other inside => orderly.present other (others inside).1
      · intro other inside goes
        obtain ⟨old, different⟩ := others inside
        exact rest _ (orderly.waits other old goes) different
      · refine exclusive.of_waiting ?_ mark
        have counted := (waiting_remove names member).countP_eq (·.updates)
        rw [List.countP_append, replies, empty, List.append_nil, none, Nat.zero_add] at counted
        unfold updatesInFlight
        rw [counted]
        unfold ValkeyClusterAsyncContext.waiting
        dsimp only
        rw [connections]
  | @serves cb' fn data reply' final served last callback privdata alive called =>
      dsimp only at served last
      cases serves with
      | none waiting run quiet =>
          rw [quiet] at served
          cases served
      | @first label context cb reply waiting run runs =>
          dsimp only at served last
          obtain ⟨rfl, rfl⟩ : cb = cb' ∧ reply = reply' := by
            unfold lastServed at last
            rw [run, List.getLast?_concat] at last
            cases last
            exact ⟨rfl, rfl⟩
          have counted := @updatesInFlight_put Fn Data acc names c ac
            { ac with state := (label, context) } found rfl [cb] waiting
          refine Going.called (orderly.put found ?_ ordinary ?_ ?_ ?_) ?_ ?_ called
          · rfl
          · intro gone
            dsimp only at gone
            rw [gone] at served
            cases served
          · exact fun _ => List.mem_cons_self
          · exact fun other inside different => List.mem_cons_of_mem _ (rest other inside different)
          · intro other
            have quiet : cb.updates = false := by
              cases fn with
              | slotsReply => exact absurd rfl (other false)
              | nodesReply => exact absurd rfl (other true)
              | selectReply => simp [Callback.updates, callback]
              | asyncCallback => simp [Callback.updates, callback]
            refine exclusive.of_waiting ?_ rfl
            rw [counted]
            simp [quiet]
          · rintro ⟨useClusterNodes, rfl⟩
            have one : [cb].countP (·.updates) = 1 := by simp [updates_route callback]
            have bound : acc.updatesInFlight ≤ 1 := by
              rw [exclusive]
              split
              · exact le_rfl
              · exact Nat.zero_le 1
            omega

theorem Going.submitted (going : Going stack acc) {fn : Option Fn} {privdata : Data} {cmd : Bytes}
    (regular : RegularCommand cmd) {result : Status × ValkeyClusterAsyncContext Fn Data}
    (submitted : Submitted acc fn privdata cmd result) : Going stack result.2 := by
  cases submitted with
  | refused works => exact going.works works
  | accepted works retries found accepted =>
      have appended := (going.works works).append regular found accepted fun _ => rfl
      refine appended.of_same (List.Subset.refl _) (appended.orderly.bonded.of_same rfl rfl rfl rfl)
        rfl ?_ rfl
      intro cad member
      rcases List.mem_append.mp member with old | new
      · exact appended.orderly.commands cad old
      · rw [List.mem_singleton.mp new]
        exact regular

/-- A submission of a command that is neither about subscriptions nor `MONITOR`, or something
else. -/
def ClusterEvent.IsRegular (event : ClusterEvent Fn Data) : Prop :=
  ∀ fn privdata cmd, event.Submits fn privdata cmd → RegularCommand cmd

theorem Going.turn {state final : ClusterAsyncState Fn Data} {event : ClusterEvent Fn Data}
    (going : Going state.1 state.2) (regular : event.IsRegular)
    (turn : Turn world event state final) : Going final.1 final.2 := by
  have bonded := going.orderly.bonded.turn turn
  cases turn with
  | works same works =>
      have worked := going.works works
      exact worked.of_same (busy_subset same) bonded rfl worked.orderly.commands rfl
  | submits submits alive submitted => exact going.submitted (regular _ _ _ submits) submitted
  | @drives stack rest acc c ac handled state final handles found driven settling =>
      obtain ⟨ordinary, serves⟩ := going.orderly.driven handles found driven
      refine going.settling found ?_ ordinary serves settling
      intro other inside different
      rcases (handles_cases handles).2 with ⟨rfl, _⟩ | ⟨_, rfl⟩
      · cases inside
      · rcases List.mem_cons.mp inside with same | below
        · exact absurd (same.trans (found_connection found).2.symm) different
        · exact below
  | closes same found close =>
      have member := (found_connection found).1
      rcases close with disconnected | rfl
      · obtain ⟨link, ordinary, closes⟩ :=
          closes_of_disconnect (going.orderly.ordinary _ member) disconnected
        exact going.close found (Prod.mk.inj link).1 bonded rfl rfl rfl ordinary closes same
      · obtain ⟨ordinary, closes⟩ :=
          Ordinary.free world.order (going.orderly.ordinary _ member)
        exact going.close found rfl bonded rfl rfl rfl ordinary closes same
  | passes none => exact going.of_same (List.Subset.refl _) bonded rfl going.orderly.commands rfl
  | drops first => exact going.of_same (List.Subset.refl _) bonded rfl going.orderly.commands rfl
  | @releases stack acc count last node c rest ac first found =>
      have member := (found_connection found).1
      obtain ⟨ordinary, closes⟩ := Ordinary.free world.order (going.orderly.ordinary _ member)
      have below : Going (.release count last :: stack) acc :=
        going.of_same (List.Subset.refl _) going.orderly.bonded rfl going.orderly.commands rfl
      exact below.close found rfl bonded rfl rfl rfl ordinary closes rfl
  | released same alive =>
      refine going.of_same ?_ bonded rfl going.orderly.commands rfl
      have below := busy_subset same
      exact below
  | disconnects same alive =>
      exact going.of_same (busy_subset same) bonded rfl going.orderly.commands rfl
  | asks frees alive =>
        exact going.of_same (List.Subset.refl _) bonded rfl going.orderly.commands rfl
  | finishes cad alive =>
      refine going.of_same (List.Subset.refl _) bonded rfl ?_ rfl
      exact fun record member => going.orderly.commands record (List.mem_filter.mp member).1
  | tears disconnecting alive frees =>
      refine going.of_same ?_ bonded rfl going.orderly.commands rfl
      rcases frees with ⟨_, rfl, _⟩ | ⟨rfl, _⟩
      · exact List.Subset.refl _
      · exact List.Subset.refl _
  | dies alive => exact going.of_same (List.Subset.refl _) bonded rfl going.orderly.commands rfl

/-! ## Runs -/

/-- A client that has just been made: it has not sent anything. -/
structure NewClient (acc : ValkeyClusterAsyncContext Fn Data) : Prop extends Unopened acc where
  records : acc.records = []
  idle : acc.lastSlotmapUpdateAttempt ≠ .ongoing

theorem NewClient.going (made : NewClient acc) : Going [] acc := by
  have none {holds : Connection → Prop} : ∀ ac ∈ acc.connections, holds ac := by
    rw [made.connections]
    exact fun _ impossible => nomatch impossible
  refine ⟨⟨made.toUnopened.bonded, none, none, none, ?_⟩, ?_⟩
  · rw [made.records]
    exact fun _ impossible => nomatch impossible
  · unfold Exclusive updatesInFlight waiting
    rw [made.connections, if_neg made.idle]
    rfl

theorem Going.start {blocking : Bool} (going : Going stack acc)
    (connected : valkeyClusterAsyncConnect world acc blocking = .ok next) : Going stack next := by
  unfold valkeyClusterAsyncConnect at connected
  split at connected
  · cases connected
    exact going
  · have updated : Ensures (updateSlotMapAsync world acc none >>= fun result =>
        (.ok result.2 : Except ClusterFault (ValkeyClusterAsyncContext Fn Data))) Sheltered
        (Going stack) := by
      apply (ensures_updateSlotMapAsync none).bind
      exact fun result works => going.works works
    exact updated.of_ok connected

theorem going_run {start state : ClusterAsyncState Fn Data} (going : Going start.1 start.2)
    {events : List (ClusterEvent Fn Data)} (regular : ∀ event ∈ events, event.IsRegular)
    (reached : clusterRun world start events = .ok state) : Going state.1 state.2 := by
  have shows (state : ClusterAsyncState Fn Data) (event : ClusterEvent Fn Data)
      (_ : Going state.1 state.2) (_ : event.IsRegular) : True := trivial
  have preserves (state : ClusterAsyncState Fn Data) (event : ClusterEvent Fn Data)
      (next : ClusterAsyncState Fn Data) (held : Going state.1 state.2) (regular : event.IsRegular)
      (taken : clusterStep world state event = .ok next) : Going next.1 next.2 :=
    held.turn regular ((ensures_clusterStep state event).of_ok taken)
  have always := Runs.always_of_forall (clusterStep world) start regular
  exact (Runs.Always.invariant (clusterStep world) shows preserves events going always).2 state
    reached

/-- As long as only regular commands are sent, the mark is set if and only if one update of the
slot map is waiting for its reply, and there are never two. -/
theorem one_update_at_a_time (world : World) {acc start : ValkeyClusterAsyncContext Fn Data}
    {blocking : Bool} {events : List (ClusterEvent Fn Data)} {state : ClusterAsyncState Fn Data}
    (made : NewClient acc) (connected : valkeyClusterAsyncConnect world acc blocking = .ok start)
    (regular : ∀ event ∈ events, event.IsRegular)
    (reached : clusterRun world ([], start) events = .ok state) :
    (state.2.lastSlotmapUpdateAttempt = .ongoing ↔ state.2.updatesInFlight = 1) ∧
      state.2.updatesInFlight ≤ 1 := by
  have exclusive := (going_run (made.going.start connected) regular reached).exclusive
  unfold Exclusive at exclusive
  rw [exclusive]
  by_cases ongoing : state.2.lastSlotmapUpdateAttempt = .ongoing
  · simp [ongoing]
  · simp [ongoing]

end Connections

theorem newClient_unopenedClient : NewClient unopenedClient where
  toUnopened := unopened_unopenedClient
  records := rfl
  idle := by decide

/-- A command for slot 0. -/
def getFirstSlot : ClusterEvent Nat Nat :=
  .command (some 1) 7 (valkeyFormatCommandArgv [ascii "GET", ascii "06S"])

theorem isRegular_getFirstSlot : getFirstSlot.IsRegular := by
  rintro _ _ _ ⟨⟩
  exact regularCommand_format (by decide)
    ⟨fun _ => rfl, fun _ => rfl, fun _ => rfl, fun _ => rfl, fun _ => rfl⟩ _

/-- The update of a new client is going on while a command is sent. -/
theorem one_update_at_a_time_started :
    ∃ start state, valkeyClusterAsyncConnect calmWorld unopenedClient false = .ok start ∧
      clusterRun calmWorld ([], start) [getFirstSlot] = .ok state ∧
        (state.2.lastSlotmapUpdateAttempt = .ongoing ↔ state.2.updatesInFlight = 1) ∧
          state.2.updatesInFlight ≤ 1 := by
  have regular : ∀ event ∈ [getFirstSlot], event.IsRegular :=
    List.forall_mem_singleton.mpr isRegular_getFirstSlot
  have runs : passes (valkeyClusterAsyncConnect calmWorld unopenedClient false) (fun start =>
      passes (clusterRun calmWorld ([], start) [getFirstSlot]) fun state =>
        state.2.updatesInFlight == 1) = true := by
    decide +kernel
  obtain ⟨start, connected, continues⟩ := exists_of_passes runs
  obtain ⟨state, reached, _⟩ := exists_of_passes continues
  exact ⟨start, state, connected, reached,
    one_update_at_a_time calmWorld newClient_unopenedClient connected regular reached⟩

end Libvalkey
