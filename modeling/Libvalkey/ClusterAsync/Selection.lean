import Libvalkey.Cluster.NodeAddresses
import Libvalkey.ClusterAsync.Holders

/-! # The selection of a node

`selectNode` takes a random number modulo the number of nodes. A client whose options name
a node is never left without one, until it disconnects. -/

namespace Libvalkey

open Checked

variable {Fn Data : Type}

/-! ## Connecting -/

/-- A client that has been allocated, around a `cc` that has been initialized. -/
def emptyAsyncContext (cc : ValkeyClusterContext) : ValkeyClusterAsyncContext Fn Data where
  cc := cc
  err := none
  disconnecting := false
  lastSlotmapUpdateAttempt := .time 0
  onConnect := false
  onDisconnect := false
  eventCallback := false
  hasTimer := false
  commandTimeout := false
  connections := []
  records := []
  retired := []
  life := .alive
  nextConnection := 0
  nextRecord := 0
  ticks := 0
  draws := 0
  accepted := []
  resent := []
  deliveries := []

/-- `valkeyClusterAsyncContextInit` -/
def valkeyClusterAsyncContextInit (options : ValkeyClusterOptions) :
    Status × ValkeyClusterAsyncContext Fn Data :=
  match valkeyClusterContextInit options with
  | (.err, cc) => (.err, (emptyAsyncContext cc).copyError)
  | (.ok, cc) =>
      let acc := { emptyAsyncContext cc with
        commandTimeout := options.commandTimeout
        eventCallback := options.eventCallback
        onConnect := options.asyncConnectCallback
        onDisconnect := options.asyncDisconnectCallback }
      if options.attachFn then (.ok, { acc with hasTimer := options.hasTimer })
      else (.err, acc.setError (some ⟨.other, ascii "No event library configured"⟩))

/-- The contexts of the blocking update are closed. -/
def closeContexts (cc : ValkeyClusterContext) : ValkeyClusterContext :=
  { cc with nodes := cc.nodes.map fun node => { node with con := none } }

/-- `valkeyClusterAsyncConnectWithOptions` -/
def valkeyClusterAsyncConnectWithOptions (network : Nat → Outcome) (world : World)
    (options : ValkeyClusterOptions) : Except ClusterFault (ValkeyClusterAsyncContext Fn Data) :=
  match valkeyClusterAsyncContextInit options with
  | (.err, acc) => .ok acc
  | (.ok, acc) =>
      if options.has optBlockingInitialUpdate then do
        let (status, cc) ← ofPointers (valkeyClusterUpdateSlotmap network world.order acc.cc)
        match status with
        | .err => return { acc with cc := cc }.copyError
        | .ok => valkeyClusterAsyncConnect world { acc with cc := closeContexts cc } true
      else valkeyClusterAsyncConnect world acc false

section Selection

variable {world : World} {stack : List Activity} {acc next : ValkeyClusterAsyncContext Fn Data}

/-! ## Computations that do not divide by zero -/

/-- There is no division by zero. -/
def Undivided {α : Type} (computation : Except ClusterFault α) : Prop :=
  computation ≠ .error .divisionByZero

theorem undivided_ok {α : Type} (value : α) : Undivided (.ok value) := nofun

theorem undivided_error {α : Type} {fault : ClusterFault} (other : fault ≠ .divisionByZero) :
    Undivided (.error fault : Except ClusterFault α) :=
  fun divides => other (Except.error.inj divides)

theorem Undivided.ensures {α : Type} {computation : Except ClusterFault α}
    (undivided : Undivided computation) :
    Ensures computation (· ≠ .divisionByZero) fun _ => True := by
  cases computation with
  | ok value => trivial
  | error fault => exact fun same => undivided (congrArg Except.error same)

theorem Undivided.bind {α β : Type} {computation : Except ClusterFault α}
    {further : α → Except ClusterFault β} (first : Undivided computation)
    (second : ∀ value, computation = .ok value → Undivided (further value)) :
    Undivided (computation >>= further) := by
  cases computation with
  | ok value => exact second value rfl
  | error fault => exact undivided_error fun same => first (congrArg Except.error same)

theorem undivided_ofPointers {α : Type} (computation : Except Fault α) :
    Undivided (ofPointers computation) := by
  cases computation with
  | ok value => exact undivided_ok value
  | error fault => exact undivided_error nofun

theorem ofPointers_ok {α : Type} {computation : Except Fault α} {value : α}
    (computed : ofPointers computation = .ok value) : computation = .ok value := by
  cases computation with
  | ok other => exact congrArg Except.ok (Except.ok.inj computed)
  | error fault => cases computed

theorem undivided_ofConnection {α : Type} (computation : Except AsyncFault α) :
    Undivided (ofConnection computation) := by
  cases computation with
  | ok value => exact undivided_ok value
  | error fault => exact undivided_error nofun

theorem undivided_connection (c : Nat) : Undivided (acc.connection c) := by
  unfold ValkeyClusterAsyncContext.connection
  split
  · exact undivided_ok _
  · exact undivided_error nofun

theorem undivided_asyncNode (node : Addressee) : Undivided (acc.asyncNode node) := by
  unfold ValkeyClusterAsyncContext.asyncNode
  split
  · split
    · exact undivided_error nofun
    · exact undivided_ok _
  · split
    · exact undivided_error nofun
    split
    · exact undivided_error nofun
    · exact undivided_ok _

theorem undivided_asyncCommand (c : Nat) (fn : Option ClusterFn) (data : ClusterData)
    (cmd : Bytes) : Undivided (asyncCommand acc c fn data cmd) := by
  apply (undivided_connection c).bind
  intro ac _
  split
  · exact undivided_ok _
  · exact undivided_ok _

theorem undivided_getContext (node : Addressee) :
    Undivided (valkeyClusterGetValkeyAsyncContext world acc node) := by
  apply (undivided_asyncNode node).bind
  rintro ⟨host, port, acon⟩ _
  cases acon with
  | some c =>
      apply (undivided_connection c).bind
      intro ac _
      split
      · exact undivided_ok _
      · exact undivided_ok _
  | none =>
      dsimp only
      split
      · exact undivided_ok _
      · exact undivided_ok _

/-! ## Clients that have a node -/

/-- There is a node to select, or the client selects none any more. -/
def Selectable (acc : ValkeyClusterAsyncContext Fn Data) : Prop :=
  acc.cc.nodes ≠ [] ∨ acc.disconnecting = true

theorem KeepsNodes.filled (keeps : KeepsNodes acc next) (filled : acc.cc.nodes ≠ []) :
    next.cc.nodes ≠ [] := by
  obtain ⟨added, same⟩ := keeps
  intro empty
  rw [addressed, empty, List.map_nil] at same
  exact filled (List.map_eq_nil_iff.mp (List.append_eq_nil_iff.mp same.symm).1)

theorem disconnecting_change (change : Change acc next) :
    next.disconnecting = acc.disconnecting := by
  cases change <;> rfl

theorem disconnecting_works (works : Works acc next) : next.disconnecting = acc.disconnecting := by
  induction works with
  | refl => rfl
  | tail _ change induction => rw [disconnecting_change change, induction]

theorem Selectable.works (selectable : Selectable acc) (works : Works acc next) :
    Selectable next :=
  selectable.imp (keepsNodes_works works).filled (disconnecting_works works).trans

/-! ## Updates of the slot map -/

theorem undivided_selectNodeFrom (throttleLimit : Int) (checkIndex currentIndex : Nat)
    (selected : Option (Nat × Bool)) (nodes : List (ValkeyClusterNode ValkeyContext)) :
    Undivided (selectNodeFrom acc throttleLimit checkIndex currentIndex selected nodes) := by
  have connected (node : ValkeyClusterNode ValkeyContext) : Undivided
      (nodeIsConnected acc node) := by
    unfold nodeIsConnected
    split
    · exact undivided_ok _
    · exact (undivided_connection _).bind fun _ _ => undivided_ok _
  induction nodes generalizing currentIndex selected with
  | nil => exact undivided_ok _
  | cons node rest induction =>
      apply (connected node).bind
      intro connected _
      extract_lets found chosen
      split
      · exact undivided_ok _
      · exact induction _ _

theorem undivided_selectNode (filled : acc.cc.nodes ≠ []) : Undivided (selectNode world acc) := by
  unfold selectNode
  rw [if_neg filled]
  exact (undivided_selectNodeFrom _ _ _ _ _).bind fun _ _ => undivided_ok _

theorem undivided_updateConnection (filled : acc.cc.nodes ≠ []) (ac : Option Nat) :
    Undivided (updateConnection world acc ac) := by
  cases ac with
  | some c => exact undivided_ok _
  | none =>
      apply (undivided_selectNode filled).bind
      rintro ⟨selected, middle⟩ _
      cases selected with
      | none => exact undivided_ok _
      | some node => exact undivided_getContext _

theorem undivided_updateSlotMapAsync (selectable : Selectable acc) (ac : Option Nat) :
    Undivided (updateSlotMapAsync world acc ac) := by
  unfold updateSlotMapAsync
  split
  · exact undivided_ok _
  split
  · exact undivided_ok _
  rename_i connected
  apply (undivided_updateConnection (selectable.resolve_right connected) ac).bind
  rintro ⟨target, middle⟩ _
  cases target with
  | none => exact undivided_ok _
  | some c =>
      apply (undivided_asyncCommand _ _ _ _).bind
      rintro ⟨status, last⟩ _
      cases status with
      | ok => exact undivided_ok _
      | err => exact undivided_ok _

theorem undivided_throttledUpdate (selectable : Selectable acc) (ac : Option Nat) :
    Undivided (throttledUpdateSlotMapAsync world acc ac) := by
  unfold throttledUpdateSlotMapAsync
  split
  · exact undivided_ok _
  split
  · exact (undivided_updateSlotMapAsync (selectable.works works_tick) ac).bind fun _ _ =>
      undivided_ok _
  · exact undivided_ok _

/-! ## Answers -/

theorem undivided_movedTarget (selectable : Selectable acc) (c : Nat) (str : Bytes) :
    Undivided (movedTarget world acc c str) := by
  apply (undivided_throttledUpdate selectable _).bind
  intro throttled _
  apply (undivided_connection c).bind
  intro ac _
  generalize nodeFromRedirect throttled.cc ac.host str = redirected
  obtain ⟨target, cc⟩ := redirected
  cases target with
  | none => exact undivided_ok _
  | some target =>
      apply (undivided_ofPointers _).bind
      exact fun _ _ => undivided_getContext _

theorem undivided_askTarget (c : Nat) (str : Bytes) : Undivided (askTarget world acc c str) := by
  apply (undivided_connection c).bind
  intro ac _
  generalize nodeFromRedirect acc.cc ac.host str = redirected
  obtain ⟨target, cc⟩ := redirected
  cases target with
  | none => exact undivided_ok _
  | some target =>
      apply (undivided_getContext _).bind
      rintro ⟨con, middle⟩ _
      cases con with
      | none => exact undivided_ok _
      | some retry => exact (undivided_asyncCommand _ _ _ _).bind fun _ _ => undivided_ok _

theorem undivided_retryTarget (selectable : Selectable acc) (c : Nat) (reply : ReplyTree) :
    Undivided (retryTarget world acc c reply) := by
  unfold retryTarget
  split
  · exact undivided_movedTarget selectable c _
  · exact undivided_askTarget c _
  · exact undivided_ok _
  · exact undivided_ok _
  · exact undivided_ok _

theorem undivided_asyncCallback (selectable : Selectable acc) (c : Nat)
    (cad : ClusterAsyncData Fn Data) (reply : Option ReplyTree) :
    Undivided (valkeyClusterAsyncCallback world acc c cad reply) := by
  unfold valkeyClusterAsyncCallback
  cases reply with
  | none =>
      apply (undivided_connection c).bind
      intro ac _
      dsimp only
      split
      · exact undivided_ok _
      · apply (undivided_throttledUpdate (selectable.works (works_setError _)) none).bind
        exact fun _ _ => undivided_ok _
  | some reply =>
      dsimp only
      split
      · exact undivided_ok _
      rename_i count _
      split
      · exact undivided_ok _
      unfold retryCommand
      split
      · exact undivided_ok _
      have counted : Selectable (acc.countRetry cad.id (count + 1)) := selectable
      apply (undivided_retryTarget counted c reply).bind
      rintro ⟨target, middle⟩ _
      cases target with
      | none => exact undivided_ok _
      | some retry =>
          apply (undivided_asyncCommand _ _ _ _).bind
          rintro ⟨status, last⟩ _
          cases status with
          | ok => exact undivided_ok _
          | err => exact undivided_ok _

theorem undivided_routeReply
    {parse : Bytes → Nat → ReplyTree → Except String (List (ValkeyClusterNode ValkeyContext))}
    (selectable : Selectable acc) (c : Nat) (reply : Option ReplyTree) :
    Undivided (routeReplyCallback world parse acc c reply) := by
  have stamped : Selectable (acc.stampUpdate world) := selectable
  have updates {middle : ValkeyClusterAsyncContext Fn Data} (selectable : Selectable middle) :
      Undivided (updateSlotMapAsync world middle none >>= fun result =>
        return ((.returns : Action Fn Data), result.2)) :=
    (undivided_updateSlotMapAsync selectable none).bind fun _ _ => undivided_ok _
  unfold routeReplyCallback
  cases reply with
  | none => exact updates stamped
  | some reply =>
      apply (undivided_connection c).bind
      intro ac _
      dsimp only
      split
      · exact updates stamped
      split
      · exact updates stamped
      · exact undivided_ok _

theorem undivided_act (result : Action Fn Data × ValkeyClusterAsyncContext Fn Data) :
    Undivided (act stack result) := by
  obtain ⟨action, middle⟩ := result
  cases action with
  | returns => exact undivided_ok _
  | releases count => exact undivided_ok _
  | calls cad reply =>
      unfold act callUser
      dsimp only
      split
      · exact undivided_error nofun
      · exact undivided_ok _

theorem undivided_disconnect (ac : Connection) : Undivided (ac.disconnect world) :=
  (undivided_ofConnection _).bind fun _ _ => undivided_ok _

theorem undivided_callFn (selectable : Selectable acc) (c : Nat) (fn : ClusterFn)
    (data : ClusterData) (reply : Option ReplyTree) :
    Undivided (callFn world stack acc c fn data reply) := by
  unfold callFn
  split
  · exact undivided_error nofun
  cases fn with
  | selectReply =>
      have selected : Undivided (selectReplyCallback world acc c reply) := by
        unfold selectReplyCallback
        split
        · apply (undivided_connection c).bind
          intro ac _
          exact (undivided_disconnect ac).bind fun _ _ => undivided_ok _
        · exact undivided_ok _
      exact selected.bind fun _ _ => undivided_ok _
  | slotsReply =>
      exact (undivided_routeReply selectable c reply).bind fun result _ => undivided_act result
  | nodesReply =>
      exact (undivided_routeReply selectable c reply).bind fun result _ => undivided_act result
  | asyncCallback =>
      cases data with
      | record cad =>
          dsimp only
          split
          · exact undivided_error nofun
          · exact (undivided_asyncCallback selectable c _ reply).bind fun result _ =>
              undivided_act result
      | null => exact undivided_error nofun
      | client => exact undivided_error nofun

/-! ## Steps -/

theorem undivided_drive (selectable : Selectable acc) (ac : Connection)
    (event : AsyncEvent ClusterFn ClusterData) : Undivided (drive world stack acc ac event) := by
  apply (undivided_ofConnection _).bind
  intro state _
  have served {stack : List Activity} {ac : Connection} :
      Undivided (callBody world stack (acc.putConnection ac) ac .timeout) := by
    unfold callBody
    dsimp only
    split
    · have stored : Selectable (acc.putConnection ac) := selectable
      exact undivided_callFn stored _ _ _ _
    · exact undivided_error nofun
  unfold settle
  dsimp only
  split
  · exact undivided_ok _
  · rename_i resume _
    cases resume with
    | reply cb => exact served
    | timeout => exact served
    | freeing subscriptions => exact served
    | connected later => exact undivided_ok _
    | connectFailed => exact undivided_ok _
    | connectTimeout => exact undivided_ok _
    | push => exact undivided_ok _
    | disconnected => exact undivided_ok _
  · have unlinked : Undivided (acc.unlink ac.data) := by
      unfold ValkeyClusterAsyncContext.unlink
      split
      · exact undivided_ok _
      split
      · exact undivided_ok _
      · exact undivided_error nofun
    exact (unlinked.bind fun _ _ => undivided_ok _).bind fun _ _ => undivided_ok _
  · exact undivided_ok _

theorem undivided_closeConnection (c : Nat) {close : Connection → Except ClusterFault Connection}
    (closes : ∀ ac, Undivided (close ac)) : Undivided (closeConnection stack acc c close) := by
  apply (undivided_connection c).bind
  intro ac _
  exact (closes ac).bind fun _ _ => undivided_ok _

theorem undivided_freeClient : Undivided (valkeyClusterFree world stack acc) := by
  unfold valkeyClusterFree
  split
  · exact undivided_error nofun
  · exact undivided_ok _

theorem undivided_submitRecord (c : Nat) (fn : Option Fn) (privdata : Data) (cmd : Bytes)
    (retryCount : Option Nat) : Undivided (submitRecord acc c fn privdata cmd retryCount) := by
  apply (undivided_asyncCommand _ _ _ _).bind
  rintro ⟨status, middle⟩ _
  cases status with
  | ok => exact undivided_ok _
  | err => exact (undivided_connection c).bind fun _ _ => undivided_ok _

theorem undivided_formattedCommand (selectable : Selectable acc) (fn : Option Fn) (privdata : Data)
    (cmd : Bytes) : Undivided (valkeyClusterAsyncFormattedCommand world acc fn privdata cmd) := by
  unfold valkeyClusterAsyncFormattedCommand
  split
  · exact undivided_ok _
  dsimp only
  split
  · exact undivided_ok _
  rename_i command _
  have looked := calm_node_get_by_table acc.clearError.cc command.slot
  split
  · rename_i cc unknown
    rw [unknown] at looked
    have here := selectable.works (works_clearError.trans (works_cc looked))
    exact (undivided_throttledUpdate here none).bind fun _ _ => undivided_ok _
  · apply (undivided_getContext _).bind
    rintro ⟨con, middle⟩ _
    cases con with
    | none => exact undivided_ok _
    | some c => exact undivided_submitRecord _ _ _ _ _

theorem undivided_formattedCommandToNode (node : Addressee) (fn : Option Fn) (privdata : Data)
    (cmd : Bytes) :
    Undivided (valkeyClusterAsyncFormattedCommandToNode world acc node fn privdata cmd) := by
  unfold valkeyClusterAsyncFormattedCommandToNode
  split
  · exact undivided_ok _
  apply (undivided_getContext _).bind
  rintro ⟨con, middle⟩ _
  cases con with
  | none => exact undivided_ok _
  | some c => exact undivided_submitRecord _ _ _ _ _

theorem undivided_userCall (selectable : Selectable acc) (event : ClusterEvent Fn Data) :
    Undivided (userCall world stack acc event) := by
  have used {Result : Type} {call : Except ClusterFault Result} (undivided : Undivided call) :
      Undivided (if acc.life = .freed then .error .usedAfterFree else call) := by
    split
    · exact undivided_error nofun
    · exact undivided
  unfold userCall
  cases event with
  | command fn privdata cmd =>
      exact used ((undivided_formattedCommand selectable _ _ _).bind fun _ _ => undivided_ok _)
  | commandToNode node fn privdata cmd =>
      exact used ((undivided_formattedCommandToNode _ _ _ _).bind fun _ _ => undivided_ok _)
  | connect node => exact used ((undivided_getContext _).bind fun _ _ => undivided_ok _)
  | disconnect =>
      unfold valkeyClusterAsyncDisconnect
      dsimp only
      split
      · exact undivided_error nofun
      · exact undivided_ok _
  | free =>
      unfold valkeyClusterAsyncFree
      dsimp only
      split
      · exact undivided_error nofun
      split
      · exact undivided_ok _
      · exact undivided_freeClient
  | disconnectConnection c => exact undivided_closeConnection c undivided_disconnect
  | freeConnection c => exact undivided_closeConnection c fun _ => undivided_ok _
  | returns => exact undivided_ok _
  | readable c outcome input => exact undivided_ok _
  | writable c outcome output => exact undivided_ok _
  | timer c => exact undivided_ok _
  | proceed => exact undivided_ok _

theorem undivided_proceed (selectable : Selectable acc) : Undivided (proceed world acc stack) := by
  unfold proceed
  split
  · exact (undivided_connection _).bind fun _ _ => undivided_drive selectable _ _
  · unfold finishRelease
    split
    · exact undivided_error nofun
    split
    · exact undivided_ok _
    split
    · exact undivided_ok _
    · exact undivided_ok _
  · unfold freeValkeyClusterNode
    split
    · exact undivided_ok _
    · exact undivided_ok _
    · exact (undivided_connection _).bind fun _ _ => undivided_ok _
  · exact undivided_ok _
  · apply (undivided_asyncNode _).bind
    rintro ⟨host, port, acon⟩ _
    cases acon with
    | none => exact undivided_ok _
    | some c => exact undivided_closeConnection c undivided_disconnect
  · exact undivided_ok _

theorem undivided_clusterStep {state : ClusterAsyncState Fn Data} (selectable : Selectable state.2)
    (event : ClusterEvent Fn Data) : Undivided (clusterStep world state event) := by
  have socket (c : Nat) (event : AsyncEvent ClusterFn ClusterData) :
      Undivided (socketEvent world state.2 c event) :=
    (undivided_connection c).bind fun ac _ => undivided_drive selectable ac event
  unfold clusterStep
  dsimp only
  split
  · exact undivided_proceed selectable
  · rename_i after _ _
    unfold afterUser
    cases after with
    | returns => exact undivided_ok _
    | finishes cad =>
        dsimp only
        split
        · exact undivided_error nofun
        · exact undivided_ok _
    | frees => exact undivided_freeClient
  · exact undivided_ok _
  · exact socket _ _
  · exact socket _ _
  · exact socket _ _
  · exact undivided_userCall selectable _
  · exact undivided_userCall selectable _
  · exact undivided_ok _

/-! ## Runs -/

theorem disconnecting_called {c : Nat} {fn : ClusterFn} {data : ClusterData}
    {reply : Option ReplyTree} {final : ClusterAsyncState Fn Data}
    (called : Called world stack acc c fn data reply final) :
    final.2.disconnecting = acc.disconnecting := by
  have kept {cad : ClusterAsyncData Fn Data}
      {result : Action Fn Data × ValkeyClusterAsyncContext Fn Data}
      (answered : Answered acc cad result) : result.2.disconnecting = acc.disconnecting := by
    cases answered with
    | calls reply works => exact disconnecting_works works
    | callsCounted count reply works => exact (disconnecting_works works).trans rfl
    | resends retries below works found accepted => exact (disconnecting_works works).trans rfl
  cases called with
  | selected data accepted => rfl
  | rejected data refused found close => rfl
  | refreshed useClusterNodes data reply works => exact (disconnecting_works works).trans rfl
  | replaced useClusterNodes data reply learned => rfl
  | resent known handled answered => exact kept answered
  | delivered known handled answered callback => exact kept answered

theorem disconnecting_removed {ac : Connection} (removed : acc.removeConnection ac = .ok next) :
    next.disconnecting = acc.disconnecting := by
  unfold ValkeyClusterAsyncContext.removeConnection ValkeyClusterAsyncContext.unlink at removed
  cases held : ac.data with
  | none =>
      rw [held] at removed
      cases removed
      rfl
  | some node =>
      rw [held] at removed
      dsimp only at removed
      split at removed
      · cases removed
        rfl
      · cases removed

/-- A client does not stop to disconnect. -/
theorem disconnecting_turn {state final : ClusterAsyncState Fn Data} {event : ClusterEvent Fn Data}
    (turn : Turn world event state final) (disconnecting : state.2.disconnecting = true) :
    final.2.disconnecting = true := by
  cases turn with
  | works same works => rw [disconnecting_works works, disconnecting]
  | submits submits alive submitted =>
      cases submitted with
      | refused works => rw [disconnecting_works works, disconnecting]
      | accepted works => exact (disconnecting_works works).trans disconnecting
  | drives handles found driven settling =>
      cases settling with
      | keeps same quiet present => exact disconnecting
      | gone label removed => rw [disconnecting_removed removed, disconnecting]
      | serves served last callback privdata alive called =>
          exact (disconnecting_called called).trans disconnecting
  | closes same found close => exact disconnecting
  | passes none => exact disconnecting
  | drops first => exact disconnecting
  | releases first found => exact disconnecting
  | released same alive => exact disconnecting
  | disconnects same alive => rfl
  | asks frees alive => rfl
  | finishes cad alive => exact disconnecting
  | tears flag alive frees =>
      rcases frees with ⟨_, _, rfl⟩ | ⟨_, rfl⟩
      · rfl
      · exact disconnecting
  | dies alive => exact disconnecting

theorem leaving_same {frames : List Activity} (same : essential frames = essential stack) :
    Leaving frames ↔ Leaving stack := by
  have kept (stack : List Activity) : Leaving stack ↔ .user .frees ∈ essential stack := by
    simp [Leaving, essential, List.mem_filter]
  rw [kept, same, kept]

theorem Leaving.below {frame : Activity} (asked : Leaving (frame :: stack))
    (other : .user .frees ≠ frame) : Leaving stack :=
  (List.mem_cons.mp asked).resolve_left other

theorem leaving_called {c : Nat} {fn : ClusterFn} {data : ClusterData} {reply : Option ReplyTree}
    {final : ClusterAsyncState Fn Data} (called : Called world stack acc c fn data reply final)
    (asked : Leaving final.1) : Leaving stack := by
  cases called with
  | selected data accepted => exact asked
  | rejected data refused found close => exact asked
  | refreshed useClusterNodes data reply works => exact asked
  | replaced useClusterNodes data reply learned => exact asked.below nofun
  | resent known handled answered => exact asked
  | delivered known handled answered callback => exact asked.below nofun

theorem leaving_handled {frames : List Activity} {ac : Connection}
    (asked : Leaving (handled frames acc ac).1) : Leaving frames := by
  unfold handled at asked
  split at asked
  · exact asked.below nofun
  · exact asked

/-- The user is told by a client that disconnects. -/
theorem leaving_turn {state final : ClusterAsyncState Fn Data} {event : ClusterEvent Fn Data}
    (turn : Turn world event state final) (asked : Leaving final.1) :
    Leaving state.1 ∨ final.2.disconnecting = true := by
  cases turn with
  | works same works => exact .inl ((leaving_same same).mp asked)
  | submits submits alive submitted => exact .inl asked
  | @drives stack rest acc c ac handled state final handles found driven settling =>
      have outside (asked : Leaving rest) : Leaving stack := by
        rcases (handles_cases handles).2 with ⟨_, rfl⟩ | ⟨_, rfl⟩
        · cases asked
        · exact List.mem_cons_of_mem _ asked
      cases settling with
      | keeps same quiet present =>
          have inside := (leaving_same same).mp asked
          split at inside
          · exact .inl (outside inside)
          · exact .inl (outside (inside.below nofun))
      | gone label removed => exact .inl (outside asked)
      | serves served last callback privdata alive called =>
          exact .inl (outside ((leaving_called called asked).below nofun))
  | closes same found close => exact .inl ((leaving_same same).mp (leaving_handled asked))
  | passes none => exact .inl (List.mem_cons_of_mem _ (asked.below nofun))
  | drops first => exact .inl (List.mem_cons_of_mem _ (asked.below nofun))
  | releases first found =>
        exact .inl (List.mem_cons_of_mem _ ((leaving_handled asked).below nofun))
  | released same alive => exact .inl (List.mem_cons_of_mem _ ((leaving_same same).mp asked))
  | disconnects same alive => exact .inr rfl
  | asks frees alive => exact .inr rfl
  | finishes cad alive => exact .inl (List.mem_cons_of_mem _ asked)
  | tears flag alive frees =>
      rcases frees with ⟨_, rfl, rfl⟩ | ⟨rfl, _⟩
      · exact .inr rfl
      · exact .inl List.mem_cons_self
  | dies alive => exact .inl (List.mem_cons_of_mem _ asked)

theorem Renews.filled (renews : Renews world acc next) (filled : acc.cc.nodes ≠ []) :
    next.cc.nodes ≠ [] := by
  cases renews with
  | keeps keeps => exact keeps.filled filled
  | replaces same learned => exact fun empty => learned.filled (List.map_eq_nil_iff.mp empty)

/-- The nodes of a client are given up only after it has been told to disconnect. -/
structure Choosing (state : ClusterAsyncState Fn Data) : Prop where
  selectable : Selectable state.2
  asked : Leaving state.1 → state.2.disconnecting = true

theorem Choosing.turn {state final : ClusterAsyncState Fn Data} {event : ClusterEvent Fn Data}
    (choosing : Choosing state) (turn : Turn world event state final) : Choosing final := by
  constructor
  · rcases choosing.selectable with filled | disconnecting
    · rcases renews_turn turn with renews | ⟨none, told | ⟨asked, same⟩⟩
      · exact .inl (renews.filled filled)
      · exact .inr told
      · exact .inr (same.trans (choosing.asked asked))
    · exact .inr (disconnecting_turn turn disconnecting)
  · intro asked
    rcases leaving_turn turn asked with before | disconnecting
    · exact disconnecting_turn turn (choosing.asked before)
    · exact disconnecting

/-! ## Options -/

theorem filled_addNode {cc last : ValkeyClusterContext} {status : Status} {addr : Bytes}
    (added : valkeyClusterSetOptionAddNode cc addr = (status, last)) (filled : cc.nodes ≠ []) :
    last.nodes ≠ [] := by
  unfold valkeyClusterSetOptionAddNode at added
  split at added
  · cases added
    exact filled
  split at added
  · cases added
    exact filled
  split at added
  · cases added
    exact filled
  split at added
  · cases added
    exact filled
  split at added
  · cases added
    exact filled
  · cases added
    exact fun empty => nomatch (List.append_eq_nil_iff.mp empty).2

theorem filled_addNodes {cc : ValkeyClusterContext} (addrs : List Bytes) (filled : cc.nodes ≠ []) :
    (addOptionNodes cc addrs).2.nodes ≠ [] := by
  induction addrs generalizing cc with
  | nil => exact filled
  | cons addr rest induction =>
      unfold addOptionNodes
      split
      · rename_i last added
        exact induction (filled_addNode added filled)
      · rename_i last refused
        exact filled_addNode refused filled

/-- The first address gives a node when it has a host and a port. -/
theorem filled_firstNode {cc : ValkeyClusterContext} {addr ip portText : Bytes}
    (found : splitLast ':'.toUInt8 addr = some (ip, portText)) (named : ip ≠ [])
    (positive : 0 < vkAtoi portText) : (valkeyClusterSetOptionAddNode cc addr).2.nodes ≠ [] := by
  unfold valkeyClusterSetOptionAddNode
  split
  · rename_i node known
    exact List.ne_nil_of_mem (List.mem_of_find?_eq_some known)
  have written : portText ≠ [] := by
    rintro rfl
    exact absurd positive (by decide)
  rw [found]
  dsimp only
  rw [if_neg named, if_neg written, if_neg (not_le.mpr positive)]
  exact fun empty => nomatch (List.append_eq_nil_iff.mp empty).2

theorem filled_options {options : ValkeyClusterOptions} (names : options.namesNode = true) :
    (valkeyClusterContextInit options).2.nodes ≠ [] := by
  simp only [ValkeyClusterOptions.namesNode, Bool.and_eq_true, Option.any_eq_true, beq_iff_eq,
    Bool.not_eq_true', List.isEmpty_eq_false_iff, decide_eq_true_eq] at names
  obtain ⟨supported, addrs, initial, addr, first, ⟨ip, portText⟩, found, named, positive⟩ := names
  obtain ⟨rest, addresses⟩ := List.head?_eq_some_iff.mp first
  have added (cc : ValkeyClusterContext) :
      (valkeyClusterSetOptionAddNodes cc addrs).2.nodes ≠ [] := by
    have filled : (valkeyClusterSetOptionAddNode cc addr).2.nodes ≠ [] :=
      filled_firstNode found named positive
    unfold valkeyClusterSetOptionAddNodes
    rw [addresses, if_neg (List.cons_ne_nil _ _), addOptionNodes]
    cases result : valkeyClusterSetOptionAddNode cc addr with
    | mk status last =>
        rw [result] at filled
        cases status with
        | ok => exact filled_addNodes rest filled
        | err => exact filled
  have ofResult {result : Status × ValkeyClusterContext} {status : Status}
      {last : ValkeyClusterContext} (same : result = (status, last))
      (filled : result.2.nodes ≠ []) :
      last.nodes ≠ [] := by
    subst same
    exact filled
  unfold valkeyClusterContextInit
  rw [if_neg (not_not.mpr supported)]
  dsimp only
  rw [initial]
  dsimp only
  split
  · rename_i last accepted
    have filled : last.nodes ≠ [] := ofResult accepted (added _)
    exact filled
  · rename_i last refused
    have filled : last.nodes ≠ [] := ofResult refused (added _)
    exact filled

theorem filled_contextInit {options : ValkeyClusterOptions} (names : options.namesNode = true) :
    (valkeyClusterAsyncContextInit options : Status × ValkeyClusterAsyncContext Fn Data).2.cc.nodes ≠ [] := by
  have filled := filled_options names
  unfold valkeyClusterAsyncContextInit
  split
  · rename_i cc failed
    rw [failed] at filled
    exact filled
  · rename_i cc accepted
    rw [accepted] at filled
    dsimp only
    split
    · exact filled
    · exact filled

theorem filled_asyncConnect {before : ValkeyClusterAsyncContext Fn Data} (blocking : Bool)
    (filled : before.cc.nodes ≠ []) :
    Ensures (valkeyClusterAsyncConnect world before blocking) (· ≠ .divisionByZero)
      fun acc => acc.cc.nodes ≠ [] := by
  unfold valkeyClusterAsyncConnect
  split
  · exact filled
  · have updates : Ensures (updateSlotMapAsync world before none) (· ≠ .divisionByZero)
        fun _ => True :=
      (undivided_updateSlotMapAsync (.inl filled) none).ensures
    apply updates.computed.bind
    rintro result ⟨computed, _⟩
    exact (keepsNodes_works ((ensures_updateSlotMapAsync none).of_ok computed)).filled filled

theorem filled_connect (network : Nat → Outcome) {options : ValkeyClusterOptions}
    (names : options.namesNode = true) :
    Ensures (valkeyClusterAsyncConnectWithOptions network world options :
        Except ClusterFault (ValkeyClusterAsyncContext Fn Data)) (· ≠ .divisionByZero)
      fun acc => acc.cc.nodes ≠ [] := by
  have initial := @filled_contextInit Fn Data options names
  unfold valkeyClusterAsyncConnectWithOptions
  split
  · rename_i acc failed
    rw [failed] at initial
    exact initial
  rename_i acc initialized
  rw [initialized] at initial
  split
  · have updates := (undivided_ofPointers
      (valkeyClusterUpdateSlotmap network world.order acc.cc)).ensures
    apply updates.computed.bind
    rintro ⟨status, cc⟩ ⟨computed, _⟩
    have filled : cc.nodes ≠ [] :=
      filled_modifies (modifies_updateSlotmap.of_ok (ofPointers_ok computed)) initial
    cases status with
    | err => exact filled
    | ok => exact filled_asyncConnect true fun empty => filled (List.map_eq_nil_iff.mp empty)
  · exact filled_asyncConnect false initial

/-- A client whose options name a node has always one to select. -/
theorem never_divides_by_zero (network : Nat → Outcome) (world : World)
    (options : ValkeyClusterOptions) (names : options.namesNode = true) :
    valkeyClusterAsyncConnectWithOptions network world options ≠
        (.error .divisionByZero : Except ClusterFault (ValkeyClusterAsyncContext Fn Data)) ∧
    ∀ (acc : ValkeyClusterAsyncContext Fn Data) (events : List (ClusterEvent Fn Data)),
      valkeyClusterAsyncConnectWithOptions network world options = .ok acc →
        Runs.Always (clusterStep world)
          (fun state event => clusterStep world state event ≠ .error .divisionByZero) ([], acc)
          events := by
  have connects := @filled_connect Fn Data world network options names
  refine ⟨fun divides => connects.of_error divides rfl, fun acc events connected => ?_⟩
  have choosing : Choosing ([], acc) := ⟨.inl (connects.of_ok connected), nofun⟩
  have shows (state : ClusterAsyncState Fn Data) (event : ClusterEvent Fn Data)
      (choosing : Choosing state) (_ : True) :
      clusterStep world state event ≠ .error .divisionByZero :=
    undivided_clusterStep choosing.selectable event
  have preserves (state : ClusterAsyncState Fn Data) (event : ClusterEvent Fn Data)
      (next : ClusterAsyncState Fn Data) (choosing : Choosing state) (_ : True)
      (taken : clusterStep world state event = .ok next) : Choosing next :=
    choosing.turn ((ensures_clusterStep state event).of_ok taken)
  exact (Runs.Always.invariant (clusterStep world) shows preserves events choosing
    (Runs.always_trivial _ _ _)).1

end Selection

theorem never_divides_by_zero_pair :
    valkeyClusterAsyncConnectWithOptions (calmNetwork fun _ => .status []) calmWorld
        (onlyNodes (ascii "a:1,b:2")) ≠ (.error .divisionByZero :
          Except ClusterFault (ValkeyClusterAsyncContext Nat Nat)) ∧
    ∀ (acc : ValkeyClusterAsyncContext Nat Nat) (events : List (ClusterEvent Nat Nat)),
      valkeyClusterAsyncConnectWithOptions (calmNetwork fun _ => .status []) calmWorld
          (onlyNodes (ascii "a:1,b:2")) = .ok acc →
        Runs.Always (clusterStep calmWorld)
          (fun state event => clusterStep calmWorld state event ≠ .error .divisionByZero) ([], acc)
          events :=
  never_divides_by_zero (calmNetwork fun _ => .status []) calmWorld (onlyNodes (ascii "a:1,b:2"))
    (by decide)

/-- Options without initial nodes are accepted, and the first update selects one of none. -/
theorem connect_divides_by_zero :
    (valkeyClusterContextInit { onlyNodes [] with initialNodes := none }).1 = .ok ∧
      valkeyClusterAsyncConnectWithOptions (calmNetwork fun _ => .status []) calmWorld
          { onlyNodes [] with initialNodes := none } =
        (.error .divisionByZero : Except ClusterFault (ValkeyClusterAsyncContext Nat Nat)) :=
  ⟨rfl, rfl⟩

end Libvalkey
