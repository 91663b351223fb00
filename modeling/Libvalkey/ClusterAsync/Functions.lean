import Libvalkey.ClusterAsync.Context

/-! # The functions of the asynchronous cluster client

`cluster.c`: connecting to nodes, the updates of the slot map, the callbacks of the client
and the calls that submit commands. A function ends where a callback of the user is to be
run or where nodes are to be freed. -/

namespace Libvalkey

variable {Fn Data : Type}

/-! ## Commands on a connection -/

def authCommand (username : Option Bytes) (password : Bytes) : Bytes :=
  valkeyFormatCommandArgv (ascii "AUTH" :: username.toList ++ [password])

def selectCommand (db : Int) : Bytes :=
  valkeyFormatCommandArgv [ascii "SELECT", Decimal.ofInt db]

/-- `VALKEY_COMMAND_CLUSTER_NODES` or `VALKEY_COMMAND_CLUSTER_SLOTS` -/
def routeCommand (useClusterNodes : Bool) : Bytes :=
  valkeyFormatCommandArgv [ascii "CLUSTER", ascii (if useClusterNodes then "NODES" else "SLOTS")]

/-- `VALKEY_COMMAND_ASKING` -/
def askingCommand : Bytes := valkeyFormatCommandArgv [ascii "ASKING"]

/-- The callback for the reply to `routeCommand`. -/
def routeCallback (useClusterNodes : Bool) : ClusterFn :=
  if useClusterNodes then .nodesReply else .slotsReply

/-- A command is appended on a context. -/
def Connection.append (ac : Connection) (fn : Option ClusterFn) (data : ClusterData) (cmd : Bytes) :
    Status × Connection :=
  let (status, context) := valkeyAsyncAppendCmdLen ac.state.2 fn data cmd
  (status, { ac with state := (ac.state.1, context) })

/-- `valkeyAsyncFormattedCommand` on one of the connections. A command that is not accepted
leaves the connection as it is. -/
def asyncCommand (acc : ValkeyClusterAsyncContext Fn Data) (c : Nat) (fn : Option ClusterFn)
    (data : ClusterData) (cmd : Bytes) :
    Except ClusterFault (Status × ValkeyClusterAsyncContext Fn Data) := do
  let ac ← acc.connection c
  match ac.append fn data cmd with
  | (.ok, ac) => return (.ok, acc.putConnection ac)
  | (.err, _) => return (.err, acc)

section Functions

variable (world : World)

/-! ## Connecting -/

/-- The error that a failed SELECT leaves. -/
def selectFailed : ContextError := ⟨.other, ascii "Failed to select logical database"⟩

/-- `valkeyAsyncFree` of a context that no node has yet: its callbacks get `NULL`, and only
`selectReplyCallback` does something then. -/
def freeUnlinked (acc : ValkeyClusterAsyncContext Fn Data) (ac : Connection) :
    ValkeyClusterAsyncContext Fn Data :=
  if ac.state.2.replies.any (·.fn == some (.user .selectReply)) then acc.setError
    (some selectFailed)
  else acc

/-- AUTH when needed. -/
def Connection.authenticate (acc : ValkeyClusterAsyncContext Fn Data) (ac : Connection) :
    Status × Connection :=
  match acc.cc.password with
  | none => (.ok, ac)
  | some password => ac.append none .null (authCommand acc.cc.username password)

/-- SELECT when needed. -/
def Connection.selectDb (acc : ValkeyClusterAsyncContext Fn Data) (ac : Connection) :
    Status × Connection :=
  if acc.cc.selectDb > 0 then
    ac.append (some .selectReply) .client (selectCommand acc.cc.selectDb)
  else (.ok, ac)

/-- What `valkeyAsyncConnectWithOptions` returns. -/
def newConnection (acc : ValkeyClusterAsyncContext Fn Data) (host : Bytes)
    (failure : Option ContextError) : Connection where
  id := acc.nextConnection
  host := host
  data := none
  state := (.idle, valkeyAsyncInitialize ClusterFn ClusterData
    { defaultOptions with commandTimeout := acc.commandTimeout, failure := failure })

/-- The callbacks, the event library and the node of a connection that was made. -/
def Connection.attach (acc : ValkeyClusterAsyncContext Fn Data) (node : Addressee)
    (ac : Connection) : Connection :=
  { ac with
    data := some node
    state := (ac.state.1, { ac.state.2 with
      hasTimer := acc.hasTimer, onConnect := acc.onConnect, onDisconnect := acc.onDisconnect }) }

/-- The part of `valkeyClusterGetValkeyAsyncContext` that makes a connection. -/
def connectAsync (acc : ValkeyClusterAsyncContext Fn Data) (node : Addressee) (host : Bytes) :
    Option Nat × ValkeyClusterAsyncContext Fn Data :=
  let attempt := world.connect acc.nextConnection
  let ac := newConnection acc host attempt.failure
  let acc := { acc.stampConnect world node with nextConnection := acc.nextConnection + 1 }
  if attempt.failure.isSome then (none, acc.setError attempt.failure)
  else if acc.cc.tls ∧ attempt.tls.isSome then (none, acc.setError attempt.tls)
  else
    match ac.authenticate acc with
    | (.err, ac) => (none, freeUnlinked (acc.setError ac.state.2.cErr) ac)
    | (.ok, ac) =>
        match ac.selectDb acc with
        | (.err, ac) => (none, freeUnlinked (acc.setError ac.state.2.cErr) ac)
        | (.ok, ac) =>
            if attempt.attached then
              (some ac.id, { acc.setAcon node (some ac.id) with
                connections := acc.connections ++ [ac.attach acc node] })
            else
              (none, freeUnlinked
                (acc.setError (some ⟨.other, ascii "Failed to attach event adapter"⟩)) ac)

def valkeyClusterGetValkeyAsyncContext (acc : ValkeyClusterAsyncContext Fn Data)
    (node : Addressee) : Except ClusterFault (Option Nat × ValkeyClusterAsyncContext Fn Data) := do
  let known ← acc.asyncNode node
  match known.acon with
  | some c => do
      let ac ← acc.connection c
      match ac.state.2.cErr with
      | none => return (some c, acc)
      | some err => return (none, acc.setError (some err))
  | none =>
      if known.port ≤ 0 then
        return (none, acc.setError (some ⟨.other, ascii "node host or port is error"⟩))
      else return connectAsync world acc node known.host

/-! ## The update of the slot map -/

def nodeIsConnected (acc : ValkeyClusterAsyncContext Fn Data)
    (node : ValkeyClusterNode ValkeyContext) : Except ClusterFault Bool :=
  match node.acon with
  | none => .ok false
  | some c => do
      let ac ← acc.connection c
      return ac.state.2.err.isNone && ac.state.2.connected

/-- The loop of `selectNode`. A node is kept with whether it is connected. -/
def selectNodeFrom (acc : ValkeyClusterAsyncContext Fn Data) (throttleLimit : Int)
    (checkIndex : Nat) : Nat → Option (Nat × Bool) → List (ValkeyClusterNode ValkeyContext) →
      Except ClusterFault (Option Nat)
  | _, selected, [] => .ok (selected.map (·.1))
  | currentIndex, selected, node :: rest => do
      let connected ← nodeIsConnected acc node
      let found := selected.elim false (·.2)
      let selected :=
        if connected then some (node.id, true)
        else if node.lastConnectionAttempt < throttleLimit ∧
            (selected.isNone ∨ currentIndex < checkIndex ∧ ¬found) then some (node.id, false)
        else selected
      if currentIndex ≥ checkIndex ∧ selected.elim false (·.2) then return selected.map (·.1)
      else selectNodeFrom acc throttleLimit checkIndex (currentIndex + 1) selected rest

def selectNode (acc : ValkeyClusterAsyncContext Fn Data) :
    Except ClusterFault (Option Nat × ValkeyClusterAsyncContext Fn Data) :=
  if acc.cc.nodes = [] then .error .divisionByZero
  else do
    let throttleLimit := world.clock acc.ticks - slotmapUpdateThrottleUsec
    let checkIndex := world.random acc.draws % acc.cc.nodes.length
    let selected ← selectNodeFrom acc throttleLimit checkIndex 0 none
      (world.order.order acc.cc.nodes)
    return (selected, { acc.tick with draws := acc.draws + 1 })

/-- The connection for an update: the given one, or one to a selected node. -/
def updateConnection (acc : ValkeyClusterAsyncContext Fn Data) :
    Option Nat → Except ClusterFault (Option Nat × ValkeyClusterAsyncContext Fn Data)
  | some c => .ok (some c, acc)
  | none => do
      let (selected, acc) ← selectNode world acc
      match selected with
      | none => return (none, acc)
      | some node => valkeyClusterGetValkeyAsyncContext world acc (.primary node)

def updateSlotMapAsync (acc : ValkeyClusterAsyncContext Fn Data) (ac : Option Nat) :
    Except ClusterFault (Status × ValkeyClusterAsyncContext Fn Data) :=
  if acc.lastSlotmapUpdateAttempt = .ongoing then .ok (.err, acc)
  else if acc.disconnecting then .ok (.err, acc)
  else do
    let (target, acc) ← updateConnection world acc ac
    match target with
    | none => return (.err, acc.stampUpdate world)
    | some c => do
        let (status, acc) ← asyncCommand acc c (some (routeCallback acc.cc.useClusterNodes))
          .client (routeCommand acc.cc.useClusterNodes)
        match status with
        | .ok => return (.ok, { acc with lastSlotmapUpdateAttempt := .ongoing })
        | .err => return (.err, acc.stampUpdate world)

def throttledUpdateSlotMapAsync (acc : ValkeyClusterAsyncContext Fn Data) (ac : Option Nat) :
    Except ClusterFault (ValkeyClusterAsyncContext Fn Data) :=
  match acc.lastSlotmapUpdateAttempt with
  | .ongoing => .ok acc
  | .time last =>
      if last + slotmapUpdateThrottleUsec < world.clock acc.ticks then do
        let (_, acc) ← updateSlotMapAsync world acc.tick ac
        return acc
      else .ok acc.tick

/-! ## Callbacks of the client -/

/-- What is left to do after a callback of the client: nothing, a callback of the user, or
a number of nodes to be freed. -/
inductive Action (Fn Data : Type)
  | returns
  | calls (record : ClusterAsyncData Fn Data) (reply : Option ReplyTree)
  | releases (count : Nat)

/-- `valkeyAsyncDisconnect` -/
def Connection.disconnect (ac : Connection) : Except ClusterFault Connection := do
  let state ← ofConnection (valkeyAsyncDisconnect world.order ac.state.1 ac.state.2)
  return { ac with state := state }

/-- `valkeyAsyncFree` -/
def Connection.free (ac : Connection) : Connection :=
  { ac with state := valkeyAsyncFree world.order ac.state.1 ac.state.2 }

def ReplyTree.isError : ReplyTree → Bool
  | .error _ => true
  | _ => false

def selectReplyCallback (acc : ValkeyClusterAsyncContext Fn Data) (c : Nat)
    (reply : Option ReplyTree) : Except ClusterFault (ValkeyClusterAsyncContext Fn Data) :=
  if reply.all (·.isError) then do
    let ac ← acc.connection c
    let ac ← ac.disconnect world
    return (acc.setError (some selectFailed)).putConnection ac
  else .ok acc

/-- The nodes and the table take the place of the old ones, which wait to be freed. -/
def installNodes (acc : ValkeyClusterAsyncContext Fn Data) (table : List (Option Nat))
    (nodes : List (ValkeyClusterNode ValkeyContext)) : ValkeyClusterAsyncContext Fn Data :=
  let cc := acc.cc.replaceNodes table nodes
  { acc with
    cc := cc
    connections := acc.connections.map (relink cc.nodes)
    retired := owners (world.order.order (swappedOut acc.cc.nodes nodes)) ++ acc.retired }

/-- What the callbacks for the two route commands do, which differ in how they parse. -/
def routeReplyCallback
    (parse : Bytes → Nat → ReplyTree → Except String (List (ValkeyClusterNode ValkeyContext)))
    (acc : ValkeyClusterAsyncContext Fn Data) (c : Nat) (reply : Option ReplyTree) :
    Except ClusterFault (Action Fn Data × ValkeyClusterAsyncContext Fn Data) := do
  let acc := acc.stampUpdate world
  match reply with
  | none => do
      let (_, acc) ← updateSlotMapAsync world acc none
      return (.returns, acc)
  | some reply => do
      let ac ← acc.connection c
      match parse ac.host acc.cc.nextNode reply with
      | .error message => do
          let (_, acc) ← updateSlotMapAsync world (acc.ccSetError .other (ascii message)) none
          return (.returns, acc)
      | .ok nodes =>
          match createTable world.order nodes with
          | .error message => do
              let (_, acc) ← updateSlotMapAsync world (acc.ccSetError .other (ascii message)) none
              return (.returns, acc)
          | .ok table =>
              return (.releases (owners acc.cc.nodes).length, installNodes world acc table nodes)

def clusterSlotsReplyCallback (acc : ValkeyClusterAsyncContext Fn Data) (c : Nat)
    (reply : Option ReplyTree) :
    Except ClusterFault (Action Fn Data × ValkeyClusterAsyncContext Fn Data) :=
  routeReplyCallback world (parse_cluster_slots acc.cc.addReplicas) acc c reply

def clusterNodesReplyCallback (acc : ValkeyClusterAsyncContext Fn Data) (c : Nat)
    (reply : Option ReplyTree) :
    Except ClusterFault (Action Fn Data × ValkeyClusterAsyncContext Fn Data) :=
  routeReplyCallback world (parse_cluster_nodes acc.cc.addReplicas) acc c reply

/-- `getNodeFromRedirectReply` for a reply from a known address. -/
def nodeFromRedirect (cc : ValkeyClusterContext) (host : Bytes) (str : Bytes) :
    Option (Nat × Int) × ValkeyClusterContext :=
  match parseRedirect host str with
  | .error message => (none, cc.setError .other (ascii message))
  | .ok redirect =>
      match findByAddr cc.nodes redirect.key with
      | some node => (some (node.id, redirect.slot), cc)
      | none => (some (cc.nextNode, redirect.slot), cc.addNode redirect)

theorem getNodeFromRedirectReply_eq (cc : ValkeyClusterContext) (c : Nat) (str : Bytes) :
    getNodeFromRedirectReply cc c str = do
      let con ← cc.context c
      return nodeFromRedirect cc con.host str := by
  unfold getNodeFromRedirectReply nodeFromRedirect
  apply congrArg (cc.context c >>= ·)
  funext con
  cases parseRedirect con.host str with
  | error message => rfl
  | ok redirect =>
      dsimp only
      cases findByAddr cc.nodes redirect.key with
      | none => rfl
      | some node => rfl

/-- The MOVED case of `valkeyClusterAsyncCallback`. -/
def movedTarget (acc : ValkeyClusterAsyncContext Fn Data) (c : Nat) (str : Bytes) :
    Except ClusterFault (Option Nat × ValkeyClusterAsyncContext Fn Data) := do
  let acc ← throttledUpdateSlotMapAsync world acc (some c)
  let ac ← acc.connection c
  let (target, cc) := nodeFromRedirect acc.cc ac.host str
  let acc := { acc with cc := cc }
  match target with
  | none => return (none, acc.copyError)
  | some (node, slot) => do
      let cc ← ofPointers (updateSlot acc.cc slot node)
      valkeyClusterGetValkeyAsyncContext world { acc with cc := cc } (.primary node)

/-- The ASK case. -/
def askTarget (acc : ValkeyClusterAsyncContext Fn Data) (c : Nat) (str : Bytes) :
    Except ClusterFault (Option Nat × ValkeyClusterAsyncContext Fn Data) := do
  let ac ← acc.connection c
  let (target, cc) := nodeFromRedirect acc.cc ac.host str
  let acc := { acc with cc := cc }
  match target with
  | none => return (none, acc.copyError)
  | some (node, _) => do
      let (con, acc) ← valkeyClusterGetValkeyAsyncContext world acc (.primary node)
      match con with
      | none => return (none, acc)
      | some retry => do
          let (status, acc) ← asyncCommand acc retry none .null askingCommand
          return (if status = .ok then some retry else none, acc)

/-- The connection on which a command is sent again, for an error that asks for it. -/
def retryTarget (acc : ValkeyClusterAsyncContext Fn Data) (c : Nat) (reply : ReplyTree) :
    Except ClusterFault (Option Nat × ValkeyClusterAsyncContext Fn Data) :=
  match getReplyErrorType reply with
  | .moved => movedTarget world acc c (replyText reply)
  | .ask => askTarget world acc c (replyText reply)
  | .tryAgain | .clusterDown => .ok (some c, acc)
  | _ => .ok (none, acc)

/-- The `done` label of `valkeyClusterAsyncCallback`. -/
def done (acc : ValkeyClusterAsyncContext Fn Data) (cad : ClusterAsyncData Fn Data)
    (reply : Option ReplyTree) : Action Fn Data × ValkeyClusterAsyncContext Fn Data :=
  (.calls cad (if acc.err = none then reply else none), acc)

/-- Change the count of retries of a record. -/
def ValkeyClusterAsyncContext.countRetry (acc : ValkeyClusterAsyncContext Fn Data) (cad : Nat)
    (count : Nat) : ValkeyClusterAsyncContext Fn Data :=
  { acc with
    records := acc.records.map fun record =>
      if record.id = cad then { record with retryCount := some count } else record }

/-- The part of `valkeyClusterAsyncCallback` for an error that asks for a retry. -/
def retryCommand (acc : ValkeyClusterAsyncContext Fn Data) (c : Nat)
    (cad : ClusterAsyncData Fn Data) (count : Nat) (reply : ReplyTree) :
    Except ClusterFault (Action Fn Data × ValkeyClusterAsyncContext Fn Data) :=
  if (count : Int) > acc.cc.maxRetryCount then
    let acc := acc.countRetry cad.id 0
    return done (acc.setError (some
      ⟨.clusterTooManyRetries, ascii "too many cluster retries"⟩)) cad (some reply)
  else do
    let (target, acc) ← retryTarget world (acc.countRetry cad.id count) c reply
    match target with
    | none => return done acc cad (some reply)
    | some retry => do
        let (status, acc) ← asyncCommand acc retry (some .asyncCallback)
            (.record cad.id) cad.command
        match status with
        | .ok => return (.returns, { acc with resent := acc.resent ++ [cad.id] })
        | .err => return done acc cad (some reply)

def valkeyClusterAsyncCallback (acc : ValkeyClusterAsyncContext Fn Data) (c : Nat)
    (cad : ClusterAsyncData Fn Data) (reply : Option ReplyTree) :
    Except ClusterFault (Action Fn Data × ValkeyClusterAsyncContext Fn Data) :=
  match reply with
  | none => do
      let ac ← acc.connection c
      let acc := acc.setError ac.state.2.err
      -- Without a node, it is already removed from the topology.
      if ac.data.isNone then return done acc cad none
      else do
        let acc ← throttledUpdateSlotMapAsync world acc none
        return done acc cad none
  | some reply =>
      match cad.retryCount with
      | none => .ok (done acc cad (some reply))
      | some count =>
          let type := getReplyErrorType reply
          if acc.disconnecting ∨ type = .noError ∨ type = .other then
            .ok (done acc cad (some reply))
          else retryCommand world acc c cad (count + 1) reply

/-! ## Submissions -/

/-- `disconnecting`, as an error of a submission. -/
def disconnectingError : ContextError := ⟨.other, ascii "disconnecting"⟩

/-- A record is made and its command is appended, or the record is freed again. -/
def submitRecord (acc : ValkeyClusterAsyncContext Fn Data) (c : Nat) (fn : Option Fn)
    (privdata : Data) (cmd : Bytes) (retryCount : Option Nat) :
    Except ClusterFault (Status × ValkeyClusterAsyncContext Fn Data) := do
  let record := acc.nextRecord
  let (status, acc) ← asyncCommand { acc with nextRecord := record + 1 } c (some .asyncCallback)
    (.record record) cmd
  match status with
  | .ok =>
      return (.ok, { acc with
        records := acc.records ++ [⟨record, cmd, fn, privdata, retryCount⟩]
        accepted := acc.accepted ++ [record] })
  | .err => do
      let ac ← acc.connection c
      return (.err, acc.setError ac.state.2.err)

def valkeyClusterAsyncFormattedCommand (acc : ValkeyClusterAsyncContext Fn Data) (fn : Option Fn)
    (privdata : Data) (cmd : Bytes) :
    Except ClusterFault (Status × ValkeyClusterAsyncContext Fn Data) :=
  if acc.disconnecting then .ok (.err, acc.setError (some disconnectingError))
  else
    let acc := acc.clearError
    match prepareCommand acc.cc cmd with
    | .error cc => .ok (.err, { acc with cc := cc }.copyError)
    | .ok command =>
        match node_get_by_table acc.cc command.slot with
        | (none, cc) => do
            let acc ← throttledUpdateSlotMapAsync world { acc with cc := cc } none
            return (.err, acc.copyError)
        | (some node, cc) => do
            let (con, acc) ← valkeyClusterGetValkeyAsyncContext world { acc with cc := cc }
              (.primary node)
            match con with
            | none => return (.err, acc)
            | some c => submitRecord acc c fn privdata cmd (some 0)

def valkeyClusterAsyncFormattedCommandToNode (acc : ValkeyClusterAsyncContext Fn Data)
    (node : Addressee) (fn : Option Fn) (privdata : Data) (cmd : Bytes) :
    Except ClusterFault (Status × ValkeyClusterAsyncContext Fn Data) :=
  if acc.disconnecting then .ok (.err, acc.setError (some disconnectingError))
  else do
    let (con, acc) ← valkeyClusterGetValkeyAsyncContext world acc node
    match con with
    | none => return (.err, acc)
    | some c => submitRecord acc.clearError c fn privdata cmd none

end Functions

end Libvalkey
