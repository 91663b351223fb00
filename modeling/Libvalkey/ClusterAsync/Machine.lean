import Libvalkey.ClusterAsync.Functions
import Libvalkey.Foundation.Runs

/-! # Runs of the asynchronous cluster client

Callbacks can be run while others are running: a stack tells what the library goes on with
when the uppermost one has returned. Without anything on it the library waits for an event. -/

namespace Libvalkey

variable {Fn Data : Type}

/-- What follows a callback of the user. -/
inductive After
  | returns
  | finishes (cad : Nat)
  | frees
  deriving DecidableEq, Repr

/-- The library handles a connection, a callback of the user is running, or one of the
loops over the nodes is. The last release is the one that frees the client. -/
inductive Activity
  | connection (c : Nat)
  | user (after : After)
  | release (count : Nat) (last : Bool)
  | disconnect (nodes : List Nat)
  deriving DecidableEq, Repr

abbrev ClusterAsyncState (Fn Data : Type) : Type :=
  List Activity × ValkeyClusterAsyncContext Fn Data

/-- The library goes on with a connection without waiting for anything. -/
def AsyncLabel.runs {F D : Type} : AsyncLabel F D → Bool
  | .processing | .timeout | .freeing _ | .gone => true
  | .idle | .callback _ => false

section Machine

variable (world : World)

/-! ## Callbacks -/

/-- A callback of the user is run. -/
def callUser (stack : List Activity) (acc : ValkeyClusterAsyncContext Fn Data)
    (cad : ClusterAsyncData Fn Data) (reply : Option ReplyTree) :
    Except ClusterFault (ClusterAsyncState Fn Data) :=
  match cad.callback with
  | none => .error .nullCall
  | some callback =>
      .ok (.user (.finishes cad.id) :: stack,
        { acc with deliveries := acc.deliveries ++ [⟨cad.id, callback, cad.privdata, reply⟩] })

/-- What a callback of the client has left to do. -/
def act (stack : List Activity) :
    Action Fn Data × ValkeyClusterAsyncContext Fn Data →
      Except ClusterFault (ClusterAsyncState Fn Data)
  | (.returns, acc) => .ok (stack, acc)
  | (.releases count, acc) => .ok (.release count false :: stack, acc)
  | (.calls cad reply, acc) => callUser stack acc cad reply

/-- A callback that a connection has run: the client is still there, and its record is. -/
def callFn (stack : List Activity) (acc : ValkeyClusterAsyncContext Fn Data) (c : Nat)
    (fn : ClusterFn) (data : ClusterData) (reply : Option ReplyTree) :
    Except ClusterFault (ClusterAsyncState Fn Data) :=
  if acc.life = .freed then .error .usedAfterFree
  else
    match fn, data with
    | .selectReply, _ => do
        let acc ← selectReplyCallback world acc c reply
        return (stack, acc)
    | .slotsReply, _ => clusterSlotsReplyCallback world acc c reply >>= act stack
    | .nodesReply, _ => clusterNodesReplyCallback world acc c reply >>= act stack
    | .asyncCallback, .record cad =>
        match acc.findRecord cad with
        | none => .error .usedAfterFree
        | some record => valkeyClusterAsyncCallback world acc c record reply >>= act stack
    | .asyncCallback, _ => .error (.connection .assertion)

/-- The callback that a context has run last. -/
def lastServed (context : ValkeyAsyncContext ClusterFn ClusterData) :
    Option (Served ClusterFn ClusterData) :=
  context.served.getLast?

/-- The body of a callback: one of the client, or of the user. -/
def callBody (stack : List Activity) (acc : ValkeyClusterAsyncContext Fn Data) (ac : Connection) :
    Resume ClusterFn ClusterData → Except ClusterFault (ClusterAsyncState Fn Data)
  | .reply _ | .timeout | .freeing _ =>
      match lastServed ac.state.2 with
      | some ⟨{ fn := some (.user fn), privdata := .user data, .. }, reply⟩ =>
          callFn world stack acc ac.id fn data reply
      | _ => .error (.connection .assertion)
  | .connected _ | .connectFailed | .connectTimeout | .push | .disconnected =>
      .ok (.user .returns :: stack, acc)

/-- What the new state of a connection leads to. `stack` is what is below it. -/
def settle (stack : List Activity) (acc : ValkeyClusterAsyncContext Fn Data) (ac : Connection) :
    Except ClusterFault (ClusterAsyncState Fn Data) :=
  match ac.state.1 with
  | .idle => .ok (stack, acc.putConnection ac)
  | .callback resume => callBody world (.connection ac.id :: stack) (acc.putConnection ac) ac resume
  | .gone => do
      let acc ← acc.removeConnection ac
      return (stack, acc)
  | _ => .ok (.connection ac.id :: stack, acc.putConnection ac)

/-- A step or an event of `async.c` for a connection. -/
def drive (stack : List Activity) (acc : ValkeyClusterAsyncContext Fn Data) (ac : Connection)
    (event : AsyncEvent ClusterFn ClusterData) :
    Except ClusterFault (ClusterAsyncState Fn Data) := do
  let state ← ofConnection (asyncStep world.order ac.state event)
  settle world stack acc { ac with state := state }

/-! ## Calls -/

/-- A connection after `valkeyAsyncFree` or `valkeyAsyncDisconnect`, which is handled at once
if it is to be freed now. -/
def handled (stack : List Activity) (acc : ValkeyClusterAsyncContext Fn Data) (ac : Connection) :
    ClusterAsyncState Fn Data :=
  (if ac.state.1.runs then .connection ac.id :: stack else stack, acc.putConnection ac)

/-- `freeValkeyClusterNode` for the first of the nodes that wait to be freed. -/
def freeValkeyClusterNode (stack : List Activity) (acc : ValkeyClusterAsyncContext Fn Data) :
    Except ClusterFault (ClusterAsyncState Fn Data) :=
  match acc.retired with
  | [] => .ok (stack, acc)
  | ⟨_, none⟩ :: rest => .ok (stack, { acc with retired := rest })
  | ⟨_, some c⟩ :: rest => do
      let ac ← acc.connection c
      return handled stack { acc with retired := rest }
        (Connection.free world { ac with data := none })

/-- A connection is disconnected or freed by the user. -/
def closeConnection (stack : List Activity) (acc : ValkeyClusterAsyncContext Fn Data) (c : Nat)
    (close : Connection → Except ClusterFault Connection) :
    Except ClusterFault (ClusterAsyncState Fn Data) := do
  let ac ← acc.connection c
  let ac ← close ac
  return handled stack acc ac

/-- One turn of the loop of `valkeyClusterAsyncDisconnect`. -/
def disconnectNode (stack : List Activity) (acc : ValkeyClusterAsyncContext Fn Data) (node : Nat) :
    Except ClusterFault (ClusterAsyncState Fn Data) := do
  let known ← acc.asyncNode (.primary node)
  match known.acon with
  | none => return (stack, acc)
  | some c => closeConnection stack acc c (·.disconnect world)

/-- `valkeyClusterAsyncDisconnect`, up to its loop. -/
def valkeyClusterAsyncDisconnect (stack : List Activity) (acc : ValkeyClusterAsyncContext Fn Data) :
    Except ClusterFault (ClusterAsyncState Fn Data) :=
  if acc.life ≠ .alive then .error .usedAfterFree
  else
    .ok (.disconnect ((world.order.order acc.cc.nodes).map (·.id)) :: stack,
      { acc with disconnecting := true })

/-- The nodes of the client are released, and then the client is freed. -/
def valkeyClusterFree (stack : List Activity) (acc : ValkeyClusterAsyncContext Fn Data) :
    Except ClusterFault (ClusterAsyncState Fn Data) :=
  if acc.life ≠ .alive then .error .usedAfterFree
  else
    .ok (.release (owners acc.cc.nodes).length true :: stack,
      { acc with
        cc := { acc.cc with table := none, nodes := [] }
        retired := owners (world.order.order acc.cc.nodes) ++ acc.retired
        life := .closing })

/-- `valkeyClusterAsyncFree`. The user is told about it first. -/
def valkeyClusterAsyncFree (stack : List Activity) (acc : ValkeyClusterAsyncContext Fn Data) :
    Except ClusterFault (ClusterAsyncState Fn Data) :=
  if acc.life ≠ .alive then .error .usedAfterFree
  else
    let acc := { acc with disconnecting := true }
    if acc.eventCallback then .ok (.user .frees :: stack, acc)
    else valkeyClusterFree world stack acc

/-- All nodes of a dictionary have been freed. After an update of the slot map the user is
told about it. -/
def finishRelease (stack : List Activity) (acc : ValkeyClusterAsyncContext Fn Data) (last : Bool) :
    Except ClusterFault (ClusterAsyncState Fn Data) :=
  if acc.life = .freed then .error .usedAfterFree
  else if last then .ok (stack, { acc with life := .freed })
  else if acc.eventCallback then .ok (.user .returns :: stack, acc)
  else .ok (stack, acc)

/-- What follows a callback of the user. -/
def afterUser (stack : List Activity) (acc : ValkeyClusterAsyncContext Fn Data) :
    After → Except ClusterFault (ClusterAsyncState Fn Data)
  | .returns => .ok (stack, acc)
  | .finishes cad =>
      if acc.life = .freed then .error .usedAfterFree
      else .ok (stack, acc.clearError.freeRecord cad)
  | .frees => valkeyClusterFree world stack acc

/-! ## Steps -/

/-- What the user does, what the event library reports, and a step of the library. -/
inductive ClusterEvent (Fn Data : Type)
  | command (fn : Option Fn) (privdata : Data) (cmd : Bytes)
  | commandToNode (node : Addressee) (fn : Option Fn) (privdata : Data) (cmd : Bytes)
  | connect (node : Addressee)
  | disconnect
  | free
  | disconnectConnection (c : Nat)
  | freeConnection (c : Nat)
  | returns
  | readable (c : Nat) (outcome : ConnectOutcome) (input : Input)
  | writable (c : Nat) (outcome : ConnectOutcome) (output : Output)
  | timer (c : Nat)
  | proceed

/-- What the user calls. A client that is freed can not be used. -/
def userCall (stack : List Activity) (acc : ValkeyClusterAsyncContext Fn Data) :
    ClusterEvent Fn Data → Except ClusterFault (ClusterAsyncState Fn Data)
  | .command fn privdata cmd =>
      if acc.life = .freed then .error .usedAfterFree
      else do
        let (_, acc) ← valkeyClusterAsyncFormattedCommand world acc fn privdata cmd
        return (stack, acc)
  | .commandToNode node fn privdata cmd =>
      if acc.life = .freed then .error .usedAfterFree
      else do
        let (_, acc) ← valkeyClusterAsyncFormattedCommandToNode world acc node fn privdata cmd
        return (stack, acc)
  | .connect node =>
      if acc.life = .freed then .error .usedAfterFree
      else do
        let (_, acc) ← valkeyClusterGetValkeyAsyncContext world acc node
        return (stack, acc)
  | .disconnect => valkeyClusterAsyncDisconnect world stack acc
  | .free => valkeyClusterAsyncFree world stack acc
  | .disconnectConnection c => closeConnection stack acc c (·.disconnect world)
  | .freeConnection c => closeConnection stack acc c fun ac => .ok (ac.free world)
  | _ => .ok (stack, acc)

/-- An event of the event library. -/
def socketEvent (acc : ValkeyClusterAsyncContext Fn Data) (c : Nat)
    (event : AsyncEvent ClusterFn ClusterData) :
    Except ClusterFault (ClusterAsyncState Fn Data) := do
  let ac ← acc.connection c
  drive world [] acc ac event

/-- The library goes on. -/
def proceed (acc : ValkeyClusterAsyncContext Fn Data) :
    List Activity → Except ClusterFault (ClusterAsyncState Fn Data)
  | .connection c :: stack => do
      let ac ← acc.connection c
      drive world stack acc ac .proceed
  | .release 0 last :: stack => finishRelease stack acc last
  | .release (count + 1) last :: stack =>
      freeValkeyClusterNode world (.release count last :: stack) acc
  | .disconnect [] :: stack => .ok (stack, acc)
  | .disconnect (node :: rest) :: stack => disconnectNode world (.disconnect rest :: stack) acc node
  | stack => .ok (stack, acc)

/-- One event. The user can do something where the library waits for an event, and in a
callback. An event that can not happen now is ignored. -/
def clusterStep (state : ClusterAsyncState Fn Data) (event : ClusterEvent Fn Data) :
    Except ClusterFault (ClusterAsyncState Fn Data) :=
  let (stack, acc) := state
  match event, stack with
  | .proceed, stack => proceed world acc stack
  | .returns, .user after :: stack => afterUser world stack acc after
  | .returns, stack => .ok (stack, acc)
  | .readable c outcome input, [] => socketEvent world acc c (.readable outcome input)
  | .writable c outcome output, [] => socketEvent world acc c (.writable outcome output)
  | .timer c, [] => socketEvent world acc c .timer
  | event, [] => userCall world [] acc event
  | event, .user after :: stack => userCall world (.user after :: stack) acc event
  | _, stack => .ok (stack, acc)

def clusterRun : ClusterAsyncState Fn Data → List (ClusterEvent Fn Data) →
    Except ClusterFault (ClusterAsyncState Fn Data) :=
  Runs.run (clusterStep world)

/-- `valkeyClusterAsyncConnect`. A blocking update has been made, and its connections have
been closed. -/
def valkeyClusterAsyncConnect (acc : ValkeyClusterAsyncContext Fn Data) (blocking : Bool) :
    Except ClusterFault (ValkeyClusterAsyncContext Fn Data) :=
  if blocking then .ok acc
  else do
    let (_, acc) ← updateSlotMapAsync world acc none
    return acc

end Machine

end Libvalkey
