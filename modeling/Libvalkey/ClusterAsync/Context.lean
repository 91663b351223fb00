import Libvalkey.Async.Machine
import Libvalkey.Cluster.Calls

/-! # The asynchronous cluster client

Its nodes, its connections, each in a state of `async.c`, and the records of the
commands whose callbacks have not been run. The world tells the time, draws the random
numbers and answers the attempts to connect; allocations succeed. -/

namespace Libvalkey

/-! ## Connections -/

/-- The callbacks that the client registers with its connections. -/
inductive ClusterFn
  | selectReply
  | slotsReply
  | nodesReply
  | asyncCallback
  deriving DecidableEq, Repr

/-- What they are called with: `NULL`, the client, or a `cluster_async_data`. -/
inductive ClusterData
  | null
  | client
  | record (cad : Nat)
  deriving DecidableEq, Repr

/-- A `valkeyAsyncContext` with the address that it was made for. `data` is the node that
it belongs to. -/
structure Connection where
  id : Nat
  host : Bytes
  data : Option Addressee
  state : AsyncState ClusterFn ClusterData

/-- What happens to an attempt to connect: the error of `valkeyAsyncConnectWithOptions` or
of `tls_init_fn`, and whether the event library could be attached. -/
structure ConnectAttempt where
  failure : Option ContextError
  tls : Option ContextError
  attached : Bool

structure World where
  clock : Nat → Int
  random : Nat → Nat
  connect : Nat → ConnectAttempt
  order : IterationOrder

/-! ## The client -/

/-- `cluster_async_data`. There is no `retry_count` for `NO_RETRY`. -/
structure ClusterAsyncData (Fn Data : Type) where
  id : Nat
  command : Bytes
  callback : Option Fn
  privdata : Data
  retryCount : Option Nat

/-- `lastSlotmapUpdateAttempt`: a time, or `SLOTMAP_UPDATE_ONGOING`. -/
inductive UpdateAttempt
  | ongoing
  | time (usec : Int)
  deriving DecidableEq, Repr

/-- `SLOTMAP_UPDATE_THROTTLE_USEC` -/
def slotmapUpdateThrottleUsec : Int := 1000000

/-- A node of a dictionary that is being released, and its connection. -/
structure Owner where
  node : Addressee
  acon : Option Nat
  deriving DecidableEq, Repr

/-- The client is in use, its nodes are being released, or it is freed. -/
inductive Life
  | alive
  | closing
  | freed
  deriving DecidableEq, Repr

/-- A callback of the user that was run. -/
structure Delivery (Fn Data : Type) where
  record : Nat
  callback : Fn
  privdata : Data
  reply : Option ReplyTree

/-- `valkeyClusterAsyncContext`. `disconnecting` is a flag of `cc`. `records` are the
`cluster_async_data` that are not freed, `retired` the nodes that wait to be freed.
`accepted` lists the commands that were accepted, `resent` those that were sent again
and `deliveries` the callbacks that were run. -/
structure ValkeyClusterAsyncContext (Fn Data : Type) where
  cc : ValkeyClusterContext
  err : Option ErrorType
  disconnecting : Bool
  lastSlotmapUpdateAttempt : UpdateAttempt
  onConnect : Bool
  onDisconnect : Bool
  eventCallback : Bool
  hasTimer : Bool
  commandTimeout : Bool
  connections : List Connection
  records : List (ClusterAsyncData Fn Data)
  retired : List Owner
  life : Life
  nextConnection : Nat
  nextRecord : Nat
  ticks : Nat
  draws : Nat
  accepted : List Nat
  resent : List Nat
  deliveries : List (Delivery Fn Data)

/-- Undefined behaviour, or a failed assertion. -/
inductive ClusterFault
  | pointer (fault : Fault)
  | connection (fault : AsyncFault)
  | usedAfterFree
  | nullCall
  | divisionByZero
  deriving DecidableEq, Repr

variable {Fn Data : Type}

/-- A fault of the code that the two clients share. -/
def ofPointers {α : Type} : Except Fault α → Except ClusterFault α
  | .ok value => .ok value
  | .error fault => .error (.pointer fault)

/-- A fault of `async.c`. -/
def ofConnection {α : Type} : Except AsyncFault α → Except ClusterFault α
  | .ok value => .ok value
  | .error fault => .error (.connection fault)

/-! ## Nodes -/

/-- The nodes of a dictionary and their replicas, with their connections. -/
def ownersOf (node : ValkeyClusterNode ValkeyContext) : List Owner :=
  ⟨.primary node.id, node.acon⟩ ::
    node.replicas.mapIdx fun index replica => ⟨.replica node.id index, replica.acon⟩

def owners (nodes : List (ValkeyClusterNode ValkeyContext)) : List Owner := nodes.flatMap ownersOf

/-- A change of the connections of a node and its replicas. -/
def changeAcons (change : Owner → Option Nat) (node : ValkeyClusterNode ValkeyContext) :
    ValkeyClusterNode ValkeyContext :=
  { node with
    acon := change ⟨.primary node.id, node.acon⟩
    replicas := node.replicas.mapIdx fun index replica =>
      { replica with acon := change ⟨.replica node.id index, replica.acon⟩ } }

/-- `node->acon = acon` -/
def assignAcon (target : Addressee) (acon : Option Nat) (owner : Owner) : Option Nat :=
  if owner.node = target then acon else owner.acon

/-- `node->lastConnectionAttempt = time` -/
def assignAttempt (target : Addressee) (time : Int) (node : ValkeyClusterNode ValkeyContext) :
    ValkeyClusterNode ValkeyContext :=
  { node with
    lastConnectionAttempt := if target = .primary node.id then time else node.lastConnectionAttempt
    replicas := node.replicas.mapIdx fun index replica =>
      { replica with
        lastConnectionAttempt :=
          if target = .replica node.id index then time else replica.lastConnectionAttempt } }

/-- What is left of the old nodes in `cluster_nodes_swap_ctx`. -/
def swappedOut (old new : List (ValkeyClusterNode ValkeyContext)) :
    List (ValkeyClusterNode ValkeyContext) :=
  old.map fun node =>
    match findByAddr new node.addr with
    | none => node
    | some newNode => if node.acon.isSome then { node with acon := newNode.acon } else node

/-- `ac->data = node` for the connections that the new nodes took over. -/
def relink (new : List (ValkeyClusterNode ValkeyContext)) (ac : Connection) : Connection :=
  match new.find? fun node => node.acon == some ac.id with
  | some node => { ac with data := some (.primary node.id) }
  | none => ac

/-- A named node. -/
structure AsyncNode where
  host : Bytes
  port : Int
  acon : Option Nat

namespace ValkeyClusterAsyncContext

/-! ## Errors and time -/

/-- `valkeyClusterSetError(cc, ..)`, which leaves the error of the client as it is. -/
def ccSetError (acc : ValkeyClusterAsyncContext Fn Data) (type : ErrorType) (str : Bytes) :
    ValkeyClusterAsyncContext Fn Data :=
  { acc with cc := acc.cc.setError type str }

def clearError (acc : ValkeyClusterAsyncContext Fn Data) : ValkeyClusterAsyncContext Fn Data :=
  { acc with cc := acc.cc.clearError, err := none }

/-- `valkeyClusterAsyncSetError` -/
def setError (acc : ValkeyClusterAsyncContext Fn Data) (error : Option ContextError) :
    ValkeyClusterAsyncContext Fn Data :=
  match error with
  | some error => { acc with cc := acc.cc.setError error.type error.str, err := some error.type }
  | none => acc.clearError

/-- `valkeyClusterAsyncSetError(acc, cc->err, cc->errstr)` -/
def copyError (acc : ValkeyClusterAsyncContext Fn Data) : ValkeyClusterAsyncContext Fn Data :=
  { acc with err := acc.cc.err }

/-- One use of the clock. -/
def tick (acc : ValkeyClusterAsyncContext Fn Data) : ValkeyClusterAsyncContext Fn Data :=
  { acc with ticks := acc.ticks + 1 }

/-- `acc->lastSlotmapUpdateAttempt = vk_usec_now()` -/
def stampUpdate (world : World) (acc : ValkeyClusterAsyncContext Fn Data) :
    ValkeyClusterAsyncContext Fn Data :=
  { acc.tick with lastSlotmapUpdateAttempt := .time (world.clock acc.ticks) }

/-! ## Pointers -/

/-- The connection at an address, which has to be one of the client's. -/
def connection (acc : ValkeyClusterAsyncContext Fn Data) (c : Nat) :
    Except ClusterFault Connection :=
  match acc.connections.find? (·.id == c) with
  | some ac => .ok ac
  | none => .error (.pointer .danglingContext)

/-- Store the changes of a connection. -/
def putConnection (acc : ValkeyClusterAsyncContext Fn Data) (ac : Connection) :
    ValkeyClusterAsyncContext Fn Data :=
  { acc with connections := acc.connections.map fun other =>
    if other.id = ac.id then ac else other }

/-- The record at an address. -/
def findRecord (acc : ValkeyClusterAsyncContext Fn Data) (cad : Nat) :
    Option (ClusterAsyncData Fn Data) :=
  acc.records.find? (·.id == cad)

/-- `cluster_async_data_free` -/
def freeRecord (acc : ValkeyClusterAsyncContext Fn Data) (cad : Nat) :
    ValkeyClusterAsyncContext Fn Data :=
  { acc with records := acc.records.filter (·.id != cad) }

/-- A named node has to be one of the client's. -/
def asyncNode (acc : ValkeyClusterAsyncContext Fn Data) : Addressee → Except ClusterFault AsyncNode
  | .primary node =>
      match acc.cc.findNode node with
      | none => .error (.pointer .danglingNode)
      | some known => .ok ⟨known.host, known.port, known.acon⟩
  | .replica node index =>
      match acc.cc.findNode node with
      | none => .error (.pointer .danglingNode)
      | some known =>
          match known.replicas[index]? with
          | none => .error (.pointer .danglingNode)
          | some replica => .ok ⟨replica.host, replica.port, replica.acon⟩

/-- `node->acon = acon`, for a node of the dictionary or one that waits to be freed. -/
def setAcon (acc : ValkeyClusterAsyncContext Fn Data) (target : Addressee) (acon : Option Nat) :
    ValkeyClusterAsyncContext Fn Data :=
  { acc with
    cc := { acc.cc with nodes := acc.cc.nodes.map (changeAcons (assignAcon target acon)) }
    retired := acc.retired.map fun owner => { owner with acon := assignAcon target acon owner } }

/-- `node->lastConnectionAttempt = vk_usec_now()` -/
def stampConnect (world : World) (acc : ValkeyClusterAsyncContext Fn Data) (target : Addressee) :
    ValkeyClusterAsyncContext Fn Data :=
  { acc.tick with
    cc := { acc.cc with
      nodes := acc.cc.nodes.map (assignAttempt target (world.clock acc.ticks)) } }

/-- The nodes of the client and those that wait to be freed. -/
def allOwners (acc : ValkeyClusterAsyncContext Fn Data) : List Owner :=
  owners acc.cc.nodes ++ acc.retired

/-- `unlinkAsyncContextAndNode`, for a context that goes away. -/
def unlink (acc : ValkeyClusterAsyncContext Fn Data) :
    Option Addressee → Except ClusterFault (ValkeyClusterAsyncContext Fn Data)
  | none => .ok acc
  | some node =>
      if node ∈ acc.allOwners.map (·.node) then .ok (acc.setAcon node none)
      else .error (.pointer .danglingNode)

/-- A context is freed, after its `dataCleanup`. -/
def removeConnection (acc : ValkeyClusterAsyncContext Fn Data) (ac : Connection) :
    Except ClusterFault (ValkeyClusterAsyncContext Fn Data) := do
  let acc ← acc.unlink ac.data
  return { acc with connections := acc.connections.filter (·.id != ac.id) }

end ValkeyClusterAsyncContext

end Libvalkey
