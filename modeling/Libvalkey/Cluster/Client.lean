import Libvalkey.Cluster.SlotMap
import Libvalkey.Foundation.Checked

/-! # The synchronous cluster client

Connections, the update of the slot map and what they need of `valkey.c`. The
network answers every attempt with an `Outcome`; allocations succeed. -/

namespace Libvalkey

/-! ## Connections -/

/-- The commands that the client sends. A pipelined command has the number of the
call that appended it. -/
inductive Request
  | auth
  | select
  | asking
  | route
  | command (cmd : Bytes)
  | pipelined (index : Nat) (cmd : Bytes)
  deriving DecidableEq, Repr

/-- A reply and the command that the server answered with it. -/
structure Answer where
  request : Request
  reply : ReplyTree

/-- `err` and `errstr` of a context. -/
structure ContextError where
  type : ErrorType
  str : Bytes
  deriving DecidableEq, Repr

/-- `valkeyContext`. `obuf` are the commands in the output buffer, `unanswered` those
that were written and whose replies have not arrived, and `arrived` the replies in
the reader: the server answers in order. `session` tells when the connection was
established and `answered` what has been read from it since then. -/
structure ValkeyContext where
  id : Nat
  session : Nat
  err : Option ContextError
  host : Bytes
  obuf : List Request
  unanswered : List Request
  arrived : List Answer
  answered : List Answer

/-- What the network does with one attempt to connect, write or read. A read
brings replies or fails. -/
structure Outcome where
  connect : Option ContextError
  tls : Option ContextError
  write : Option ContextError
  replies : List ReplyTree
  failure : ContextError

/-- A command that was written, and what had been read from the connection by then. -/
structure Write where
  request : Request
  answered : List Answer

namespace ValkeyContext

/-- The commands whose replies can still be read: a lost connection brings no more of them. -/
def outstanding (c : ValkeyContext) : List Request :=
  c.arrived.map (·.request) ++ if c.err = none then c.unanswered ++ c.obuf else []

/-- A context that has just been connected. -/
def connected (id session : Nat) (host : Bytes) (outcome : Outcome) : ValkeyContext where
  id := id
  session := session
  err := outcome.connect
  host := host
  obuf := []
  unanswered := []
  arrived := []
  answered := []

/-- What `valkeyBufferWrite` writes. -/
def flushed (c : ValkeyContext) : List Write :=
  if c.err.isSome then [] else c.obuf.map fun request => ⟨request, c.answered⟩

/-- What `valkeyGetReply` writes before it reads. -/
def flushedToRead (c : ValkeyContext) : List Write :=
  if c.arrived.isEmpty then c.flushed else []

end ValkeyContext

/-- `valkeyReconnect` -/
def valkeyReconnect (session : Nat) (outcome : Outcome) (c : ValkeyContext) : ValkeyContext :=
  .connected c.id session c.host outcome

def valkeyAppendCommand (c : ValkeyContext) (request : Request) : ValkeyContext :=
  { c with obuf := c.obuf ++ [request] }

def valkeyBufferWrite (outcome : Outcome) (c : ValkeyContext) : Status × ValkeyContext :=
  if c.err.isSome then (.err, c)
  else
    match outcome.write with
    | some err => (.err, { c with err := some err })
    | none => (.ok, { c with obuf := [], unanswered := c.unanswered ++ c.obuf })

/-- Replies to the first of the unanswered commands. -/
def answers (unanswered : List Request) (replies : List ReplyTree) : List Answer :=
  List.zipWith Answer.mk unanswered replies

/-- A reply that is already in the reader is returned even if the context has an error. -/
def valkeyGetReply (outcome : Outcome) (c : ValkeyContext) : Option Answer × ValkeyContext :=
  match c.arrived with
  | first :: rest =>
      (some first, { c with arrived := rest, answered := c.answered ++ [first] })
  | [] =>
      match valkeyBufferWrite outcome c with
      | (.err, c) => (none, c)
      | (.ok, c) =>
          match answers c.unanswered outcome.replies with
          | [] => (none, { c with err := some outcome.failure })
          | first :: rest =>
              (some first,
                { c with
                  unanswered := c.unanswered.drop outcome.replies.length
                  arrived := rest
                  answered := c.answered ++ [first] })

/-! ## The client -/

/-- One reply has been read in place of the reply to `reader`. -/
structure Reading where
  reader : Request
  answer : Answer

/-- Where a pipelined command was sent: `slot_num` or `node_addr` of `cmd`. -/
inductive Target
  | slot (slot : Nat)
  | node (addr : Bytes)
  deriving DecidableEq, Repr

/-- An element of `requests`, with the session of the connection it was appended to. -/
structure Pipelined where
  index : Nat
  cmd : Bytes
  target : Target
  session : Nat

/-- `valkeyClusterContext`. `table` is `none` for `NULL`. `appended` counts the
pipelined commands and `outcomes` the outcomes that have been used. `writes` and
`readings` list the commands that have been written and the replies that have been read. -/
structure ValkeyClusterContext where
  err : Option ErrorType
  errstr : Bytes
  nodes : List (ValkeyClusterNode ValkeyContext)
  table : Option (List (Option Nat))
  routeVersion : Nat
  needUpdateRoute : Bool
  retryCount : Int
  maxRetryCount : Int
  addReplicas : Bool
  useClusterNodes : Bool
  username : Option Bytes
  password : Option Bytes
  selectDb : Int
  tls : Bool
  requests : List Pipelined
  nextNode : Nat
  nextContext : Nat
  appended : Nat
  outcomes : Nat
  writes : List Write
  readings : List Reading

/-- Undefined behaviour: the use of a node or a connection that is not one of
the client's, or a write outside the slot table. -/
inductive Fault
  | danglingNode
  | danglingContext
  | noTable
  | tableIndex (slot : Int)
  deriving DecidableEq, Repr

namespace ValkeyClusterContext

/-- `valkeyClusterSetError`. The text is cut to fit `errstr`. -/
def setError (cc : ValkeyClusterContext) (type : ErrorType) (str : Bytes) : ValkeyClusterContext :=
  { cc with err := some type, errstr := (cString str).take 127 }

/-- `valkeyClusterSetError` with the error of a context. -/
def setContextError (cc : ValkeyClusterContext) (c : ValkeyContext) : ValkeyClusterContext :=
  match c.err with
  | some err => cc.setError err.type err.str
  | none => { cc with err := none, errstr := [] }

def clearError (cc : ValkeyClusterContext) : ValkeyClusterContext :=
  { cc with err := none, errstr := [] }

def findNode (cc : ValkeyClusterContext) (node : Nat) :
    Option (ValkeyClusterNode ValkeyContext) :=
  cc.nodes.find? (·.id == node)

/-- The connections of the nodes and of their replicas. -/
def contexts (cc : ValkeyClusterContext) : List ValkeyContext := cc.nodes.flatMap (·.connections)

def findContext (cc : ValkeyClusterContext) (c : Nat) : Option ValkeyContext :=
  cc.contexts.find? (·.id == c)

/-- The node at an address, which has to be one of the nodes of the client. -/
def node (cc : ValkeyClusterContext) (node : Nat) :
    Except Fault (ValkeyClusterNode ValkeyContext) :=
  match cc.findNode node with
  | some node => .ok node
  | none => .error .danglingNode

/-- The connection at an address, which has to belong to one of the nodes. -/
def context (cc : ValkeyClusterContext) (c : Nat) : Except Fault ValkeyContext :=
  match cc.findContext c with
  | some c => .ok c
  | none => .error .danglingContext

/-- `node->con = con` -/
def setCon (cc : ValkeyClusterContext) (node : Nat) (con : Option ValkeyContext) :
    ValkeyClusterContext :=
  { cc with
    nodes := cc.nodes.map fun other =>
      if other.id = node then { other with con := con } else other }

/-- `node->con = con` for a replica. -/
def setReplicaCon (cc : ValkeyClusterContext) (node index : Nat) (con : Option ValkeyContext) :
    ValkeyClusterContext :=
  { cc with
    nodes := cc.nodes.map fun other =>
      if other.id = node then
        { other with
          replicas := other.replicas.modify index fun replica => { replica with con := con } }
      else other }

/-- Store the changes of a connection. -/
def putContext (cc : ValkeyClusterContext) (c : ValkeyContext) : ValkeyClusterContext :=
  { cc with
    nodes := cc.nodes.map (·.mapCon fun con => if con.id = c.id then c else con) }

/-- The use of one outcome. -/
def advance (cc : ValkeyClusterContext) : ValkeyClusterContext :=
  { cc with outcomes := cc.outcomes + 1 }

/-- What has been written. -/
def recordWrites (cc : ValkeyClusterContext) (writes : List Write) : ValkeyClusterContext :=
  { cc with writes := cc.writes ++ writes }

/-- What has been read in place of the reply to `reader`. -/
def record (cc : ValkeyClusterContext) (reader : Request) (answer : Option Answer) :
    ValkeyClusterContext :=
  match answer with
  | some answer => { cc with readings := cc.readings ++ [⟨reader, answer⟩] }
  | none => cc

/-- The use of one outcome to read a reply from a connection of a node. -/
def exchange (cc : ValkeyClusterContext) (before after : ValkeyContext) (reader : Request)
    (answer : Option Answer) : ValkeyClusterContext :=
  ((cc.advance.putContext after).recordWrites before.flushedToRead).record reader answer

end ValkeyClusterContext

section Client

variable (network : Nat → Outcome) (order : IterationOrder)

/-- `valkeyCommand` on a connection that may not belong to a node yet. -/
def valkeyCommand (cc : ValkeyClusterContext) (c : ValkeyContext) (request : Request) :
    Option Answer × ValkeyContext × ValkeyClusterContext :=
  let c := valkeyAppendCommand c request
  let (answer, next) := valkeyGetReply (network cc.outcomes) c
  (answer, next, (cc.advance.recordWrites c.flushedToRead).record request answer)

/-- What `authenticate` and `select_db` do with the reply to their command. -/
def checkReply (cc : ValkeyClusterContext) (c : ValkeyContext) (request : Request)
    (noReply : Bytes) : Status × ValkeyContext × ValkeyClusterContext :=
  match valkeyCommand network cc c request with
  | (none, c, cc) => (.err, c, cc.setError .other noReply)
  | (some answer, c, cc) =>
      match answer.reply with
      | .error str => (.err, c, cc.setError .other str)
      | _ => (.ok, c, cc)

def authenticate (cc : ValkeyClusterContext) (c : ValkeyContext) :
    Status × ValkeyContext × ValkeyClusterContext :=
  match cc.password with
  | none => (.ok, c, cc)
  | some _ => checkReply network cc c .auth (ascii "Command AUTH reply error (NULL)")

def select_db (cc : ValkeyClusterContext) (c : ValkeyContext) :
    Status × ValkeyContext × ValkeyClusterContext :=
  if cc.selectDb = 0 then (.ok, c, cc)
  else checkReply network cc c .select (ascii "Failed to select logical database")

/-- `tls_init_fn`, where TLS is configured. -/
def initTls (cc : ValkeyClusterContext) (c : ValkeyContext) :
    Status × ValkeyContext × ValkeyClusterContext :=
  if cc.tls then
    match (network cc.outcomes).tls with
    | none => (.ok, c, cc.advance)
    | some err => (.err, { c with err := some err }, cc.advance.setError err.type err.str)
  else (.ok, c, cc)

/-- The part of `valkeyClusterGetValkeyContext` for a connection with an error.
The outcomes of the handshake are ignored. -/
def reconnect (cc : ValkeyClusterContext) (c : ValkeyContext) :
    ValkeyContext × ValkeyClusterContext :=
  let c := valkeyReconnect cc.outcomes (network cc.outcomes) c
  let (_, c, cc) := initTls network cc.advance c
  let (_, c, cc) := authenticate network cc c
  let (_, c, cc) := select_db network cc c
  (c, cc)

/-- The part of `valkeyClusterGetValkeyContext` that makes a connection, or frees
it again when a step fails. -/
def connectNode (cc : ValkeyClusterContext) (host : Bytes) :
    Option ValkeyContext × ValkeyClusterContext :=
  let c := ValkeyContext.connected cc.nextContext cc.outcomes host (network cc.outcomes)
  let cc := { cc.advance with nextContext := cc.nextContext + 1 }
  if c.err.isSome then (none, cc.setContextError c)
  else
    match initTls network cc c with
    | (.err, _, cc) => (none, cc)
    | (.ok, c, cc) =>
        match authenticate network cc c with
        | (.err, _, cc) => (none, cc)
        | (.ok, c, cc) =>
            match select_db network cc c with
            | (.err, _, cc) => (none, cc)
            | (.ok, c, cc) => (some c, cc)

/-- The body of `valkeyClusterGetValkeyContext`, which stores a new connection. -/
def getContext (cc : ValkeyClusterContext) (host : Bytes) (port : Int) (con : Option ValkeyContext)
    (store : ValkeyClusterContext → ValkeyContext → ValkeyClusterContext) :
    Option ValkeyContext × ValkeyClusterContext :=
  match con with
  | some c =>
      if c.err.isSome then
        let (c, cc) := reconnect network cc c
        (some c, cc.putContext c)
      else (some c, cc)
  | none =>
      if port ≤ 0 then (none, cc)
      else
        match connectNode network cc host with
        | (none, cc) => (none, cc)
        | (some c, cc) => (some c, store cc c)

def valkeyClusterGetValkeyContext (cc : ValkeyClusterContext) (node : Nat) :
    Except Fault (Option ValkeyContext × ValkeyClusterContext) := do
  let known ← cc.node node
  return getContext network cc known.host known.port known.con
    fun cc c => cc.setCon node (some c)

/-! ## The slot map -/

def clusterUpdateRouteSendCommand (cc : ValkeyClusterContext) (c : Nat) :
    Except Fault (Status × ValkeyClusterContext) := do
  let con ← cc.context c
  let con := valkeyAppendCommand con .route
  let (status, next) := valkeyBufferWrite (network cc.outcomes) con
  let cc := (cc.advance.putContext next).recordWrites con.flushed
  match status with
  | .ok => return (.ok, cc)
  | .err => return (.err, cc.setContextError next)

/-- The nodes of the reply to a route query. -/
def parseRouteReply (cc : ValkeyClusterContext) (host : Bytes) (reply : ReplyTree) :
    Except String (List (ValkeyClusterNode ValkeyContext)) :=
  if cc.useClusterNodes then parse_cluster_nodes cc.addReplicas host cc.nextNode reply
  else parse_cluster_slots cc.addReplicas host cc.nextNode reply

/-- The new nodes and their table take the place of the old ones, which are freed with
the connections that they still have. -/
def ValkeyClusterContext.replaceNodes (cc : ValkeyClusterContext) (table : List (Option Nat))
    (nodes : List (ValkeyClusterNode ValkeyContext)) : ValkeyClusterContext :=
  { cc with
    table := some table
    routeVersion := cc.routeVersion + 1
    nodes := cluster_nodes_swap_ctx cc.nodes nodes
    nextNode := cc.nextNode + nodes.length
    needUpdateRoute := false }

/-- `allocated` tells whether there was memory for the table. -/
def updateNodesAndSlotmap (allocated : Bool) (cc : ValkeyClusterContext)
    (nodes : List (ValkeyClusterNode ValkeyContext)) : Status × ValkeyClusterContext :=
  if ¬allocated then (.err, cc.setError .oom (ascii "Out of memory"))
  else
    match createTable order nodes with
    | .error message => (.err, cc.setError .other (ascii message))
    | .ok table => (.ok, cc.replaceNodes table nodes)

def clusterUpdateRouteHandleReply (cc : ValkeyClusterContext) (c : Nat) :
    Except Fault (Status × ValkeyClusterContext) := do
  let con ← cc.context c
  let (answer, next) := valkeyGetReply (network cc.outcomes) con
  let cc := cc.exchange con next .route answer
  match answer with
  | none => return (.err, cc.setContextError next)
  | some answer =>
      match answer.reply with
      | .error str => return (.err, cc.setError .other str)
      | reply =>
          match parseRouteReply cc next.host reply with
          | .error message => return (.err, cc.setError .other (ascii message))
          | .ok nodes => return updateNodesAndSlotmap order true cc nodes

/-- The query and its reply in `valkeyClusterUpdateSlotmap`. -/
def queryRoute (cc : ValkeyClusterContext) (c : Nat) :
    Except Fault (Status × ValkeyClusterContext) := do
  let (status, cc) ← clusterUpdateRouteSendCommand network cc c
  match status with
  | .err => return (.err, cc)
  | .ok => clusterUpdateRouteHandleReply network order cc c

/-- The loop of `valkeyClusterUpdateSlotmap` over the nodes. -/
def updateSlotmapFrom (cc : ValkeyClusterContext) : List Nat →
    Except Fault (Status × ValkeyClusterContext)
  | [] => .ok (.err, cc)
  | node :: rest => do
      let (con, cc) ← valkeyClusterGetValkeyContext network cc node
      match con with
      | none => updateSlotmapFrom cc rest
      | some c =>
          let (status, cc) ← queryRoute network order cc c.id
          match status with
          | .ok => return (.ok, cc.clearError)
          | .err => updateSlotmapFrom (cc.setCon node none) rest

def valkeyClusterUpdateSlotmap (cc : ValkeyClusterContext) :
    Except Fault (Status × ValkeyClusterContext) :=
  updateSlotmapFrom network order cc ((order.order cc.nodes).map (·.id))

end Client

end Libvalkey
