import Libvalkey.Cluster.Execute
import Libvalkey.Cluster.KeySlot
import Libvalkey.Command.Parse

/-! # The calls of the synchronous client

How a command is prepared for the executor, the calls that append commands and
read their replies later, and the runs of a client that makes any of them. -/

namespace Libvalkey

/-- The command with its slot, or the client with the error. -/
def prepareCommand (cc : ValkeyClusterContext) (cmd : Bytes) :
    Except ValkeyClusterContext Command :=
  if cmd.length = 0 then .error cc
  else
    match valkey_parse_cmd cmd with
    | .error errstr => .error (cc.setError .protocol errstr)
    | .ok none | .ok (some []) =>
        .error (cc.setError .other
          (ascii "No keys in command(must have keys for valkey cluster mode)"))
    | .ok (some key) => .ok ⟨keyHashSlot key, cmd⟩

/-- A node that the user names: one of the dictionary, or a replica of one. -/
inductive Addressee
  | primary (node : Nat)
  | replica (node index : Nat)
  deriving DecidableEq, Repr

/-- The fields of a named node. -/
structure Addressed where
  addr : Bytes
  host : Bytes
  port : Int
  con : Option ValkeyContext

namespace ValkeyClusterContext

/-- A named node has to be one of the client's. -/
def addressed (cc : ValkeyClusterContext) : Addressee → Except Fault Addressed
  | .primary node => do
      let known ← cc.node node
      return ⟨known.addr, known.host, known.port, known.con⟩
  | .replica node index => do
      let known ← cc.node node
      match known.replicas[index]? with
      | none => .error .danglingNode
      | some replica => return ⟨replica.addr, replica.host, replica.port, replica.con⟩

/-- `node->con = c` for a named node. -/
def storeCon (cc : ValkeyClusterContext) (addressee : Addressee) (c : ValkeyContext) :
    ValkeyClusterContext :=
  match addressee with
  | .primary node => cc.setCon node (some c)
  | .replica node index => cc.setReplicaCon node index (some c)

/-- A command is appended to a connection and remembered. -/
def appendRequest (cc : ValkeyClusterContext) (c : ValkeyContext) (cmd : Bytes) (target : Target) :
    ValkeyClusterContext :=
  { cc.putContext (valkeyAppendCommand c (.pipelined cc.appended cmd)) with
    requests := cc.requests ++ [⟨cc.appended, cmd, target, c.session⟩]
    appended := cc.appended + 1 }

/-- `valkeyClusterClearAll` -/
def clearAll (cc : ValkeyClusterContext) : ValkeyClusterContext :=
  { cc.clearError with nodes := cc.nodes.map fun node => { node with con := none } }

/-- The choice to update the slot map after errors of a connection. -/
def countFailure (cc : ValkeyClusterContext) : ValkeyClusterContext :=
  if cc.needUpdateRoute then cc
  else if cc.retryCount + 1 > cc.maxRetryCount then
    { cc with retryCount := 0, needUpdateRoute := true }
  else { cc with retryCount := cc.retryCount + 1 }

end ValkeyClusterContext

section Calls

variable (network : Nat → Outcome) (order : IterationOrder)

/-- `valkeyClusterGetValkeyContext` for a named node, with the address of the node. -/
def contextOf (cc : ValkeyClusterContext) (addressee : Addressee) :
    Except Fault (Bytes × Option ValkeyContext × ValkeyClusterContext) := do
  let known ← cc.addressed addressee
  return (known.addr, getContext network cc known.host known.port known.con
    fun cc c => cc.storeCon addressee c)

/-! ## Pipelines -/

/-- `valkeyClusterAppendFormattedCommand` with `valkeyClusterAppendCommandInternal`. -/
def valkeyClusterAppendFormattedCommand (cc : ValkeyClusterContext) (cmd : Bytes) :
    Except Fault (Status × ValkeyClusterContext) :=
  match prepareCommand cc cmd with
  | .error cc => .ok (.err, cc)
  | .ok command =>
      match node_get_by_table cc command.slot with
      | (none, cc) => .ok (.err, cc)
      | (some node, cc) => do
          let (con, cc) ← valkeyClusterGetValkeyContext network cc node
          match con with
          | none => return (.err, cc)
          | some c =>
              if c.err.isSome then return (.err, cc.setContextError c)
              else return (.ok, cc.appendRequest c cmd (.slot command.slot))

/-- `formatted` is `none` for a format that is not valid. -/
def valkeyClusterAppendCommandToNode (cc : ValkeyClusterContext) (addressee : Addressee)
    (formatted : Option Bytes) : Except Fault (Status × ValkeyClusterContext) := do
  let (addr, con, cc) ← contextOf network cc addressee
  match con, formatted with
  | none, _ => return (.err, cc)
  | some c, formatted =>
      if c.err.isSome then return (.err, cc.setContextError c)
      else
        match formatted with
        | none => return (.err, cc.setError .other (ascii "Invalid format string"))
        | some cmd => return (.ok, cc.appendRequest c cmd (.node addr))

def valkeyClusterGetReplyFromNode (cc : ValkeyClusterContext) (con : Option ValkeyContext)
    (request : Pipelined) : Status × Option Answer × ValkeyClusterContext :=
  match con with
  | none => (.err, none, cc)
  | some c =>
      if c.err.isSome then (.err, none, cc.countFailure.setContextError c)
      else
        let (answer, next) := valkeyGetReply (network cc.outcomes) c
        let cc := cc.exchange c next (.pipelined request.index request.cmd) answer
        match answer with
        | none => (.err, none, cc.setContextError next)
        | some answer =>
            (.ok, some answer,
              if getReplyErrorType answer.reply = .moved then { cc with needUpdateRoute := true }
              else cc)

def valkeyClusterGetReply (cc : ValkeyClusterContext) :
    Except Fault (Status × Option Answer × ValkeyClusterContext) :=
  match cc.clearError.requests with
  | [] => .ok (.ok, none, cc.clearError)
  | request :: rest =>
      let cc := { cc.clearError with requests := rest }
      match request.target with
      | .slot slot =>
          match node_get_by_table cc slot with
          | (none, cc) => .ok (.err, none, cc)
          | (some node, cc) => do
              let known ← cc.node node
              return valkeyClusterGetReplyFromNode network cc known.con request
      | .node addr =>
          match findByAddr cc.nodes addr with
          | none =>
              .ok (.err, none, cc.setError .other (ascii "command was sent to a now unknown node"))
          | some known => .ok (valkeyClusterGetReplyFromNode network cc known.con request)

/-- `valkeyClusterSendAll`. Its status is not used. -/
def valkeyClusterSendAll (cc : ValkeyClusterContext) :
    List Nat → Except Fault ValkeyClusterContext
  | [] => .ok cc
  | node :: rest => do
      let (con, cc) ← valkeyClusterGetValkeyContext network cc node
      match con with
      | none => valkeyClusterSendAll cc rest
      | some c =>
          let (status, next) := valkeyBufferWrite (network cc.outcomes) c
          let cc := (cc.advance.putContext next).recordWrites c.flushed
          match status with
          | .ok => valkeyClusterSendAll cc rest
          | .err => return cc

/-- The loop of `valkeyClusterReset` that reads the replies. -/
def readReplies (cc : ValkeyClusterContext) : Nat → Except Fault ValkeyClusterContext
  | 0 => .ok cc
  | count + 1 => do
      let (status, answer, cc) ← valkeyClusterGetReply network cc
      match status, answer with
      | .err, _ => return cc.clearAll
      | .ok, none => return cc
      | .ok, some _ => readReplies cc count

/-- The part of `valkeyClusterReset` for the requests. Every call of the loop takes
one of them, and the last call finds none. -/
def resetRequests (cc : ValkeyClusterContext) : Except Fault ValkeyClusterContext :=
  if cc.err.isSome then .ok cc.clearAll
  else do
    let cc ← valkeyClusterSendAll network cc ((order.order cc.nodes).map (·.id))
    readReplies network cc (cc.requests.length + 1)

def valkeyClusterReset (cc : ValkeyClusterContext) : Except Fault ValkeyClusterContext := do
  let cc ← resetRequests network order cc
  let cc := { cc with requests := [] }
  if cc.needUpdateRoute then
    let (status, cc) ← valkeyClusterUpdateSlotmap network order cc
    match status with
    | .err => return cc
    | .ok => return { cc with needUpdateRoute := false }
  else return cc

/-! ## A command to a node -/

/-- What `valkeyvAppendCommand` does with a format that is not valid. -/
def formatError (c : ValkeyContext) : ValkeyContext :=
  { c with err := some ⟨.other, ascii "Invalid format string"⟩ }

/-- The deferred update in `valkeyClustervCommandToNode`, whose error is ignored. -/
def finishUpdate (cc : ValkeyClusterContext) (c : Nat) (updating : Bool) :
    Except Fault ValkeyClusterContext :=
  if updating then do
    let (status, cc) ← clusterUpdateRouteHandleReply network order cc c
    match status with
    | .ok => return cc
    | .err => return cc.clearError
  else .ok cc

/-- `valkeyClustervCommandToNode` -/
def valkeyClusterCommandToNode (cc : ValkeyClusterContext) (addressee : Addressee)
    (formatted : Option Bytes) : Except Fault (Option Answer × ValkeyClusterContext) := do
  let (_, con, cc) ← contextOf network cc addressee
  match con with
  | none => return (none, cc)
  | some c =>
      if c.err.isSome then return (none, cc.setContextError c)
      else
        let cc := cc.clearError
        match formatted with
        | none =>
            return (none, (cc.putContext (formatError c)).setContextError (formatError c))
        | some cmd => do
            let cc := cc.putContext (valkeyAppendCommand c (.command cmd))
            let (status, cc) ← scheduledUpdate network cc none c.id
            let con ← cc.context c.id
            let (answer, next) := valkeyGetReply (network cc.outcomes) con
            let cc := cc.exchange con next (.command cmd) answer
            match answer with
            | none =>
                let cc := cc.setContextError next
                return (none, scheduleUpdate cc)
            | some answer => do
                let cc ← finishUpdate network order cc c.id (status == .ok)
                return (some answer, cc)

/-! ## Runs -/

/-- The calls of the user. -/
inductive Call
  | command (cmd : Bytes)
  | commandToNode (addressee : Addressee) (formatted : Option Bytes)
  | append (cmd : Bytes)
  | appendToNode (addressee : Addressee) (formatted : Option Bytes)
  | getReply
  | updateSlotmap
  | reset
  deriving DecidableEq, Repr

/-- A client between two calls or while the executor is running. -/
inductive Client
  | idle (cc : ValkeyClusterContext)
  | executing (command : Command) (state : ExecutorState)

def Client.cc : Client → ValkeyClusterContext
  | .idle cc => cc
  | .executing _ state => state.2.cc

/-- A call, of which `valkeyClusterFormattedCommand` only starts the executor. -/
def makeCall (cc : ValkeyClusterContext) : Call → Except Fault Client
  | .command cmd =>
      match prepareCommand cc.clearError cmd with
      | .error cc => .ok (.idle { cc with retryCount := 0 })
      | .ok command => .ok (.executing command (executorStart cc.clearError))
  | .commandToNode addressee formatted => do
      let (_, cc) ← valkeyClusterCommandToNode network order cc addressee formatted
      return .idle cc
  | .append cmd => do
      let (_, cc) ← valkeyClusterAppendFormattedCommand network cc cmd
      return .idle cc
  | .appendToNode addressee formatted => do
      let (_, cc) ← valkeyClusterAppendCommandToNode network cc addressee formatted
      return .idle cc
  | .getReply => do
      let (_, _, cc) ← valkeyClusterGetReply network cc
      return .idle cc
  | .updateSlotmap => do
      let (_, cc) ← valkeyClusterUpdateSlotmap network order cc
      return .idle cc
  | .reset => do
      let cc ← valkeyClusterReset network order cc
      return .idle cc

/-- The executor goes on until it returns, before another call is made. -/
def clientStep (call : Call) : Client → Except Fault Client
  | .idle cc => makeCall network order cc call
  | .executing _ (.returned, s) => .ok (.idle { s.cc with retryCount := 0 })
  | .executing command state => do
      let next ← executorStep network order command state
      return .executing command next

/-- The states of a client whose steps are all taken in states that meet a condition. -/
inductive ClientRun (condition : Call → Client → Prop) (start : Client) : Client → Prop
  | start : ClientRun condition start start
  | step {client next : Client} (run : ClientRun condition start client) (call : Call)
      (meets : condition call client) (step : clientStep network order call client = .ok next) :
      ClientRun condition start next

/-- A property that every step keeps holds in every state of a run. -/
theorem ClientRun.invariant (holds : Client → Prop) {condition : Call → Client → Prop}
    {allowed : Fault → Prop} {start client : Client}
    (run : ClientRun network order condition start client) (first : holds start)
    (keeps : ∀ call client, holds client → condition call client →
      Checked.Ensures (clientStep network order call client) allowed holds) : holds client := by
  induction run with
  | start => exact first
  | step run call meets step held => exact (keeps call _ held meets).of_ok step

end Calls

end Libvalkey
