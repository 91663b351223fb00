import Libvalkey.Cluster.Client

/-! # The synchronous executor

`valkey_cluster_command_execute` as a machine that goes from label to label. A
label holds the pointers that the code still has in its variables there. -/

namespace Libvalkey

/-- The labels of the executor, and the points between them at which it calls the
slot-map update or looks at the reply. -/
inductive Label
  | retry
  | updateUnserved
  | connect (node : Nat)
  | updateUnreachable
  | movedRetry (c : Nat)
  | replied (c : Nat)
  | moved (c : Nat)
  | movedUpdate (node : Nat)
  | movedConnect (node : Nat)
  | ask (c : Nat)
  | asking (c : Nat)
  | error
  | done
  | returned
  deriving DecidableEq, Repr

/-- `updating` is `c_updating_route`. -/
structure Executor where
  cc : ValkeyClusterContext
  updating : Option Nat
  reply : Option Answer

structure Command where
  slot : Nat
  cmd : Bytes
  deriving DecidableEq, Repr

abbrev ExecutorState := Label × Executor

/-- The start of a call. -/
def executorStart (cc : ValkeyClusterContext) : ExecutorState :=
  (.retry, { cc := cc, updating := none, reply := none })

def node_get_by_table (cc : ValkeyClusterContext) (slot : Nat) :
    Option Nat × ValkeyClusterContext :=
  if slot ≥ valkeyClusterSlots then (none, cc.setError .other (ascii "invalid slot"))
  else
    match cc.table with
    | none => (none, cc.setError .other (ascii "slotmap not available"))
    | some table =>
        match table.getD slot none with
        | none => (none, cc.setError .other (ascii "slot not served by any node"))
        | some node => (some node, cc)

/-- `cc->table[slot] = node` -/
def setTable (cc : ValkeyClusterContext) (slot : Int) (node : Nat) :
    Except Fault ValkeyClusterContext :=
  match cc.table with
  | none => .error .noTable
  | some table =>
      if slot < valkeyClusterSlots then .ok { cc with table := some (table.set slot.toNat (some node)) }
      else .error (.tableIndex slot)

/-- Update the slot mapping entry for the slot of a redirect. -/
def updateSlot (cc : ValkeyClusterContext) (slot : Int) (node : Nat) :
    Except Fault ValkeyClusterContext :=
  if slot ≥ 0 then setTable cc slot node else .ok cc

/-- `dictAdd` of a new node. -/
def ValkeyClusterContext.addNode (cc : ValkeyClusterContext) (redirect : Redirect) :
    ValkeyClusterContext :=
  { cc with
    nodes := cc.nodes ++ [redirectNode cc.nextNode redirect]
    nextNode := cc.nextNode + 1 }

/-- The node that a redirect names, which is added if it is not known. -/
def getNodeFromRedirectReply (cc : ValkeyClusterContext) (c : Nat) (str : Bytes) :
    Except Fault (Option (Nat × Int) × ValkeyClusterContext) := do
  let con ← cc.context c
  match parseRedirect con.host str with
  | .error message => return (none, cc.setError .other (ascii message))
  | .ok redirect =>
      match findByAddr cc.nodes redirect.key with
      | some node => return (some (node.id, redirect.slot), cc)
      | none =>
          return (some (cc.nextNode, redirect.slot), cc.addNode redirect)

/-- The text of an error reply. -/
def replyText : ReplyTree → Bytes
  | .error str => str
  | _ => []

section Executor

variable (network : Nat → Outcome) (order : IterationOrder) (command : Command)

/-- A connection that can be used, or the `error` label. -/
def useConnection (s : Executor) (con : Option ValkeyContext) (next : Nat → Label) :
    ExecutorState :=
  match con with
  | none => (.error, s)
  | some c =>
      if c.err.isSome then (.error, { s with cc := s.cc.setContextError c })
      else (next c.id, s)

def retryStep (s : Executor) : Except Fault ExecutorState :=
  match node_get_by_table s.cc command.slot with
  | (none, cc) => .ok (.updateUnserved, { s with cc := cc })
  | (some node, cc) => .ok (.connect node, { s with cc := cc })

/-- Update the slotmap since the slot is not served. -/
def updateUnservedStep (s : Executor) : Except Fault ExecutorState := do
  let (status, cc) ← valkeyClusterUpdateSlotmap network order s.cc
  match status with
  | .err => return (.error, { s with cc := cc })
  | .ok =>
      match node_get_by_table cc command.slot with
      | (none, cc) => return (.error, { s with cc := cc })
      | (some node, cc) => return (.connect node, { s with cc := cc })

def connectStep (s : Executor) (node : Nat) : Except Fault ExecutorState := do
  let (con, cc) ← valkeyClusterGetValkeyContext network s.cc node
  match con with
  | none => return (.updateUnreachable, { s with cc := cc })
  | some c =>
      if c.err.isSome then return (.updateUnreachable, { s with cc := cc })
      else return (.movedRetry c.id, { s with cc := cc })

/-- Update the slotmap since the node may be gone. -/
def updateUnreachableStep (s : Executor) : Except Fault ExecutorState := do
  let (status, cc) ← valkeyClusterUpdateSlotmap network order s.cc
  match status with
  | .err => return (.error, { s with cc := cc })
  | .ok =>
      match node_get_by_table cc command.slot with
      | (none, cc) => return (.error, { s with cc := cc })
      | (some node, cc) => do
          let (con, cc) ← valkeyClusterGetValkeyContext network cc node
          return useConnection { s with cc := cc } con .movedRetry

/-- If update slotmap has been scheduled, do that in the same pipeline. -/
def scheduledUpdate (cc : ValkeyClusterContext) (updating : Option Nat) (c : Nat) :
    Except Fault (Status × ValkeyClusterContext) :=
  if cc.needUpdateRoute ∧ updating = none then clusterUpdateRouteSendCommand network cc c
  else .ok (.err, cc)

/-- An update is scheduled for later, unless memory ran out. -/
def scheduleUpdate (cc : ValkeyClusterContext) : ValkeyClusterContext :=
  if cc.err ≠ some .oom then { cc with needUpdateRoute := true } else cc

/-- `moved_retry` and `ask_retry`, up to the reply. -/
def movedRetryStep (s : Executor) (c : Nat) : Except Fault ExecutorState := do
  let con ← s.cc.context c
  let cc := s.cc.putContext (valkeyAppendCommand con (.command command.cmd))
  let (status, cc) ← scheduledUpdate network cc s.updating c
  let updating := if status = .ok then some c else s.updating
  let con ← cc.context c
  let (answer, next) := valkeyGetReply (network cc.outcomes) con
  let cc := cc.exchange con next (.command command.cmd) answer
  match answer with
  | some answer => return (.replied c, { cc := cc, updating := updating, reply := some answer })
  | none =>
      let cc := scheduleUpdate (cc.setContextError next)
      return (.error, { cc := cc, updating := updating, reply := none })

/-- The dispatch on the type of the reply. -/
def repliedStep (s : Executor) (c : Nat) : Except Fault ExecutorState :=
  match s.reply with
  | none => .ok (.done, s)
  | some answer =>
      let type := getReplyErrorType answer.reply
      if type = .noError ∨ type = .other then .ok (.done, s)
      else
        let cc := { s.cc with retryCount := s.cc.retryCount + 1 }
        if cc.retryCount > cc.maxRetryCount then
          .ok (.error,
            { s with cc := cc.setError .clusterTooManyRetries (ascii "too many cluster retries") })
        else
          match type with
          | .moved => .ok (.moved c, { s with cc := cc })
          | .ask => .ok (.ask c, { s with cc := cc })
          | _ => .ok (.retry, { s with cc := cc, reply := none })

/-- The text of the reply that the executor holds. -/
def Executor.text (s : Executor) : Bytes :=
  match s.reply with
  | some answer => replyText answer.reply
  | none => []

def movedStep (s : Executor) (c : Nat) : Except Fault ExecutorState := do
  let (target, cc) ← getNodeFromRedirectReply s.cc c s.text
  match target with
  | none => return (.error, { s with cc := cc, reply := none })
  | some (node, slot) => do
      let cc ← updateSlot cc slot node
      let s := { s with cc := cc, reply := none }
      if s.updating.isSome then return (.movedConnect node, s)
      else
        let (status, cc) ← clusterUpdateRouteSendCommand network cc c
        match status with
        | .ok => return (.movedConnect node, { s with cc := cc, updating := some c })
        | .err => return (.movedUpdate node, { s with cc := cc })

/-- Synchronous update of the route, while the node of the redirect is kept. -/
def movedUpdateStep (s : Executor) (node : Nat) : Except Fault ExecutorState := do
  let (status, cc) ← valkeyClusterUpdateSlotmap network order s.cc
  match status with
  | .ok => return (.movedConnect node, { s with cc := cc.clearError })
  | .err => return (.error, { s with cc := cc })

def movedConnectStep (s : Executor) (node : Nat) : Except Fault ExecutorState := do
  let (con, cc) ← valkeyClusterGetValkeyContext network s.cc node
  return useConnection { s with cc := cc } con .movedRetry

def askStep (s : Executor) (c : Nat) : Except Fault ExecutorState := do
  let (target, cc) ← getNodeFromRedirectReply s.cc c s.text
  match target with
  | none => return (.error, { s with cc := cc })
  | some (node, _) => do
      let (con, cc) ← valkeyClusterGetValkeyContext network cc node
      return useConnection { s with cc := cc, reply := none } con .asking

def askingStep (s : Executor) (c : Nat) : Except Fault ExecutorState := do
  let con ← s.cc.context c
  let (answer, con, cc) := valkeyCommand network s.cc con .asking
  let cc := cc.putContext con
  match answer with
  | none => return (.error, { s with cc := cc.setContextError con })
  | some _ => return (.movedRetry c, { s with cc := cc })

def errorStep (s : Executor) : Except Fault ExecutorState := .ok (.done, { s with reply := none })

def doneStep (s : Executor) : Except Fault ExecutorState :=
  match s.updating with
  | none => .ok (.returned, s)
  | some c => do
      let (status, cc) ← clusterUpdateRouteHandleReply network order s.cc c
      match status with
      | .ok => return (.returned, { s with cc := cc, updating := none })
      | .err => do
          -- Clear error and update synchronously using another node.
          let (status, cc) ← valkeyClusterUpdateSlotmap network order cc.clearError
          match status with
          | .ok => return (.returned, { s with cc := cc, updating := none })
          | .err => return (.returned, { cc := cc, updating := none, reply := none })

def executorStep : ExecutorState → Except Fault ExecutorState
  | (.retry, s) => retryStep command s
  | (.updateUnserved, s) => updateUnservedStep network order command s
  | (.connect node, s) => connectStep network s node
  | (.updateUnreachable, s) => updateUnreachableStep network order command s
  | (.movedRetry c, s) => movedRetryStep network command s c
  | (.replied c, s) => repliedStep s c
  | (.moved c, s) => movedStep network s c
  | (.movedUpdate node, s) => movedUpdateStep network order s node
  | (.movedConnect node, s) => movedConnectStep network s node
  | (.ask c, s) => askStep network s c
  | (.asking c, s) => askingStep network s c
  | (.error, s) => errorStep s
  | (.done, s) => doneStep network order s
  | (.returned, s) => .ok (.returned, s)

/-- The states of a call whose steps are all taken in states that meet a condition. -/
inductive ExecutorRun (condition : ExecutorState → Prop) (start : ExecutorState) :
    ExecutorState → Prop
  | start : ExecutorRun condition start start
  | step {state next : ExecutorState} (run : ExecutorRun condition start state)
      (meets : condition state) (step : executorStep network order command state = .ok next) :
      ExecutorRun condition start next

/-- A number of steps of a call. -/
def execute : Nat → ExecutorState → Except Fault ExecutorState
  | 0, state => .ok state
  | count + 1, state => executorStep network order command state >>= execute count

variable {network order command}

theorem ExecutorRun.of_execute {start state last : ExecutorState} {count : Nat}
    (run : ExecutorRun network order command (fun _ => True) start state)
    (steps : execute network order command count state = .ok last) :
    ExecutorRun network order command (fun _ => True) start last := by
  induction count generalizing state with
  | zero =>
      obtain rfl := Except.ok.inj steps
      exact run
  | succ count induction =>
      rw [execute] at steps
      cases step : executorStep network order command state with
      | error fault => simp [step, bind, Except.bind] at steps
      | ok next =>
          rw [step] at steps
          exact induction (run.step trivial step) steps

end Executor

end Libvalkey
