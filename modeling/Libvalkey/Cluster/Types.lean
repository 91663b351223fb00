import Libvalkey.Reader.Types
import Libvalkey.Resp.Grammar

/-! # Cluster state

Cluster nodes, connections at the level of whole requests and replies, and the
context of the synchronous client. A node is named by its address in memory, here
a number, and so is a connection: a name that belongs to no node dangles. -/

namespace Libvalkey

/-! ## Texts -/

/-- The bytes of a string up to its terminating NUL. -/
def cString (bytes : Bytes) : Bytes := bytes.takeWhile (· != 0)

/-- The part before a separator and, where there is one, the part after it. -/
def splitFirst (separator : UInt8) : Bytes → Bytes × Option Bytes
  | [] => ([], none)
  | byte :: rest =>
      if byte = separator then ([], some rest)
      else
        let (before, after) := splitFirst separator rest
        (byte :: before, after)

/-- The parts of a text that a separator ends, and what follows the last one. -/
def splitAll (separator : UInt8) : Bytes → List Bytes × Bytes
  | [] => ([], [])
  | byte :: rest =>
      let (ended, last) := splitAll separator rest
      if byte = separator then ([] :: ended, last)
      else
        match ended with
        | [] => ([], byte :: last)
        | part :: more => ((byte :: part) :: more, last)

/-- The fields that a loop over `strchr` finds when it stops at the end of the
text: a separator at the end is not followed by an empty field. -/
def fields (separator : UInt8) (text : Bytes) : List Bytes :=
  let (ended, last) := splitAll separator text
  if last = [] then ended else ended ++ [last]

/-- `strrchr`: the parts before and after the last separator. -/
def splitLast (separator : UInt8) : Bytes → Option (Bytes × Bytes)
  | [] => none
  | byte :: rest =>
      match splitLast separator rest with
      | some (before, after) => some (byte :: before, after)
      | none => if byte = separator then some ([], rest) else none

/-- The loop of `_vk_atoi`. The arithmetic of `int` wraps around. -/
def vkAtoiFrom (value : Int) : Bytes → Option Int
  | [] => some value
  | byte :: rest =>
      if byte < '0'.toUInt8 ∨ byte > '9'.toUInt8 then none
      else vkAtoiFrom (toInt32 (value * 10 + (byte.toNat - 48 : Nat))) rest

/-- `vk_atoi` -/
def vkAtoi (line : Bytes) : Int :=
  if line = [] then -1
  else
    match vkAtoiFrom 0 line with
    | none => -1
    | some value => if value < 0 then -1 else value

/-! ## Nodes -/

inductive NodeRole
  | unknown
  | primary
  | replica
  deriving DecidableEq, Repr

/-- `cluster_slot` -/
structure ClusterSlot where
  start : Nat
  stop : Nat
  deriving DecidableEq, Repr

/-- A replica, which has no slots and no replicas of its own. -/
structure ReplicaNode (Con : Type) where
  name : Option Bytes
  addr : Bytes
  host : Bytes
  port : Int
  con : Option Con
  acon : Option Nat
  lastConnectionAttempt : Int

/-- `valkeyClusterNode`, with the number that names it. `addr` is also its key in
the dictionary of nodes, and `acon` names the asynchronous context. -/
structure ValkeyClusterNode (Con : Type) where
  id : Nat
  name : Option Bytes
  addr : Bytes
  host : Bytes
  port : Int
  role : NodeRole
  slots : List ClusterSlot
  replicas : List (ReplicaNode Con)
  con : Option Con
  acon : Option Nat
  lastConnectionAttempt : Int

/-- The connections of a node and of its replicas. -/
def ValkeyClusterNode.connections {Con : Type} (node : ValkeyClusterNode Con) : List Con :=
  node.con.toList ++ node.replicas.filterMap (·.con)

/-- A change of the connections of a node and of its replicas. -/
def ValkeyClusterNode.mapCon {Con : Type} (change : Con → Con) (node : ValkeyClusterNode Con) :
    ValkeyClusterNode Con :=
  { node with
    con := node.con.map change
    replicas := node.replicas.map fun replica => { replica with con := replica.con.map change } }

/-- `VALKEYCLUSTER_SLOTS` -/
def valkeyClusterSlots : Nat := 16384

/-- The order in which an iterator goes through a dictionary. -/
structure IterationOrder where
  order : {α : Type} → List α → List α
  perm : ∀ {α : Type} (entries : List α), (order entries).Perm entries

/-- `replyErrorType` -/
inductive ReplyErrorType
  | noError
  | moved
  | ask
  | tryAgain
  | clusterDown
  | other
  deriving DecidableEq, Repr

def getReplyErrorType : ReplyTree → ReplyErrorType
  | .error str =>
      if (ascii "MOVED").isPrefixOf str then .moved
      else if (ascii "ASK").isPrefixOf str then .ask
      else if (ascii "TRYAGAIN").isPrefixOf str then .tryAgain
      else if (ascii "CLUSTERDOWN").isPrefixOf str then .clusterDown
      else .other
  | _ => .noError

end Libvalkey
