import Libvalkey.Cluster.Types
import Libvalkey.Reader.Scan

/-! # Slot maps

`cluster.c`: how the replies to `CLUSTER SLOTS` and `CLUSTER NODES` and the texts
of redirects are parsed, and how the table of slots is made from the nodes. -/

namespace Libvalkey

variable {Con : Type}

/-- The dictionary of nodes: `dictFind`. -/
def findByAddr (nodes : List (ValkeyClusterNode Con)) (addr : Bytes) :
    Option (ValkeyClusterNode Con) :=
  nodes.find? (·.addr == addr)

/-- The address of a host and a port. -/
def addressOf (host : Bytes) (port : Int) : Bytes :=
  cString host ++ ':'.toUInt8 :: Decimal.ofInt port

def portInRange (port : Int) : Bool := decide (1 ≤ port) && decide (port ≤ 65535)

/-! ## `CLUSTER SLOTS` -/

/-- A conversion from `long long` to `uint32_t`. -/
def toUint32 (value : Int) : Nat := (value % 2 ^ 32).toNat

def node_get_with_slots (id : Nat) (host : Bytes) (port : Int) : ValkeyClusterNode Con where
  id := id
  name := none
  addr := addressOf host port
  host := cString host
  port := port
  role := .primary
  slots := []
  replicas := []
  con := none
  acon := none
  lastConnectionAttempt := 0

/-- The host and the port of an entry. `host` is the address that the command was sent to. -/
def parseClusterSlotsNodeEntry (host : Bytes) : ReplyTree → Except String (Bytes × Int)
  | .aggregate .array (ip :: port :: _) =>
      match ip with
      | .string str => checkPort (if str.length > 0 then str else host) port
      | .nil _ => checkPort host port
      | _ => .error "Invalid node address"
  | _ => .error "Invalid node array in slot response"
where
  checkPort (host : Bytes) : ReplyTree → Except String (Bytes × Int)
    | .integer port => if portInRange port then .ok (host, port) else .error "Invalid port"
    | _ => .error "Invalid port"

/-- The replicas of an entry. -/
def parseReplicas (host : Bytes) : List ReplyTree → Except String (List (ReplicaNode Con))
  | [] => .ok []
  | entry :: rest => do
      let (replicaHost, port) ← parseClusterSlotsNodeEntry host entry
      let replicas ← parseReplicas host rest
      return { name := none
               addr := addressOf replicaHost port
               host := cString replicaHost
               port := port
               con := none
               acon := none
               lastConnectionAttempt := 0 } :: replicas

/-- The replicas of an entry, where they are asked for. -/
def entryReplicas (addReplicas : Bool) (host : Bytes) (elements : List ReplyTree) :
    Except String (List (ReplicaNode Con)) :=
  if addReplicas then parseReplicas host (elements.drop 3) else .ok []

/-- The slot range that starts an entry. -/
def parseSlotRange : List ReplyTree → Except String ClusterSlot
  | .integer start :: .integer stop :: _ =>
      if toUint32 start > toUint32 stop ∨ toUint32 stop ≥ valkeyClusterSlots then
        .error "Invalid slot range"
      else .ok ⟨toUint32 start, toUint32 stop⟩
  | .integer _ :: _ => .error "End slot range is not an integer"
  | _ => .error "Start slot range is not an integer"

/-- `cluster_slot_ref_node` for the node of the given address. -/
def addSlot (nodes : List (ValkeyClusterNode Con)) (addr : Bytes) (slot : ClusterSlot) :
    List (ValkeyClusterNode Con) :=
  nodes.map fun node =>
    if node.addr = addr then { node with slots := node.slots ++ [slot] } else node

/-- One turn of the loop of `parse_cluster_slots`. -/
def parseSlotsEntry (addReplicas : Bool) (host : Bytes) (base : Nat)
    (nodes : List (ValkeyClusterNode Con)) : ReplyTree →
      Except String (List (ValkeyClusterNode Con))
  | .aggregate .array elements =>
      if elements.length < 3 then .error "Invalid array in cluster slots response"
      else do
        let slot ← parseSlotRange elements
        let (primaryHost, port) ← parseClusterSlotsNodeEntry host (elements.getD 2 (.nil .null))
        let addr := addressOf primaryHost port
        match findByAddr nodes addr with
        | some _ => return addSlot nodes addr slot
        | none =>
            let replicas ← entryReplicas addReplicas host elements
            let primary : ValkeyClusterNode Con :=
              { node_get_with_slots (base + nodes.length) primaryHost port with
                replicas := replicas }
            return addSlot (nodes ++ [primary]) addr slot
  | _ => .error "Invalid array in cluster slots response"

def parseSlotsEntries (addReplicas : Bool) (host : Bytes) (base : Nat)
    (nodes : List (ValkeyClusterNode Con)) : List ReplyTree →
      Except String (List (ValkeyClusterNode Con))
  | [] => .ok nodes
  | entry :: rest => do
      let nodes ← parseSlotsEntry addReplicas host base nodes entry
      parseSlotsEntries addReplicas host base nodes rest

/-- The new nodes are named from `base` on. -/
def parse_cluster_slots (addReplicas : Bool) (host : Bytes) (base : Nat) : ReplyTree →
    Except String (List (ValkeyClusterNode Con))
  | .aggregate .array [] => .error "No slot information"
  | .aggregate .array entries => parseSlotsEntries addReplicas host base [] entries
  | _ => .error "Unexpected reply type"

/-! ## `CLUSTER NODES` -/

/-- The role that the flags of a node give, or `none` for a node to skip. -/
def parseFlags (role : NodeRole) : List Bytes → Option NodeRole
  | [] => some role
  | flag :: rest =>
      if (ascii "master").isPrefixOf flag then parseFlags .primary rest
      else if (ascii "slave").isPrefixOf flag then parseFlags .replica rest
      else if (ascii "noaddr").isPrefixOf flag then none
      else parseFlags role rest

/-- One slot range. -/
def parseSlotText (entry : Bytes) : ClusterSlot :=
  match splitFirst '-'.toUInt8 entry with
  | (slot, none) => ⟨toUint32 (vkAtoi slot), toUint32 (vkAtoi slot)⟩
  | (start, some stop) => ⟨toUint32 (vkAtoi start), toUint32 (vkAtoi stop)⟩

/-- The slot ranges, up to those that are being moved. -/
def parseSlotTexts (entries : List Bytes) : List ClusterSlot :=
  (entries.takeWhile fun entry => entry.head? != some '['.toUInt8).map parseSlotText

/-- A node of a line, or a replica with the name of its primary. -/
inductive ParsedLine (Con : Type)
  | skipped
  | primary (node : ValkeyClusterNode Con)
  | replica (primaryId : Bytes) (node : ReplicaNode Con)

/-- The address, the host and the port of an address field. -/
def parseAddress (host : Bytes) (field : Bytes) : Except String (Bytes × Bytes × Int) :=
  let addr := (splitFirst '@'.toUInt8 field).1
  match splitLast ':'.toUInt8 addr with
  | none => .error "Invalid node address"
  | some (before, portText) =>
      let port := vkAtoi portText
      if ¬portInRange port then .error "Invalid port"
      else if before ≠ [] then .ok (addr, before, port)
      else .ok (addressOf host port, cString host, port)

def parse_cluster_nodes_line (addReplicas : Bool) (host : Bytes) (id : Nat) (line : Bytes) :
    Except String (ParsedLine Con) := do
  let (ended, last) := splitAll ' '.toUInt8 line
  -- The link state is the eighth field, with or without slots after it.
  if ended.length < 7 ∨ (ended.length = 7 ∧ last = []) then
    .error "Mandatory fields missing"
  else
    match parseFlags .unknown (fields ','.toUInt8 (ended.getD 2 [])) with
    | none => return .skipped
    | some .unknown => .error "Unknown role"
    | some .replica =>
        if ¬addReplicas then return .skipped
        else
          let (addr, nodeHost, port) ← parseAddress host (ended.getD 1 [])
          return .replica (ended.getD 3 [])
            { name := some (ended.getD 0 [])
              addr := addr
              host := nodeHost
              port := port
              con := none
              acon := none
              lastConnectionAttempt := 0 }
    | some .primary =>
        let (addr, nodeHost, port) ← parseAddress host (ended.getD 1 [])
        let slotFields := if last = [] then ended.drop 8 else ended.drop 8 ++ [last]
        return .primary
          { id := id
            name := some (ended.getD 0 [])
            addr := addr
            host := nodeHost
            port := port
            role := .primary
            slots := if ended.length = 7 then [] else parseSlotTexts slotFields
            replicas := []
            con := none
            acon := none
            lastConnectionAttempt := 0 }

/-- The loop of `parse_cluster_nodes`: the primaries, and the replicas with the
names of their primaries. -/
def parseNodesLines (addReplicas : Bool) (host : Bytes) (base : Nat)
    (nodes : List (ValkeyClusterNode Con)) (replicas : List (Bytes × ReplicaNode Con)) :
    List Bytes →
      Except String (List (ValkeyClusterNode Con) × List (Bytes × ReplicaNode Con))
  | [] => .ok (nodes, replicas)
  | line :: rest => do
      let parsed : ParsedLine Con ←
        parse_cluster_nodes_line addReplicas host (base + nodes.length) line
      match parsed with
      | .skipped => parseNodesLines addReplicas host base nodes replicas rest
      | .replica primaryId replica =>
          parseNodesLines addReplicas host base nodes (replicas ++ [(primaryId, replica)]) rest
      | .primary node =>
          if (findByAddr nodes node.addr).isSome then
            .error "Duplicate addresses in cluster nodes response"
          else parseNodesLines addReplicas host base (nodes ++ [node]) replicas rest

/-- Every list of replicas goes to one primary. -/
def store_replica_nodes (replicas : List (Bytes × ReplicaNode Con)) :
    List (ValkeyClusterNode Con) → List (ValkeyClusterNode Con)
  | [] => []
  | node :: rest =>
      let own := replicas.filter fun entry => some entry.1 == node.name
      { node with replicas := own.map (·.2) } ::
        store_replica_nodes (replicas.filter fun entry => some entry.1 != node.name) rest

def parseNodesText (addReplicas : Bool) (host : Bytes) (base : Nat) (text : Bytes) :
    Except String (List (ValkeyClusterNode Con)) := do
  let (nodes, replicas) ←
    parseNodesLines addReplicas host base [] [] (splitAll LF (cString text)).1
  if (nodes.map fun node => node.slots.length).sum = 0 then .error "No slot information"
  else return store_replica_nodes replicas nodes

def parse_cluster_nodes (addReplicas : Bool) (host : Bytes) (base : Nat) : ReplyTree →
    Except String (List (ValkeyClusterNode Con))
  | .string text => parseNodesText addReplicas host base text
  | .verb _ text => parseNodesText addReplicas host base text
  | _ => .error "Unexpected reply type"

/-! ## The table of slots -/

/-- `table[i] = node` for the slots of a range, unless one of them is taken. -/
def fillRange (id : Nat) (table : List (Option Nat)) : Nat → Nat → Except String (List (Option Nat))
  | _, 0 => .ok table
  | slot, count + 1 =>
      if (table.getD slot none).isSome then .error "Different node holds same slot"
      else fillRange id (table.set slot (some id)) (slot + 1) count

def fillSlots (id : Nat) (table : List (Option Nat)) : List ClusterSlot →
    Except String (List (Option Nat))
  | [] => .ok table
  | slot :: rest =>
      if slot.start > slot.stop ∨ slot.stop ≥ valkeyClusterSlots then
        .error "Slot region for node is invalid"
      else do
        let table ← fillRange id table slot.start (slot.stop + 1 - slot.start)
        fillSlots id table rest

def fillNodes (table : List (Option Nat)) : List (ValkeyClusterNode Con) →
    Except String (List (Option Nat))
  | [] => .ok table
  | node :: rest =>
      if node.role ≠ .primary then .error "Node role must be primary"
      else do
        let table ← fillSlots node.id table node.slots
        fillNodes table rest

/-- The table that `updateNodesAndSlotmap` makes of the nodes. -/
def createTable (order : IterationOrder) (nodes : List (ValkeyClusterNode Con)) :
    Except String (List (Option Nat)) :=
  fillNodes (List.replicate valkeyClusterSlots none) (order.order nodes)

/-- `cluster_nodes_swap_ctx`: the new nodes take over the connections of the old
nodes with the same addresses. -/
def cluster_nodes_swap_ctx (old new : List (ValkeyClusterNode Con)) :
    List (ValkeyClusterNode Con) :=
  new.map fun node =>
    match findByAddr old node.addr with
    | none => node
    | some oldNode =>
        { node with
          con := oldNode.con.or node.con
          acon := oldNode.acon.or node.acon }

/-! ## Redirects -/

structure Redirect where
  slot : Int
  key : Bytes
  host : Bytes
  port : Int
  deriving DecidableEq, Repr

/-- The slot number in the text of a redirect. -/
def redirectSlot (str : Bytes) : Int := vkAtoi ((fields ' '.toUInt8 (cString str)).getD 1 [])

/-- The parsing in `getNodeFromRedirectReply`. `host` is the address that the
reply was received from. -/
def parseRedirect (host : Bytes) (str : Bytes) : Except String Redirect :=
  match (fields ' '.toUInt8 (cString str))[2]? with
  | none => .error "Failed to parse redirect"
  | some addr =>
      match splitLast ':'.toUInt8 addr with
      | none => .error "Invalid address in redirect"
      | some (before, portText) =>
          let port := vkAtoi portText
          if ¬portInRange port then .error "Invalid port in redirect"
          else if before ≠ [] then .ok ⟨redirectSlot str, addr, before, port⟩
          else .ok ⟨redirectSlot str, addressOf host port, cString host, port⟩

/-- A node made for a redirect. -/
def redirectNode (id : Nat) (redirect : Redirect) : ValkeyClusterNode Con where
  id := id
  name := none
  addr := redirect.key
  host := redirect.host
  port := redirect.port
  role := .primary
  slots := []
  replicas := []
  con := none
  acon := none
  lastConnectionAttempt := 0

end Libvalkey
