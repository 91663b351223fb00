import Libvalkey.Cluster.Client

/-! # Options

`valkeyClusterContextInit`: the options of a cluster client and its initial nodes, with all
allocations made. -/

namespace Libvalkey

/-! ## Option bits -/

/-- `VALKEY_OPT_USE_CLUSTER_NODES` -/
def optUseClusterNodes : BitVec 32 := 0x1000

/-- `VALKEY_OPT_USE_REPLICAS` -/
def optUseReplicas : BitVec 32 := 0x2000

/-- `VALKEY_OPT_BLOCKING_INITIAL_UPDATE` -/
def optBlockingInitialUpdate : BitVec 32 := 0x4000

/-- `VALKEY_OPT_REUSEADDR`, `VALKEY_OPT_PREFER_IPV4`, `VALKEY_OPT_PREFER_IPV6` and
`VALKEY_OPT_MPTCP` -/
def socketOptions : BitVec 32 := 0x02 ||| 0x20 ||| 0x40 ||| 0x80

def supportedOptions : BitVec 32 :=
  optUseClusterNodes ||| optUseReplicas ||| optBlockingInitialUpdate ||| socketOptions

/-- `CLUSTER_DEFAULT_MAX_RETRY_COUNT` -/
def clusterDefaultMaxRetryCount : Int := 5

/-- `valkeyClusterOptions`. A pointer to a function or to TLS data is there or `NULL`.
`hasTimer` tells whether the event library that `attach_fn` attaches has `scheduleTimer`. -/
structure ValkeyClusterOptions where
  initialNodes : Option Bytes
  options : BitVec 32
  username : Option Bytes
  password : Option Bytes
  maxRetry : Int
  selectDb : Int
  commandTimeout : Bool
  tls : Bool
  eventCallback : Bool
  asyncConnectCallback : Bool
  asyncDisconnectCallback : Bool
  attachFn : Bool
  hasTimer : Bool

def ValkeyClusterOptions.has (options : ValkeyClusterOptions) (option : BitVec 32) : Bool :=
  options.options &&& option != 0

/-! ## Initial nodes -/

/-- A node of the option string. Its `port` is a `uint16_t`. -/
def optionNode (id : Nat) (addr ip : Bytes) (port : Int) : ValkeyClusterNode ValkeyContext where
  id := id
  name := none
  addr := addr
  host := ip
  port := port % 2 ^ 16
  role := .unknown
  slots := []
  replicas := []
  con := none
  acon := none
  lastConnectionAttempt := 0

def valkeyClusterSetOptionAddNode (cc : ValkeyClusterContext) (addr : Bytes) :
    Status × ValkeyClusterContext :=
  match findByAddr cc.nodes addr with
  | some _ => (.ok, cc)
  | none =>
      match splitLast ':'.toUInt8 addr with
      | none =>
          (.err, cc.setError .other (ascii "server address is incorrect, port separator missing."))
      | some (ip, portText) =>
          if ip = [] then
            (.err, cc.setError .other (ascii "server address is incorrect, address part missing."))
          else if portText = [] then
            (.err, cc.setError .other (ascii "server address is incorrect, port part missing."))
          else if vkAtoi portText ≤ 0 then
            (.err, cc.setError .other (ascii "server port is incorrect"))
          else
            (.ok, { cc with
              nodes := cc.nodes ++ [optionNode cc.nextNode addr ip (vkAtoi portText)]
              nextNode := cc.nextNode + 1 })

/-- `sdssplitlen(addrs, strlen(addrs), ",", 1, ..)` -/
def splitAddresses (addrs : Bytes) : List Bytes :=
  if addrs = [] then []
  else
    let (ended, last) := splitAll ','.toUInt8 addrs
    ended ++ [last]

/-- The loop of `valkeyClusterSetOptionAddNodes`. -/
def addOptionNodes (cc : ValkeyClusterContext) : List Bytes → Status × ValkeyClusterContext
  | [] => (.ok, cc)
  | addr :: rest =>
      match valkeyClusterSetOptionAddNode cc addr with
      | (.ok, cc) => addOptionNodes cc rest
      | (.err, cc) => (.err, cc)

def valkeyClusterSetOptionAddNodes (cc : ValkeyClusterContext) (addrs : Bytes) :
    Status × ValkeyClusterContext :=
  if splitAddresses addrs = [] then
    (.err, cc.setError .other
      (ascii "invalid server addresses (example format: 127.0.0.1:1234,127.0.0.2:5678)"))
  else addOptionNodes cc (splitAddresses addrs)

/-! ## Contexts -/

/-- A context that has been allocated. -/
def emptyContext : ValkeyClusterContext where
  err := none
  errstr := []
  nodes := []
  table := none
  routeVersion := 0
  needUpdateRoute := false
  retryCount := 0
  maxRetryCount := 0
  addReplicas := false
  useClusterNodes := false
  username := none
  password := none
  selectDb := 0
  tls := false
  requests := []
  nextNode := 0
  nextContext := 0
  appended := 0
  outcomes := 0
  writes := []
  readings := []

/-- `valkeyClusterSetOptionUsername` and `valkeyClusterSetOptionPassword`: an empty text is none. -/
def credential (text : Option Bytes) : Option Bytes := text.filter fun text => !text.isEmpty

/-- The options that follow the initial nodes. -/
def setOptions (cc : ValkeyClusterContext) (options : ValkeyClusterOptions) :
    ValkeyClusterContext :=
  { cc with
    username := credential options.username
    password := credential options.password
    tls := options.tls }

def valkeyClusterContextInit (options : ValkeyClusterOptions) : Status × ValkeyClusterContext :=
  if options.options &&& ~~~supportedOptions ≠ 0 then
    (.err, emptyContext.setError .other (ascii "Unsupported options"))
  else
    let cc := { emptyContext with
      useClusterNodes := options.has optUseClusterNodes
      addReplicas := options.has optUseReplicas
      maxRetryCount :=
        if options.maxRetry > 0 then options.maxRetry else clusterDefaultMaxRetryCount
      selectDb := if options.selectDb > 0 then options.selectDb else 0 }
    match options.initialNodes with
    | none => (.ok, setOptions cc options)
    | some addrs =>
        match valkeyClusterSetOptionAddNodes cc addrs with
        | (.ok, cc) => (.ok, setOptions cc options)
        | (.err, cc) => (.err, cc)

/-- Some initial node is accepted: the options are supported and the first address has a host and
a port. -/
def ValkeyClusterOptions.namesNode (options : ValkeyClusterOptions) : Bool :=
  options.options &&& ~~~supportedOptions == 0 &&
    options.initialNodes.any fun addrs =>
      (splitAddresses addrs).head?.any fun addr =>
        (splitLast ':'.toUInt8 addr).any fun (ip, portText) => !ip.isEmpty && decide
          (0 < vkAtoi portText)

end Libvalkey
