import Libvalkey.Net.Connect

/-! # Contexts and their sockets

`valkey.c`: a context is connected, connected again and freed. -/

namespace Libvalkey.Net

open Programs

/-- The part of `valkeyOptions` that is about the connection. -/
structure NetOptions where
  endpoint : Endpoint
  connectTimeout : Option Timeval
  commandTimeout : Option Timeval
  nonblock : Bool
  reuseaddr : Bool
  preferIpv4 : Bool
  preferIpv6 : Bool
  mptcp : Bool
  deriving DecidableEq, Repr

/-- `options->type` -/
def Endpoint.type : Endpoint → ConnectionType
  | .tcp .. => .tcp
  | .unixSocket _ => .unix
  | .userfd _ => .userfd

/-- A context of zeros. -/
def emptyContext : NetContext where
  fd := none
  err := none
  block := false
  reuseaddr := false
  preferIpv4 := false
  preferIpv6 := false
  connected := false
  connectionType := .tcp
  funcs := false
  host := none
  port := 0
  sourceAddr := none
  path := none
  connectTimeout := none
  commandTimeout := none
  saddr := none

section Functions

variable (platform : Platform)

/-- `c->funcs->connect` -/
def connectEndpoint (own : Bool) (endpoint : Endpoint) (timeout : Option Timeval) :
    NetProgram Status :=
  match endpoint with
  | .tcp ip port sourceAddr => valkeyContextConnectTcp platform own ip port sourceAddr timeout
  | .unixSocket path => valkeyContextConnectUnix platform own path timeout
  | .userfd fd => valkeyContextConnectUserfd fd

/-- `valkeyContextUpdateConnectTimeout` in a new context. -/
def valkeyContextUpdateConnectTimeout (timeout : Option Timeval) : NetProgram Status :=
  match timeout with
  | none => pure .ok
  | some timeout => storeConnectTimeout platform timeout

/-- `valkeyContextUpdateCommandTimeout`. A context without a time has none for NULL. -/
def valkeyContextUpdateCommandTimeout (timeout : Option Timeval) : NetProgram Status := do
  match timeout with
  | none => pure .ok
  | some timeout => do
      let s ← get
      if ← (if s.context.commandTimeout = none then ask platform.malloc else pure true) then do
        change fun c => { c with commandTimeout := some timeout }
        pure .ok
      else pure .err

/-- `valkeyContextInit`, in a context of zeros: the allocations of the context, its output buffer
and its reader. -/
def valkeyContextInit : NetProgram Bool := do
  let context ← ask platform.malloc
  let obuf ← ask platform.malloc
  let reader ← ask platform.malloc
  change fun _ => emptyContext
  pure (context && obuf && reader)

/-- The socket timeout of a context that has one and is connected. -/
def setCommandTimeout (timeout : Option Timeval) : NetProgram Unit := do
  let s ← get
  if s.context.fd ≠ none ∧ timeout ≠ none ∧ s.context.block then do
    let _ ← valkeyTcpSetTimeout platform
    pure ()
  else pure ()

/-- The times of the options, in a new context. -/
def storeTimeouts (options : NetOptions) : NetProgram Status := do
  match ← valkeyContextUpdateConnectTimeout platform options.connectTimeout with
  | .err => pure .err
  | .ok => valkeyContextUpdateCommandTimeout platform options.commandTimeout

/-- `valkeyConnectWithOptions`. `false` is NULL. -/
def valkeyConnectWithOptions (options : NetOptions) : NetProgram Bool := do
  if ← valkeyContextInit platform then do
    change fun c =>
      { c with
        block := !options.nonblock
        reuseaddr := options.reuseaddr
        preferIpv4 := options.preferIpv4
        preferIpv6 := options.preferIpv6 }
    if options.mptcp ∧ ¬platform.hasMptcp then do
      valkeySetError .protocol (ascii "MPTCP is not supported on this platform")
      pure true
    else do
      change fun c => { c with connectionType := options.endpoint.type, funcs := true }
      match ← storeTimeouts platform options with
      | .err => do
          let _ ← outOfMemory
          pure true
      | .ok => do
          let _ ← connectEndpoint platform false options.endpoint options.connectTimeout
          let s ← get
          if s.context.err = none then do
            setCommandTimeout platform options.commandTimeout
            pure true
          else pure true
  else pure false

/-- The endpoint for `valkeyReconnect`. -/
def NetContext.ownEndpoint (c : NetContext) : Option Endpoint :=
  match c.connectionType with
  | .tcp => some (.tcp c.host c.port c.sourceAddr)
  | .unix => some (.unixSocket c.path)
  | .userfd => none

/-- `valkeyReconnect`. There is no way to connect again to a descriptor of the user. -/
def valkeyReconnect : NetProgram Status := do
  let s ← get
  valkeyClearError
  if s.context.funcs then do
    valkeyNetClose
    let obuf ← ask platform.malloc
    let reader ← ask platform.malloc
    if obuf && reader then
      match s.context.ownEndpoint with
      | none => do
          valkeySetError .other (ascii "Not enough information to reconnect")
          pure .err
      | some endpoint =>
          match ← connectEndpoint platform true endpoint s.context.connectTimeout with
          | .err => pure .err
          | .ok => do
              setCommandTimeout platform s.context.commandTimeout
              pure .ok
    else outOfMemory
  else throw .assertion

/-- `valkeyFree` -/
def valkeyFree : NetProgram Unit := do
  let s ← get
  if s.context.funcs then valkeyNetClose else pure ()

/-- `valkeyFreeKeepFd` -/
def valkeyFreeKeepFd : NetProgram (Option Nat) := do
  let s ← get
  change fun c => { c with fd := none }
  valkeyFree
  pure s.context.fd

/-- `valkeySetTimeout` -/
def valkeySetTimeout (timeout : Timeval) : NetProgram Status := do
  let s ← get
  if s.context.block then
    match ← valkeyContextUpdateCommandTimeout platform (some timeout) with
    | .err => outOfMemory
    | .ok => if s.context.funcs then valkeyTcpSetTimeout platform else throw .nullFunctions
  else pure .err

/-! ## Runs -/

/-- What a user does with a context. -/
inductive NetCall
  | reconnect
  | setTimeout (timeout : Timeval)
  | keepAlive
  | tcpUserTimeout
  | tcpNoDelay
  | close
  deriving DecidableEq, Repr

/-- A call, whose status does not matter. -/
def call : NetCall → NetProgram Unit
  | .reconnect => do
      let _ ← valkeyReconnect platform
      pure ()
  | .setTimeout timeout => do
      let _ ← valkeySetTimeout platform timeout
      pure ()
  | .keepAlive => do
      let _ ← valkeyKeepAlive platform
      pure ()
  | .tcpUserTimeout => do
      let _ ← valkeyContextSetTcpUserTimeout platform
      pure ()
  | .tcpNoDelay => do
      let _ ← valkeySetTcpNoDelay platform
      pure ()
  | .close => valkeyNetClose

/-- Call by call. -/
def runCalls : List NetCall → NetProgram Unit
  | [] => pure ()
  | first :: rest => do
      call platform first
      runCalls rest

end Functions

end Libvalkey.Net
