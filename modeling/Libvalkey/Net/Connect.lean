import Libvalkey.Net.Sockets

/-! # Connecting

`net.c`: a TCP or a Unix socket is made and connected. -/

namespace Libvalkey.Net

open Programs

/-! ## Timeouts -/

/-- `INT_MAX` -/
def maxMsec : Int := 2147483647

/-- `(LONG_MAX - 999) / 1000` -/
def maxSec : Int := 9223372036854774

/-- `valkeyContextTimeoutMsec` -/
def valkeyContextTimeoutMsec : Option Timeval → Status × Int
  | none => (.ok, maxMsec)
  | some timeout =>
      if timeout.usec > 1000000 ∨ timeout.sec > maxSec then (.err, maxMsec)
      else
        let msec := timeout.sec * 1000 + (timeout.usec + 999).tdiv 1000
        (.ok, if msec < 0 ∨ msec > maxMsec then maxMsec else msec)

/-- `valkeyConnectTimeoutMsec` -/
def valkeyConnectTimeoutMsec : NetProgram (Status × Int) := do
  let s ← get
  match valkeyContextTimeoutMsec s.context.connectTimeout with
  | (.ok, msec) => pure (.ok, msec)
  | (.err, msec) => do
      valkeySetError .io (ascii "Invalid timeout specified")
      pure (.err, msec)

section Functions

variable (platform : Platform)

/-- An error of `valkeySetErrorFromErrno`, after which the socket is closed. -/
def failAndClose (type : ErrorType) (start : Option String) : NetProgram Status := do
  valkeySetErrorFromErrno platform type start
  valkeyNetClose
  pure .err

/-! ## Socket options -/

/-- `valkeySetReuseAddr` -/
def valkeySetReuseAddr : NetProgram Status := do
  match ← control platform id with
  | .err => failAndClose platform .io none
  | .ok => pure .ok

/-- `valkeySetBlocking` -/
def valkeySetBlocking (blocking : Bool) : NetProgram Status := do
  match ← control platform id with
  | .err => failAndClose platform .io (some "fcntl(F_GETFL)")
  | .ok =>
      match ← control platform fun socket => { socket with nonblocking := !blocking } with
      | .err => failAndClose platform .io (some "fcntl(F_SETFL)")
      | .ok => pure .ok

/-- `valkeySetTcpNoDelay` -/
def valkeySetTcpNoDelay : NetProgram Status := do
  match ← control platform id with
  | .err => failAndClose platform .io (some "setsockopt(TCP_NODELAY)")
  | .ok => pure .ok

/-- `valkeyContextSetTcpUserTimeout` -/
def valkeyContextSetTcpUserTimeout : NetProgram Status := do
  match ← control platform id with
  | .err => failAndClose platform .io (some "setsockopt(TCP_USER_TIMEOUT)")
  | .ok => pure .ok

/-- As many options as that, up to the first one that cannot be set. -/
def setOptions (type : ErrorType) : List (Option String) → NetProgram Status
  | [] => pure .ok
  | start :: rest => do
      match ← control platform id with
      | .err => do
          valkeySetErrorFromErrno platform type start
          pure .err
      | .ok => setOptions type rest

/-- `valkeyTcpSetTimeout` -/
def valkeyTcpSetTimeout : NetProgram Status :=
  setOptions platform .io [some "setsockopt(SO_RCVTIMEO)", some "setsockopt(SO_SNDTIMEO)"]

/-- `valkeyKeepAlive`: `SO_KEEPALIVE`, `TCP_KEEPIDLE`, `TCP_KEEPINTVL` and `TCP_KEEPCNT`. -/
def valkeyKeepAlive : NetProgram Status := do
  let s ← get
  if s.context.connectionType = .unix then pure .err
  else setOptions platform .other [none, none, none, none]

/-! ## Waiting -/

/-- The end of `valkeyCheckConnectDone`: the status, and `*completed`. -/
def connectDone : Option Errno → Status × Bool
  | none | some .isConnected => (.ok, true)
  | some .already | some .wouldBlock => (.ok, false)
  | some _ => (.err, false)

/-- `valkeyCheckConnectDone` -/
def valkeyCheckConnectDone (address : Address) : NetProgram (Status × Bool) := do
  match ← connect platform address with
  | some .inProgress =>
      match ← soError platform with
      | .error _ => pure (connectDone (some .inProgress))
      | .ok none => pure (connectDone none)
      | .ok (some errno) => do
          setErrno (some errno)
          pure (connectDone (some errno))
  | error => pure (connectDone error)

/-- `valkeyCheckSocketError` -/
def valkeyCheckSocketError : NetProgram Status := do
  let s ← get
  match ← soError platform with
  | .error _ => do
      valkeySetErrorFromErrno platform .io (some "getsockopt(SO_ERROR)")
      pure .err
  | .ok error =>
      match error.or s.errno with
      | none => pure .ok
      | some errno => do
          setErrno (some errno)
          valkeySetErrorFromErrno platform .io none
          pure .err

/-- The loop of `valkeyContextWaitReady`, up to the time `last` if there is one. -/
def pollUntilReady (last : Option Int) : Nat → NetProgram Status
  | 0 => throw .waits
  | patience + 1 => do
      match ← poll platform with
      | .ok true => pure .ok
      | .ok false => do
          setErrno (some .timedOut)
          failAndClose platform .io none
      | .error .interrupted =>
          match last with
          | none => pollUntilReady last patience
          | some last => do
              let now ← ask platform.clock
              if now ≥ last then do
                setErrno (some .timedOut)
                failAndClose platform .io none
              else pollUntilReady (some last) patience
      | .error _ => failAndClose platform .io (some "poll(2)")

/-- The end of `valkeyContextWaitReady`. -/
def finishConnect (address : Address) : NetProgram Status := do
  match ← valkeyCheckConnectDone platform address with
  | (.ok, true) => pure .ok
  | _ => do
      let _ ← valkeyCheckSocketError platform
      pure .err

/-- The end of a wait of some milliseconds, if there is one. -/
def waitUntil (msec : Int) : NetProgram (Option Int) := do
  if msec ≥ 0 then do
    let now ← ask platform.clock
    pure (some (now + msec))
  else pure none

/-- `valkeyContextWaitReady` -/
def valkeyContextWaitReady (address : Address) (msec : Int) : NetProgram Status := do
  let s ← get
  if s.errno ≠ some .inProgress then failAndClose platform .io none
  else do
    let last ← waitUntil platform msec
    match ← pollUntilReady platform last (platform.patience + 1) with
    | .err => pure .err
    | .ok => finishConnect platform address

/-! ## Endpoints -/

/-- `options->endpoint`. For `valkeyReconnect` the texts are those of the context, and NULL if it
has none. -/
inductive Endpoint
  | tcp (ip : Option Bytes) (port : Int) (sourceAddr : Option Bytes)
  | unixSocket (path : Option Bytes)
  | userfd (fd : Option Nat)
  deriving DecidableEq, Repr

/-- `vk_strdup` -/
def strdup (text : Bytes) : NetProgram (Option Bytes) := do
  let made ← ask platform.malloc
  pure (if made then some text else none)

/-- `goto oom` -/
def outOfMemory : NetProgram Status := do
  valkeySetError .oom (ascii "Out of memory")
  pure .err

/-- `valkeyContextUpdateConnectTimeout`, for a time that is not the one of the context. -/
def storeConnectTimeout (timeout : Timeval) : NetProgram Status := do
  let s ← get
  if ← (if s.context.connectTimeout = none then ask platform.malloc else pure true) then do
    change fun c => { c with connectTimeout := some timeout }
    pure .ok
  else pure .err

/-- The update of `c->connect_timeout` by a function that connects. `own` says whether the time is
the one of the context. -/
def updateConnectTimeout (own : Bool) (timeout : Option Timeval) : NetProgram Status := do
  match timeout with
  | none => do
      change fun c => { c with connectTimeout := none }
      pure .ok
  | some timeout => if own then pure .ok else storeConnectTimeout platform timeout

/-! ## TCP -/

/-- What becomes of one try to connect to an address. -/
inductive Attempt
  | connected
  | failed
  | unavailable
  | error
  | oom
  deriving DecidableEq, Repr

/-- The loop that binds the socket to one of the source addresses. -/
def bindFirst : Nat → NetProgram Bool
  | 0 => pure false
  | count + 1 => do
      match ← control platform id with
      | .ok => pure true
      | .err => bindFirst count

/-- The source address of a socket. -/
def bindSource (reuseaddr : Bool) (source : Bytes) (family : Family) : NetProgram Status := do
  match ← ask (platform.getSource source family) with
  | .error error => do
      valkeySetError .other
        ((ascii "Can't get addr: " ++ platform.gaiStrerror error).take 127)
      pure .err
  | .ok count =>
      -- a `SO_REUSEADDR` that fails leaves no error
      match ← (if reuseaddr then control platform id else pure .ok) with
      | .err => pure .err
      | .ok =>
          if ← bindFirst platform count then pure .ok
          else do
            valkeySetErrorFromErrno platform .other (some "Can't bind socket")
            pure .err

/-- The source address of a context that has one. -/
def bindContext (c : NetContext) (family : Family) : NetProgram Status :=
  match c.sourceAddr with
  | none => pure .ok
  | some source => bindSource platform c.reuseaddr source family

/-- What follows a connection: the options of a blocking context. -/
def afterConnect (blocking : Bool) : NetProgram Attempt := do
  match ← (if blocking then valkeySetTcpNoDelay platform else pure .ok) with
  | .err => pure .error
  | .ok =>
      match ← (if blocking then valkeySetBlocking platform true else pure .ok) with
      | .err => pure .error
      | .ok => do
          change fun c => { c with connected := true }
          valkeyClearError
          pure .connected

/-- The `connect` of a try. -/
def connectTo (blocking reuseaddr : Bool) (msec : Int) (address : Address) :
    NetProgram Attempt := do
  match ← connect platform address with
  | none => afterConnect platform blocking
  | some .inProgress =>
      match ← (if blocking then valkeyContextWaitReady platform address msec else pure .ok) with
      | .err => do
          valkeyNetClose
          pure .failed
      | .ok => afterConnect platform blocking
  | some errno => do
      valkeyNetClose
      pure (if errno = .addressNotAvailable ∧ reuseaddr then .unavailable else .failed)

def noteTry (address : Address) : NetProgram Unit :=
  fun s => .ok ((), { s with tried := s.tried ++ [address] })

/-- One turn of the loop of `valkeyContextConnectTcp`. -/
def tryAddress (msec : Int) (address : Address) : NetProgram Attempt := do
  noteTry address
  match ← socket platform with
  | none => pure .failed
  | some fd => do
      change fun c => { c with fd := some fd }
      match ← valkeySetBlocking platform false with
      | .err => pure .error
      | .ok => do
          let s ← get
          match ← bindContext platform s.context address.family with
          | .err => pure .error
          | .ok =>
              if ← ask platform.malloc then do
                change fun c => { c with saddr := some address }
                connectTo platform s.context.block s.context.reuseaddr msec address
              else do
                change fun c => { c with saddr := none }
                pure .oom

/-- The tries of one address: with `SO_REUSEADDR` one that is not available is tried again, as
often as `retries` allows. -/
def tryAgain (msec : Int) (address : Address) : Nat → NetProgram (Attempt × Nat)
  | 0 => do
      let attempt ← tryAddress platform msec address
      pure (attempt, 0)
  | retries + 1 => do
      match ← tryAddress platform msec address with
      | .unavailable => if retries = 0 then pure (.unavailable, 0) else tryAgain msec address retries
      | attempt => pure (attempt, retries + 1)

/-- The loop of `valkeyContextConnectTcp`. -/
def tryAddresses (msec : Int) : List Address → Nat → NetProgram Status
  | [], _ => do
      valkeySetErrorFromErrno platform .io none
      pure .err
  | address :: rest, retries => do
      match ← tryAgain platform msec address retries with
      | (.connected, _) => pure .ok
      | (.failed, retries) | (.unavailable, retries) => tryAddresses msec rest retries
      | (.error, _) => pure .err
      | (.oom, _) => outOfMemory

/-- `VALKEY_CONNECT_RETRIES` -/
def valkeyConnectRetries : Nat := 10

/-- The family that is tried first, by `VALKEY_PREFER_IPV4` and `VALKEY_PREFER_IPV6`. -/
def firstFamily (c : NetContext) : Family :=
  if c.preferIpv6 ∧ c.preferIpv4 then .unspec else if c.preferIpv6 then .inet6 else .inet

/-- `portstr`, which has room for five digits. -/
def portText (port : Int) : Bytes := (Decimal.ofInt port).take 5

/-- `valkeyResolveSync` with `getaddrinfo`. -/
def valkeyResolveSync (host : Option Bytes) (port : Bytes) (family : Family) :
    NetProgram (Except LookupError (List Address)) := do
  match ← ask (platform.getaddrinfo host port family) with
  | .ok found => pure (.ok found)
  | .error error =>
      match family with
      | .inet => ask (platform.getaddrinfo host port .inet6)
      | .inet6 => ask (platform.getaddrinfo host port .inet)
      | _ => pure (.error error)

/-- The name lookup of `valkeyContextConnectTcp`, and what follows it. -/
def connectHost (msec : Int) : NetProgram Status := do
  let s ← get
  match ← valkeyResolveSync platform s.context.host (portText s.context.port)
    (firstFamily s.context) with
  | .error .memory => outOfMemory
  | .error error => do
      valkeySetError .other (platform.gaiStrerror error)
      pure .err
  | .ok addresses => tryAddresses platform msec addresses valkeyConnectRetries

/-- `c->tcp.source_addr` is set. An allocation that fails leaves it empty. -/
def setSourceAddr (own : Bool) (sourceAddr : Option Bytes) : NetProgram Unit := do
  match sourceAddr with
  | none => change fun c => { c with sourceAddr := none }
  | some source =>
      if own then pure ()
      else do
        let copy ← strdup platform source
        change fun c => { c with sourceAddr := copy }

/-- `c->tcp.host` or `c->unix_sock.path`, if the text is not the one that the context has. A new
context has none. -/
def setText (own : Bool) (text : Option Bytes) (set : Option Bytes → NetContext → NetContext) :
    NetProgram Status := do
  match text with
  | none => pure .ok
  | some text =>
      if own then pure .ok
      else do
        let copy ← strdup platform text
        change (set copy)
        pure (if copy = none then .err else .ok)

/-- `valkeyContextConnectTcp` -/
def valkeyContextConnectTcp (own : Bool) (ip : Option Bytes) (port : Int)
    (sourceAddr : Option Bytes) (timeout : Option Timeval) : NetProgram Status := do
  change fun c => { c with connectionType := .tcp, port := port }
  match ← setText platform own ip fun copy c => { c with host := copy } with
  | .err => outOfMemory
  | .ok =>
      match ← updateConnectTimeout platform own timeout with
      | .err => outOfMemory
      | .ok =>
          match ← valkeyConnectTimeoutMsec with
          | (.err, _) => pure .err
          | (.ok, msec) => do
              setSourceAddr platform own sourceAddr
              connectHost platform msec

/-! ## Unix sockets -/

/-- The size of `sun_path`. -/
def sunPathSize : Nat := 108

/-- `valkeyCreateSocket` -/
def valkeyCreateSocket (family : Family) : NetProgram Status := do
  match ← socket platform with
  | none => do
      valkeySetErrorFromErrno platform .io none
      pure .err
  | some fd => do
      change fun c => { c with fd := some fd }
      if family = .inet then valkeySetReuseAddr platform else pure .ok

/-- The `connect` of `valkeyContextConnectUnix`, and what follows it. -/
def connectUnix (address : Address) (msec : Int) : NetProgram Status := do
  let s ← get
  let failed ← connect platform address
  match ← (if failed = none ∨ failed = some .inProgress ∧ ¬s.context.block then pure .ok
    else valkeyContextWaitReady platform address msec) with
  | .err => pure .err
  | .ok =>
      match ← (if s.context.block then valkeySetBlocking platform true else pure .ok) with
      | .err => pure .err
      | .ok => do
          change fun c => { c with connected := true }
          pure .ok

/-- `valkeyContextConnectUnix` -/
def valkeyContextConnectUnix (own : Bool) (path : Option Bytes) (timeout : Option Timeval) :
    NetProgram Status := do
  match path with
  | none => throw .nullText
  | some text =>
      if text.length ≥ sunPathSize then do
        valkeySetError .other (ascii "Unix socket path too long")
        pure .err
      else do
        match ← valkeyCreateSocket platform .unix with
        | .err => pure .err
        | .ok =>
            match ← valkeySetBlocking platform false with
            | .err => pure .err
            | .ok => do
                change fun c => { c with connectionType := .unix }
                match ← setText platform own path fun copy c => { c with path := copy } with
                | .err => outOfMemory
                | .ok =>
                    match ← updateConnectTimeout platform own timeout with
                    | .err => outOfMemory
                    | .ok =>
                        match ← valkeyConnectTimeoutMsec with
                        | (.err, _) => pure .err
                        | (.ok, msec) =>
                            if ← ask platform.malloc then do
                              change fun c => { c with saddr := some ⟨.unix, text⟩ }
                              connectUnix platform ⟨.unix, text⟩ msec
                            else do
                              change fun c => { c with saddr := none }
                              outOfMemory

/-- `valkeyContextConnectUserfd` -/
def valkeyContextConnectUserfd (fd : Option Nat) : NetProgram Status := do
  change fun c => { c with fd := fd, connected := true }
  pure .ok

end Functions

end Libvalkey.Net
