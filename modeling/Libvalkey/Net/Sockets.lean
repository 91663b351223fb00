import Mathlib.Logic.Function.Basic
import Libvalkey.Cluster.Client
import Libvalkey.Foundation.Programs

/-! # Sockets

The system calls that `net.c` makes, on the sockets of a process. -/

namespace Libvalkey.Net

open Programs

/-! ## The system -/

/-- The values of `errno` that matter, and the other ones. -/
inductive Errno
  | inProgress
  | isConnected
  | already
  | wouldBlock
  | interrupted
  | addressNotAvailable
  | timedOut
  | badDescriptor
  | other (number : Nat)
  deriving DecidableEq, Repr

/-- `AF_UNSPEC`, `AF_INET`, `AF_INET6` and `AF_UNIX` -/
inductive Family
  | unspec
  | inet
  | inet6
  | unix
  deriving DecidableEq, Repr

/-- A `sockaddr`. -/
structure Address where
  family : Family
  bytes : Bytes
  deriving DecidableEq, Repr

/-- An error of `getaddrinfo`. -/
inductive LookupError
  | memory
  | other (number : Nat)
  deriving DecidableEq, Repr

/-- What the system has said about the connection of a socket. -/
inductive Link
  | unconnected
  | inProgress
  | connected
  deriving DecidableEq, Repr

/-- A socket, with `O_NONBLOCK`. -/
structure Socket where
  nonblocking : Bool
  link : Link
  deriving DecidableEq, Repr

/-- The open descriptors of the process. -/
abbrev Sockets := Nat → Option Socket

/-- What the calls of the system come to. Each of them is told how many calls were made before it.
`control` is for `fcntl`, `setsockopt` and `bind`, `soError` for `getsockopt` with `SO_ERROR`, and
`poll` says whether the socket is ready. No more than `patience` polls are interrupted one after the
other, or the last of them is not over yet. A new descriptor is not in use. -/
structure Platform where
  socket : Sockets → Nat → Except Errno Nat
  fresh : ∀ sockets call fd, socket sockets call = .ok fd → sockets fd = none
  control : Nat → Option Errno
  connect : Address → Nat → Option Errno
  poll : Nat → Except Errno Bool
  soError : Nat → Except Errno (Option Errno)
  clock : Nat → Int
  malloc : Nat → Bool
  getaddrinfo : Option Bytes → Bytes → Family → Nat → Except LookupError (List Address)
  getSource : Bytes → Family → Nat → Except LookupError Nat
  strerror : Option Errno → Bytes
  gaiStrerror : LookupError → Bytes
  hasMptcp : Bool
  patience : Nat

/-! ## Contexts -/

/-- A `struct timeval`. -/
structure Timeval where
  sec : Int
  usec : Int
  deriving DecidableEq, Repr

/-- `connection_type` -/
inductive ConnectionType
  | tcp
  | unix
  | userfd
  deriving DecidableEq, Repr

/-- The part of `valkeyContext` that is about its connection. Texts and times are NULL or owned by
the context. `funcs` says whether the functions of the connection type are set. -/
structure NetContext where
  fd : Option Nat
  err : Option ContextError
  block : Bool
  reuseaddr : Bool
  preferIpv4 : Bool
  preferIpv6 : Bool
  connected : Bool
  connectionType : ConnectionType
  funcs : Bool
  host : Option Bytes
  port : Int
  sourceAddr : Option Bytes
  path : Option Bytes
  connectTimeout : Option Timeval
  commandTimeout : Option Timeval
  saddr : Option Address
  deriving DecidableEq, Repr

/-- A context in a process. `tried` are the addresses that `valkeyContextConnectTcp` has tried. -/
structure System where
  context : NetContext
  sockets : Sockets
  errno : Option Errno
  calls : Nat
  tried : List Address

/-- Why a function does not go on: it waits, an assertion failed, NULL is used as a text or as the
functions of a context, or a descriptor is used that is not open. -/
inductive Stop
  | waits
  | assertion
  | nullText
  | nullFunctions
  | closed (fd : Nat)
  deriving DecidableEq, Repr

abbrev NetProgram := Program System Stop

/-- Change the context. -/
def change (change : NetContext → NetContext) : NetProgram Unit :=
  fun s => .ok ((), { s with context := change s.context })

def setErrno (errno : Option Errno) : NetProgram Unit :=
  fun s => .ok ((), { s with errno := errno })

/-! ## System calls -/

section Calls

variable (platform : Platform)

/-- Ask the system for something that concerns no socket. -/
def ask {α : Type} (answer : Nat → α) : NetProgram α :=
  fun s => .ok (answer s.calls, { s with calls := s.calls + 1 })

/-- `socket` -/
def socket : NetProgram (Option Nat) := fun s =>
  match platform.socket s.sockets s.calls with
  | .error errno => .ok (none, { s with calls := s.calls + 1, errno := some errno })
  | .ok fd =>
      .ok (some fd,
        { s with
          calls := s.calls + 1
          sockets := Function.update s.sockets fd (some ⟨false, .unconnected⟩) })

/-- A call on `c->fd` that gives a value and changes its socket. A descriptor that is not open and
not `VALKEY_INVALID_FD` is a fault. -/
def onSocket {α : Type} (invalid : α) (answer : Nat → α) (errno : α → Option Errno)
    (effect : α → Socket → Socket) : NetProgram α := fun s =>
  match s.context.fd with
  | none => .ok (invalid, { s with calls := s.calls + 1, errno := some .badDescriptor })
  | some fd =>
      match s.sockets fd with
      | none => .error (.closed fd)
      | some socket =>
          let value := answer s.calls
          .ok (value,
            { s with
              calls := s.calls + 1
              sockets := Function.update s.sockets fd (some (effect value socket))
              errno := (errno value).or s.errno })

/-- `fcntl`, `setsockopt` or `bind` on `c->fd` -/
def control (effect : Socket → Socket) : NetProgram Status := do
  let failed ← onSocket (some Errno.badDescriptor) platform.control id
    fun failed socket => if failed = none then effect socket else socket
  pure (if failed = none then .ok else .err)

/-- What a socket is after `connect`. -/
def connectEffect (failed : Option Errno) (socket : Socket) : Socket :=
  match failed with
  | none | some .isConnected => { socket with link := .connected }
  | some .inProgress => { socket with link := .inProgress }
  | some _ => socket

/-- `connect` on `c->fd` -/
def connect (address : Address) : NetProgram (Option Errno) :=
  onSocket (some Errno.badDescriptor) (platform.connect address) id connectEffect

/-- The `errno` of a call that fails. -/
def errnoOf {α : Type} : Except Errno α → Option Errno
  | .error errno => some errno
  | .ok _ => none

/-- What a socket is after its error was asked for. Without an error a connection that was in
progress is made. -/
def soErrorEffect (value : Except Errno (Option Errno)) (socket : Socket) : Socket :=
  match value with
  | .ok none => if socket.link = .inProgress then { socket with link := .connected } else socket
  | .ok (some .isConnected) => { socket with link := .connected }
  | _ => socket

/-- `getsockopt` with `SO_ERROR` on `c->fd` -/
def soError : NetProgram (Except Errno (Option Errno)) :=
  onSocket (.error .badDescriptor) platform.soError errnoOf soErrorEffect

/-- `poll` on `c->fd` -/
def poll : NetProgram (Except Errno Bool) :=
  onSocket (.ok false) platform.poll errnoOf fun _ socket => socket

end Calls

/-! ## Errors -/

section Errors

variable (platform : Platform)

/-- `valkeySetError`. The text is cut to fit `errstr`. -/
def valkeySetError (type : ErrorType) (str : Bytes) : NetProgram Unit :=
  change fun c => { c with err := some ⟨type, str.take 127⟩ }

/-- `valkeySetErrorFromErrno`. The text with its prefix fits 128 bytes. -/
def valkeySetErrorFromErrno (type : ErrorType) (start : Option String) : NetProgram Unit :=
  fun s =>
    let text := match start with
      | none => platform.strerror s.errno
      | some start => ascii start ++ ascii ": " ++ platform.strerror s.errno
    valkeySetError type (text.take 127) s

def valkeyClearError : NetProgram Unit := change fun c => { c with err := none }

end Errors

/-- `valkeyNetClose` -/
def valkeyNetClose : NetProgram Unit := fun s =>
  match s.context.fd with
  | none => .ok ((), s)
  | some fd =>
      match s.sockets fd with
      | none => .error (.closed fd)
      | some _ =>
          .ok ((),
            { s with
              sockets := Function.update s.sockets fd none
              context := { s.context with fd := none } })

end Libvalkey.Net
