import Libvalkey.Net.Context

/-! # Descriptors of a context

Which descriptors are open, and what a context says of its own. -/

namespace Libvalkey.Net

open Checked Programs

/-! ## What is kept -/

/-- The sockets of others with that of a context. -/
def place (others : Sockets) : Option (Nat × Socket) → Sockets
  | none => others
  | some own => Function.update others own.1 (some own.2)

/-- The sockets of the process are those of others, which are as they were, and that of the
context. -/
structure Has (others : Sockets) (own : Option (Nat × Socket)) (s : System) : Prop where
  fd : s.context.fd = own.map Prod.fst
  sockets : s.sockets = place others own
  free : ∀ fd ∈ own.map Prod.fst, others fd = none

/-- What a context keeps while it is connected. -/
def NetContext.setup (c : NetContext) : NetContext :=
  { c with fd := none, err := none, connected := false, saddr := none }

/-- What functions leave: sockets and an error. -/
structure Leaves (others : Sockets) (own : Option (Nat × Socket)) (err : Option ContextError)
    (s last : System) : Prop where
  has : Has others own last
  err : last.context.err = err
  setup : last.context.setup = s.context.setup
  tried : last.tried = s.tried

/-- No descriptor is used that is not open. -/
def NotClosed (stop : Stop) : Prop := ∀ fd, stop ≠ .closed fd

variable {others : Sockets} {own next : Option (Nat × Socket)} {s first last : System}
  {fd : Nat} {sock : Socket} {err more : Option ContextError}

theorem Has.leaves (has : Has others own s) : Leaves others own s.context.err s s :=
  ⟨has, rfl, rfl, rfl⟩

theorem Leaves.trans (before : Leaves others own err s first)
    (after : Leaves others next more first last) : Leaves others next more s last :=
  ⟨after.has, after.err, after.setup.trans before.setup, after.tried.trans before.tried⟩

/-- A function that leaves the error as it is, after another. -/
theorem Leaves.andThen (before : Leaves others own err s first)
    (after : Leaves others next first.context.err first last) : Leaves others next err s last :=
  before.err ▸ before.trans after

/-- What does not belong to the context or its sockets does not matter. -/
theorem Leaves.of_system (leaves : Leaves others own err s last) (errno : Option Errno)
    (calls : Nat) : Leaves others own err s { last with errno := errno, calls := calls } :=
  ⟨⟨leaves.has.fd, leaves.has.sockets, leaves.has.free⟩, leaves.err, leaves.setup, leaves.tried⟩

/-- What a function leaves that returns a status. One that fails has set an error, unless it is
`silent`. -/
inductive Goes (others : Sockets) (good : Option (Nat × Socket) → Prop) (silent : Prop)
    (s : System) : Status → System → Prop
  | ok {own : Option (Nat × Socket)} {last : System}
      (leaves : Leaves others own s.context.err s last) (holds : good own) :
      Goes others good silent s .ok last
  | err {own : Option (Nat × Socket)} {err : Option ContextError} {last : System}
      (leaves : Leaves others own err s last) (failed : err ≠ none ∨ silent) :
      Goes others good silent s .err last

variable {good : Option (Nat × Socket) → Prop} {silent : Prop} {status : Status}

theorem Goes.after (leaves : Leaves others own s.context.err s first)
    (goes : Goes others good silent first status last) : Goes others good silent s status last := by
  cases goes with
  | ok later holds => exact .ok (leaves.err ▸ leaves.trans later) holds
  | err later failed => exact .err (leaves.trans later) failed

theorem Goes.mono {better : Option (Nat × Socket) → Prop} {allowed : Prop}
    (goes : Goes others good silent s status last) (implies : ∀ own, good own → better own)
    (allows : silent → allowed) : Goes others better allowed s status last := by
  cases goes with
  | ok leaves holds => exact .ok leaves (implies _ holds)
  | err leaves failed => exact .err leaves (failed.imp_right allows)

/-! ## System calls -/

theorem does_get {α : Type} {allowed : Stop → Prop} {next : System → NetProgram α}
    {final : α → System → Prop} (does : Does allowed (next s) s final) :
    Does allowed (get >>= next) s final :=
  does_step rfl does

theorem does_ask {α β : Type} {allowed : Stop → Prop} {answer : Nat → α}
    {next : α → NetProgram β} {final : β → System → Prop}
    (does : ∀ value, Does allowed (next value) { s with calls := s.calls + 1 } final) :
    Does allowed (ask answer >>= next) s final :=
  does_step rfl (does (answer s.calls))

theorem does_change {β : Type} {allowed : Stop → Prop} {effect : NetContext → NetContext}
    {next : Unit → NetProgram β} {final : β → System → Prop}
    (does : Does allowed (next ()) { s with context := effect s.context } final) :
    Does allowed (change effect >>= next) s final :=
  does_step rfl does

theorem does_last_change {allowed : Stop → Prop} {effect : NetContext → NetContext}
    {final : Unit → System → Prop} (holds : final () { s with context := effect s.context }) :
    Does allowed (change effect) s final := does_of_ok rfl holds

theorem Has.open (has : Has others (some (fd, sock)) s) : s.sockets fd = some sock := by
  rw [has.sockets]
  exact Function.update_self fd (some sock) others

theorem Has.update (has : Has others (some (fd, sock)) s) (other : Socket) :
    Function.update s.sockets fd (some other) = place others (some (fd, other)) := by
  rw [has.sockets]
  exact Function.update_idem _ _ _

section Calls

variable {α : Type} {invalid : α} {answer : Nat → α} {errno : α → Option Errno}
  {effect : α → Socket → Socket}

theorem does_onSocket (has : Has others (some (fd, sock)) s) :
    Does NotClosed (onSocket invalid answer errno effect) s fun value last =>
      Leaves others (some (fd, effect value sock)) s.context.err s last ∧
        last.errno = (errno value).or s.errno := by
  have named : s.context.fd = some fd := has.fd
  unfold onSocket
  rw [does_iff, named]
  dsimp only
  rw [has.open]
  exact ⟨⟨⟨has.fd, has.update _, has.free⟩, rfl, rfl, rfl⟩, rfl⟩

theorem does_onSocket_none (has : Has others none s) :
    Does NotClosed (onSocket invalid answer errno effect) s fun value last =>
      value = invalid ∧ Leaves others none s.context.err s last := by
  have named : s.context.fd = none := has.fd
  unfold onSocket
  rw [does_iff, named]
  exact ⟨rfl, ⟨⟨has.fd, has.sockets, has.free⟩, rfl, rfl, rfl⟩⟩

end Calls

/-- A call that changes no socket may be made on any context. -/
theorem does_control (platform : Platform) (has : Has others own s) :
    Does NotClosed (control platform id) s fun _ last =>
      Leaves others own s.context.err s last := by
  unfold control
  cases own with
  | none =>
      refine Does.bind (does_onSocket_none has) fun failed first result => ?_
      exact does_pure result.2
  | some entry =>
      obtain ⟨fd, sock⟩ := entry
      refine Does.bind (does_onSocket has) fun failed first result => ?_
      refine does_pure ?_
      have leaves := result.1
      rwa [id_eq, ite_self] at leaves

theorem does_setBlockingFlag (platform : Platform) (nonblocking : Bool)
    (has : Has others (some (fd, sock)) s) :
    Does NotClosed (control platform fun sock => { sock with nonblocking := nonblocking }) s
      fun status last => Leaves others
        (some (fd, if status = .ok then { sock with nonblocking := nonblocking } else sock))
        s.context.err s last := by
  unfold control
  refine Does.bind (does_onSocket has) fun failed first result => ?_
  refine does_pure ?_
  have leaves := result.1
  split at leaves
  · rename_i done
    rwa [if_pos done, if_pos rfl]
  · rename_i done
    rwa [if_neg done, if_neg Status.noConfusion]

/-! ## Errors -/

theorem does_setError (type : ErrorType) (str : Bytes) (has : Has others own s) :
    Does NotClosed (valkeySetError type str) s fun _ last =>
      ∃ err, err ≠ none ∧ Leaves others own err s last :=
  does_of_ok rfl ⟨_, Option.some_ne_none _, ⟨⟨has.fd, has.sockets, has.free⟩, rfl, rfl, rfl⟩⟩

theorem does_setErrorFromErrno (platform : Platform) (type : ErrorType) (start : Option String)
    (has : Has others own s) :
    Does NotClosed (valkeySetErrorFromErrno platform type start) s fun _ last =>
      ∃ err, err ≠ none ∧ Leaves others own err s last :=
  does_of_ok rfl ⟨_, Option.some_ne_none _, ⟨⟨has.fd, has.sockets, has.free⟩, rfl, rfl, rfl⟩⟩

theorem does_close (has : Has others own s) :
    Does NotClosed valkeyNetClose s fun _ last =>
      Leaves others none s.context.err s last := by
  unfold valkeyNetClose
  cases own with
  | none =>
      have named : s.context.fd = none := has.fd
      rw [does_iff, named]
      exact has.leaves
  | some entry =>
      obtain ⟨fd, sock⟩ := entry
      have named : s.context.fd = some fd := has.fd
      rw [does_iff, named]
      dsimp only
      rw [has.open]
      refine ⟨⟨rfl, ?_, nofun⟩, rfl, rfl, rfl⟩
      -- the descriptor was free before it was the context's
      have gone : Function.update (place others (some (fd, sock))) fd none = others := by
        rw [place, Function.update_idem, ← has.free fd rfl, Function.update_eq_self]
      rw [has.sockets]
      exact gone

theorem does_failAndClose (platform : Platform) (type : ErrorType) (start : Option String)
    (has : Has others own s) :
    Does NotClosed (failAndClose platform type start) s fun status last =>
      status = .err ∧ ∃ err, err ≠ none ∧ Leaves others none err s last := by
  unfold failAndClose
  refine Does.bind (does_setErrorFromErrno platform type start has) ?_
  rintro _ first ⟨err, set, leaves⟩
  refine Does.bind (does_close leaves.has) fun _ last closed => ?_
  refine does_pure ⟨rfl, _, ?_, leaves.trans closed⟩
  rw [leaves.err]
  exact set

theorem does_failAfter (platform : Platform) (type : ErrorType) (start : Option String)
    (leaves : Leaves others own s.context.err s first) :
    Does NotClosed (failAndClose platform type start) first (Goes others good silent s) := by
  refine (does_failAndClose platform type start leaves.has).mono fun _ _ result => ?_
  obtain ⟨rfl, err, set, later⟩ := result
  exact .err (leaves.trans later) (.inl set)

/-- A function that returns a status, and what follows it. -/
theorem goes_bind {α : Type} {program : NetProgram Status} {next : Status → NetProgram α}
    {final : α → System → Prop} (does : Does NotClosed program s (Goes others good silent s))
    (ok : ∀ own last, Leaves others own s.context.err s last → good own →
      Does NotClosed (next .ok) last final)
    (err : ∀ own err last, Leaves others own err s last → err ≠ none ∨ silent →
      Does NotClosed (next .err) last final) :
    Does NotClosed (program >>= next) s final := by
  refine Does.bind does fun status last goes => ?_
  cases goes with
  | ok leaves holds => exact ok _ _ leaves holds
  | err leaves failed => exact err _ _ _ leaves failed

/-! ## Options -/

theorem does_setBlocking (platform : Platform) (blocking : Bool) (silent : Prop)
    (has : Has others (some (fd, sock)) s) :
    Does NotClosed (valkeySetBlocking platform blocking) s
      (Goes others (· = some (fd, { sock with nonblocking := !blocking })) silent s) := by
  unfold valkeySetBlocking
  refine Does.bind (does_control platform has) fun status first leaves => ?_
  cases status with
  | err => exact does_failAfter platform _ _ leaves
  | ok =>
      refine Does.bind (does_setBlockingFlag platform _ leaves.has) fun status last later => ?_
      rw [leaves.err] at later
      cases status with
      | err => exact does_failAfter platform _ _ (leaves.trans later)
      | ok => exact does_pure (.ok (leaves.trans later) rfl)

/-- What an option leaves whose failure closes the socket. -/
def OptionGoes (others : Sockets) (own : Option (Nat × Socket)) (s : System) (status : Status)
    (last : System) : Prop :=
  (status = .ok ∧ Leaves others own s.context.err s last) ∨
    status = .err ∧ ∃ err, err ≠ none ∧ Leaves others none err s last

theorem does_option (platform : Platform) (type : ErrorType) (start : Option String)
    (has : Has others own s) :
    Does NotClosed
      (do
        match ← control platform id with
        | .err => failAndClose platform type start
        | .ok => pure .ok) s (OptionGoes others own s) := by
  refine Does.bind (does_control platform has) fun status first leaves => ?_
  cases status with
  | err =>
      refine (does_failAndClose platform type start leaves.has).mono fun _ _ result => ?_
      obtain ⟨failed, err, set, later⟩ := result
      exact .inr ⟨failed, err, set, leaves.trans later⟩
  | ok => exact does_pure (.inl ⟨rfl, leaves⟩)

theorem does_setTcpNoDelay (platform : Platform) (has : Has others own s) :
    Does NotClosed (valkeySetTcpNoDelay platform) s (Goes others (· = own) silent s) := by
  refine (does_option platform _ _ has).mono fun _ _ result => ?_
  obtain ⟨rfl, leaves⟩ | ⟨rfl, err, set, leaves⟩ := result
  · exact .ok leaves rfl
  · exact .err leaves (.inl set)

/-- Options whose failure is only an error. -/
theorem does_setOptions (platform : Platform) (type : ErrorType) (starts : List (Option String))
    (has : Has others own s) :
    Does NotClosed (setOptions platform type starts) s fun _ last =>
      ∃ err, Leaves others own err s last := by
  induction starts generalizing s with
  | nil => exact does_pure ⟨_, has.leaves⟩
  | cons start rest induction =>
      unfold setOptions
      refine Does.bind (does_control platform has) fun status first leaves => ?_
      cases status with
      | err =>
          refine Does.bind (does_setErrorFromErrno platform type start leaves.has) ?_
          rintro _ last ⟨err, failed, later⟩
          exact does_pure ⟨err, leaves.trans later⟩
      | ok =>
          refine (induction leaves.has).mono fun _ _ result => ?_
          obtain ⟨err, later⟩ := result
          exact ⟨err, leaves.trans later⟩

/-! ## Waiting -/

theorem connectEffect_nonblocking (failed : Option Errno) (sock : Socket) :
    (connectEffect failed sock).nonblocking = sock.nonblocking := by
  unfold connectEffect
  split <;> rfl

theorem soErrorEffect_nonblocking (value : Except Errno (Option Errno)) (sock : Socket) :
    (soErrorEffect value sock).nonblocking = sock.nonblocking := by
  unfold soErrorEffect
  split
  · split <;> rfl
  · rfl
  · rfl

/-- A socket that was asked about. -/
structure Asked (sock after : Socket) (result : Status × Bool) : Prop where
  nonblocking : after.nonblocking = sock.nonblocking
  done : result = (.ok, true) → after.link = .connected

theorem does_checkConnectDone (platform : Platform) (address : Address)
    (has : Has others (some (fd, sock)) s) :
    Does NotClosed (valkeyCheckConnectDone platform address) s fun result last =>
      ∃ after, Asked sock after result ∧
        Leaves others (some (fd, after)) s.context.err s last ∧
          (result ≠ (.ok, true) → last.errno ≠ none) := by
  unfold valkeyCheckConnectDone connect
  refine Does.bind (does_onSocket has) fun error first result => ?_
  obtain ⟨leaves, errno⟩ := result
  rcases error with _ | error
  · exact does_pure
      ⟨connectEffect none sock, ⟨rfl, fun _ => rfl⟩, leaves, fun other => absurd rfl other⟩
  have failed : first.errno ≠ none := by
    rw [errno]
    exact Option.some_ne_none error
  have other (different : error ≠ .inProgress) :
      Does NotClosed (pure (connectDone (some error)) : NetProgram (Status × Bool)) first
        fun result last => ∃ after, Asked sock after result ∧
          Leaves others (some (fd, after)) s.context.err s last ∧
            (result ≠ (.ok, true) → last.errno ≠ none) := by
    refine does_pure ⟨_, ⟨connectEffect_nonblocking _ _, fun done => ?_⟩, leaves, fun _ => failed⟩
    cases error with
    | isConnected => rfl
    | _ => cases done
  cases error with
  | inProgress =>
      unfold soError
      refine Does.bind (does_onSocket leaves.has) fun value last result => ?_
      obtain ⟨later, errno⟩ := result
      rw [leaves.err] at later
      have same := (soErrorEffect_nonblocking value (connectEffect (some .inProgress) sock)).trans
        (connectEffect_nonblocking _ _)
      rcases value with problem | problem
      · refine does_pure ⟨_, ⟨same, nofun⟩, leaves.trans later, fun _ => ?_⟩
        rw [errno]
        exact Option.some_ne_none problem
      · rcases problem with _ | problem
        · exact does_pure
            ⟨_, ⟨same, fun _ => rfl⟩, leaves.trans later, fun other => absurd rfl other⟩
        · refine does_step rfl (does_pure ⟨_, ⟨same, fun done => ?_⟩, ?_, fun _ =>
            Option.some_ne_none problem⟩)
          · cases problem with
            | isConnected => rfl
            | _ => cases done
          · exact (leaves.trans later).of_system _ _
  | _ => exact other nofun

/-- A failed connection always has an error. -/
theorem does_checkSocketError (platform : Platform) (silent : Prop)
    (has : Has others (some (fd, sock)) s) (failed : s.errno ≠ none) :
    Does NotClosed (valkeyCheckSocketError platform) s (Goes others (fun _ => False) silent s) := by
  unfold valkeyCheckSocketError soError
  refine does_get (Does.bind (does_onSocket has) fun value first result => ?_)
  obtain ⟨leaves, _⟩ := result
  rcases value with problem | error
  · refine Does.bind (does_setErrorFromErrno platform _ _ leaves.has) ?_
    rintro _ last ⟨err, set, later⟩
    exact does_pure (.err (leaves.trans later) (.inl set))
  · dsimp only
    cases found : error.or s.errno with
    | none => exact absurd (Option.or_eq_none_iff.mp found).2 failed
    | some errno =>
        have marked := leaves.of_system (some errno) first.calls
        refine does_step rfl (Does.bind (does_setErrorFromErrno platform _ _ marked.has) ?_)
        rintro _ last ⟨err, set, later⟩
        exact does_pure (.err (marked.trans later) (.inl set))

theorem notClosed_waits : NotClosed .waits := nofun

/-- A wait for a socket does not change it. -/
theorem does_pollUntilReady (platform : Platform) (end_ : Option Int) (patience : Nat)
    (silent : Prop)
    (has : Has others (some (fd, sock)) s) :
    Does NotClosed (pollUntilReady platform end_ patience) s
      (Goes others (· = some (fd, sock)) silent s) := by
  induction patience generalizing s with
  | zero => exact does_throw notClosed_waits
  | succ patience induction =>
      have timeout {first : System}
          (leaves : Leaves others (some (fd, sock)) s.context.err s first) :
          Does NotClosed (do setErrno (some .timedOut); failAndClose platform .io none) first
            (Goes others (· = some (fd, sock)) silent s) :=
        does_step rfl (does_failAfter platform _ _ (leaves.of_system _ _))
      have again {first : System} (leaves : Leaves others (some (fd, sock)) s.context.err s first) :
          Does NotClosed (pollUntilReady platform end_ patience) first
            (Goes others (· = some (fd, sock)) silent s) :=
        (induction leaves.has).mono fun _ _ goes => goes.after leaves
      unfold pollUntilReady poll
      refine Does.bind (does_onSocket has) fun value first result => ?_
      have leaves := result.1
      rcases value with errno | ready
      · cases errno with
        | interrupted =>
            cases end_ with
            | none => exact again leaves
            | some end_ =>
                refine does_ask fun now => ?_
                have asked := leaves.of_system first.errno (first.calls + 1)
                exact does_ite (fun _ => timeout asked) fun _ => again asked
        | _ => exact does_failAfter platform _ _ leaves
      · cases ready with
        | true => exact does_pure (.ok leaves rfl)
        | false => exact timeout leaves

/-- The context has a socket. -/
def Open (nonblocking : Bool) (links : Link → Prop) (own : Option (Nat × Socket)) : Prop :=
  ∃ entry, own = some entry ∧ entry.2.nonblocking = nonblocking ∧ links entry.2.link

theorem does_finishConnect (platform : Platform) (address : Address)
    (has : Has others (some (fd, sock)) s) :
    Does NotClosed (finishConnect platform address) s
      (Goes others (Open sock.nonblocking (· = .connected)) silent s) := by
  unfold finishConnect
  refine Does.bind (does_checkConnectDone platform address has) ?_
  rintro result first ⟨after, asked, leaves, failed⟩
  have fails (other : result ≠ (.ok, true)) :
      Does NotClosed (do let _ ← valkeyCheckSocketError platform; pure Status.err) first
        (Goes others (Open sock.nonblocking (· = .connected)) silent s) := by
    refine goes_bind (does_checkSocketError platform False leaves.has (failed other))
      (fun _ _ _ impossible => impossible.elim) fun own err last later set => ?_
    exact does_pure (.err (leaves.trans later) (set.imp_right False.elim))
  obtain ⟨status, completed⟩ := result
  cases status with
  | err => exact fails nofun
  | ok =>
      cases completed with
      | false => exact fails nofun
      | true => exact does_pure (.ok leaves ⟨_, rfl, asked.nonblocking, asked.done rfl⟩)

theorem does_waitReady (platform : Platform) (address : Address) (msec : Int)
    (has : Has others (some (fd, sock)) s) :
    Does NotClosed (valkeyContextWaitReady platform address msec) s
      (Goes others (Open sock.nonblocking (· = .connected)) silent s) := by
  unfold valkeyContextWaitReady
  refine does_get (does_ite (fun _ => does_failAfter platform _ _ has.leaves) fun _ => ?_)
  have waited : Does NotClosed (waitUntil platform msec) s fun _ last =>
      Leaves others (some (fd, sock)) s.context.err s last := by
    unfold waitUntil
    exact does_ite (fun _ => does_ask fun _ => does_pure (has.leaves.of_system _ _))
      fun _ => does_pure has.leaves
  refine Does.bind waited fun end_ first leaves => ?_
  refine goes_bind (does_pollUntilReady platform end_ _ silent leaves.has) ?_ ?_
  · rintro own second later rfl
    rw [leaves.err] at later
    exact (does_finishConnect platform address later.has).mono fun _ _ goes =>
      goes.after (leaves.trans later)
  · intro own err last later failed
    exact does_pure (.err (leaves.trans later) failed)

/-! ## One address -/

/-- What a try to connect leaves. -/
inductive AttemptGoes (others : Sockets) (good : Option (Nat × Socket) → Prop) (silent : Prop)
    (s : System) : Attempt → System → Prop
  | connected {own : Option (Nat × Socket)} {last : System} (leaves : Leaves others own none s last)
      (holds : good own) : AttemptGoes others good silent s .connected last
  | failed {err : Option ContextError} {last : System} (leaves : Leaves others none err s last) :
      AttemptGoes others good silent s .failed last
  | unavailable {err : Option ContextError} {last : System}
      (leaves : Leaves others none err s last) : AttemptGoes others good silent s .unavailable last
  | error {own : Option (Nat × Socket)} {err : Option ContextError} {last : System}
      (leaves : Leaves others own err s last) (failed : err ≠ none ∨ silent) :
      AttemptGoes others good silent s .error last
  | oom {own : Option (Nat × Socket)} {err : Option ContextError} {last : System}
      (leaves : Leaves others own err s last) : AttemptGoes others good silent s .oom last

variable {attempt : Attempt}

theorem AttemptGoes.after (leaves : Leaves others own err s first)
    (goes : AttemptGoes others good silent first attempt last) :
    AttemptGoes others good silent s attempt last := by
  cases goes with
  | connected later holds => exact .connected (leaves.trans later) holds
  | failed later => exact .failed (leaves.trans later)
  | unavailable later => exact .unavailable (leaves.trans later)
  | error later failed => exact .error (leaves.trans later) failed
  | oom later => exact .oom (leaves.trans later)

/-- An optional step. -/
theorem does_optional {program : NetProgram Status} (good : Option (Nat × Socket) → Prop)
    (silent : Prop) (condition : Bool) (has : Has others own s)
    (does : condition = true → Does NotClosed program s (Goes others good silent s))
    (holds : condition = false → good own) :
    Does NotClosed (if condition then program else pure .ok) s (Goes others good silent s) :=
  does_ite does fun no => does_pure (.ok has.leaves (holds (Bool.eq_false_iff.mpr no)))

/-- A connection that a context is content with. -/
def Settled (blocking : Bool) (link : Link) : Prop :=
  link = .connected ∨ blocking = false ∧ link = .inProgress

theorem does_afterConnect (platform : Platform) (blocking : Bool)
    (has : Has others (some (fd, sock)) s) (nonblocking : sock.nonblocking = true)
    (settled : Settled blocking sock.link) :
    Does NotClosed (afterConnect platform blocking) s
      (AttemptGoes others (Open (!blocking) (Settled blocking)) silent s) := by
  unfold afterConnect
  refine goes_bind (does_optional (· = some (fd, sock)) silent blocking has
    (fun _ => does_setTcpNoDelay platform has) fun _ => rfl) ?_ ?_
  · rintro own first leaves rfl
    refine goes_bind (does_optional (Open (!blocking) (Settled blocking)) silent blocking
      leaves.has ?_ ?_) ?_ ?_
    · rintro rfl
      refine (does_setBlocking platform true silent leaves.has).mono fun _ _ goes =>
        goes.mono ?_ id
      rintro _ rfl
      exact ⟨_, rfl, rfl, settled⟩
    · rintro rfl
      exact ⟨_, rfl, nonblocking, settled⟩
    · intro own last later holds
      refine does_step rfl (does_step rfl (does_pure (.connected ⟨?_, rfl, ?_, ?_⟩ holds)))
      · exact ⟨later.has.fd, later.has.sockets, later.has.free⟩
      · exact later.setup.trans leaves.setup
      · exact later.tried.trans leaves.tried
    · intro own err last later failed
      exact does_pure (.error (leaves.trans later) failed)
  · intro own err last leaves failed
    exact does_pure (.error leaves failed)

theorem does_connectTo (platform : Platform) (blocking reuseaddr : Bool) (msec : Int)
    (address : Address) (has : Has others (some (fd, sock)) s)
    (nonblocking : sock.nonblocking = true) :
    Does NotClosed (connectTo platform blocking reuseaddr msec address) s
      (AttemptGoes others (Open (!blocking) (Settled blocking)) silent s) := by
  unfold connectTo connect
  refine Does.bind (does_onSocket has) fun error first result => ?_
  have leaves := result.1
  have same := (connectEffect_nonblocking error sock).trans nonblocking
  rcases error with _ | error
  · exact (does_afterConnect platform blocking leaves.has same (.inl rfl)).mono
      fun _ _ goes => goes.after leaves
  have closes (attempt : Attempt) (fails : ∀ {err : Option ContextError} {last : System},
      Leaves others none err s last →
        AttemptGoes others (Open (!blocking) (Settled blocking)) silent s attempt last)
      {own : Option (Nat × Socket)} {err : Option ContextError} {second : System}
      (later : Leaves others own err s second) :
      Does NotClosed (do valkeyNetClose; pure attempt) second
        (AttemptGoes others (Open (!blocking) (Settled blocking)) silent s) := by
    refine Does.bind (does_close later.has) fun _ last closed => ?_
    exact does_pure (fails (later.trans closed))
  have other (fallback : Attempt) (same : fallback = .unavailable ∨ fallback = .failed) :
      Does NotClosed (do valkeyNetClose; pure fallback) first
        (AttemptGoes others (Open (!blocking) (Settled blocking)) silent s) := by
    rcases same with rfl | rfl
    · exact closes .unavailable .unavailable leaves
    · exact closes .failed .failed leaves
  cases error with
  | inProgress =>
      refine goes_bind (does_optional (Open true (Settled blocking)) silent blocking leaves.has
        ?_ ?_) ?_ ?_
      · intro _
        refine (does_waitReady platform address msec leaves.has).mono fun _ _ goes =>
          goes.mono ?_ id
        rintro _ ⟨entry, rfl, stays, link⟩
        exact ⟨entry, rfl, stays.trans same, .inl link⟩
      · intro unblocked
        exact ⟨_, rfl, same, .inr ⟨unblocked, rfl⟩⟩
      · rintro _ second later ⟨entry, rfl, stays, settled⟩
        exact (does_afterConnect platform blocking later.has stays settled).mono
          fun _ _ goes => goes.after (leaves.trans later)
      · intro own err second later _
        exact closes .failed .failed (leaves.trans later)
  | _ => exact other _ (by split <;> simp)

theorem does_bindFirst (platform : Platform) (count : Nat) (has : Has others own s) :
    Does NotClosed (bindFirst platform count) s fun _ last =>
      Leaves others own s.context.err s last := by
  induction count generalizing s with
  | zero => exact does_pure has.leaves
  | succ count induction =>
      unfold bindFirst
      refine Does.bind (does_control platform has) fun status first leaves => ?_
      cases status with
      | ok => exact does_pure leaves
      | err =>
          exact (induction leaves.has).mono fun _ _ later => leaves.trans (leaves.err ▸ later)

/-- Only a socket option that cannot be set leaves no error. -/
theorem does_bindSource (platform : Platform) (reuseaddr : Bool) (source : Bytes) (family : Family)
    (has : Has others own s) :
    Does NotClosed (bindSource platform reuseaddr source family) s
      (Goes others (· = own) (reuseaddr = true) s) := by
  unfold bindSource
  refine does_ask fun found => ?_
  have asked := has.leaves.of_system s.errno (s.calls + 1)
  rcases found with error | count
  · refine Does.bind (does_setError _ _ asked.has) ?_
    rintro _ last ⟨err, set, leaves⟩
    exact does_pure (.err (asked.trans leaves) (.inl set))
  · have optional : Does NotClosed (if reuseaddr then control platform id else pure .ok)
        { s with calls := s.calls + 1 } (Goes others (· = own) (reuseaddr = true) s) := by
      refine does_ite (fun reuse => ?_) fun _ => does_pure (.ok asked rfl)
      refine (does_control platform asked.has).mono fun status last leaves => ?_
      cases status with
      | ok => exact .ok (asked.trans leaves) rfl
      | err => exact .err (asked.trans leaves) (.inr reuse)
    refine Does.bind optional fun status first goes => ?_
    cases goes with
    | err leaves failed => exact does_pure (.err leaves failed)
    | ok leaves same =>
        cases same
        refine Does.bind (does_bindFirst platform count leaves.has) fun bound second later => ?_
        rw [leaves.err] at later
        refine does_ite (fun _ => does_pure (.ok (leaves.trans later) rfl)) fun _ => ?_
        refine Does.bind (does_setErrorFromErrno platform _ _ later.has) ?_
        rintro _ last ⟨err, set, final⟩
        exact does_pure (.err ((leaves.trans later).trans final) (.inl set))

/-- A context whose `SO_REUSEADDR` can fail without an error. -/
def Silent (c : NetContext) : Prop := c.sourceAddr ≠ none ∧ c.reuseaddr = true

theorem does_bindContext (platform : Platform) (c : NetContext) (family : Family)
    (has : Has others own s) :
    Does NotClosed (bindContext platform c family) s (Goes others (· = own) (Silent c) s) := by
  unfold bindContext
  cases named : c.sourceAddr with
  | none => exact does_pure (.ok has.leaves rfl)
  | some source =>
      refine (does_bindSource platform c.reuseaddr source family has).mono fun _ _ goes =>
        goes.mono (fun _ same => same) fun reuse => ⟨?_, reuse⟩
      rw [named]
      exact Option.some_ne_none source

theorem does_socket (platform : Platform) (has : Has others none s) :
    Does NotClosed (socket platform) s fun made last =>
      match made with
      | none => Leaves others none s.context.err s last
      | some fd =>
          others fd = none ∧ last.context = s.context ∧ last.tried = s.tried ∧
            last.sockets = place others (some (fd, ⟨false, .unconnected⟩)) := by
  have alone : s.sockets = others := has.sockets
  unfold socket
  rw [does_iff, alone]
  cases made : platform.socket others s.calls with
  | error errno => exact ⟨⟨has.fd, rfl, nofun⟩, rfl, rfl, rfl⟩
  | ok fd => exact ⟨platform.fresh _ _ _ made, rfl, rfl, rfl⟩

/-- The setup of a context decides what depends on it. -/
theorem setup_eq {c other : NetContext} (same : c.setup = other.setup) :
    c.block = other.block ∧ c.reuseaddr = other.reuseaddr ∧ c.sourceAddr = other.sourceAddr := by
  have block := congrArg NetContext.block same
  have reuse := congrArg NetContext.reuseaddr same
  have source := congrArg NetContext.sourceAddr same
  exact ⟨block, reuse, source⟩

/-- A try, after which the address is one of those that were tried. -/
theorem does_tryAddress (platform : Platform) (msec : Int) (address : Address)
    (has : Has others none s) :
    Does NotClosed (tryAddress platform msec address) s
      (AttemptGoes others (Open (!s.context.block) (Settled s.context.block)) (Silent s.context)
        { s with tried := s.tried ++ [address] }) := by
  unfold tryAddress
  refine does_step (show noteTry address s = .ok ((), { s with tried := s.tried ++ [address] }) from
    rfl) ?_
  have marked : Has others none { s with tried := s.tried ++ [address] } :=
    ⟨has.fd, has.sockets, has.free⟩
  generalize same : ({ s with tried := s.tried ++ [address] } : System) = start at marked ⊢
  have context : start.context = s.context := by rw [← same]
  rw [← context]
  refine Does.bind (does_socket platform marked) fun made first result => ?_
  cases made with
  | none => exact does_pure (.failed result)
  | some fd =>
      obtain ⟨free, sameContext, tried, sockets⟩ := result
      refine does_change ?_
      have opened : Leaves others (some (fd, ⟨false, .unconnected⟩)) start.context.err start
          { first with context := { first.context with fd := some fd } } := by
        refine ⟨⟨rfl, sockets, ?_⟩, ?_, ?_, tried⟩
        · rintro _ ⟨⟩
          exact free
        · rw [← sameContext]
        · rw [← sameContext]
          rfl
      refine goes_bind (does_setBlocking platform false (Silent start.context) opened.has) ?_ ?_
      · rintro own second later rfl
        refine does_get ?_
        have leaves := opened.andThen later
        obtain ⟨block, reuse, source⟩ := setup_eq leaves.setup
        have silent : Silent second.context ↔ Silent start.context := by
          rw [Silent, Silent, source, reuse]
        refine goes_bind (does_bindContext platform second.context address.family leaves.has) ?_ ?_
        · rintro own third bound rfl
          rw [leaves.err] at bound
          have whole := leaves.trans bound
          refine does_ask fun memory => does_ite (fun _ => ?_) fun _ => ?_
          · refine does_change ?_
            rw [block]
            have saved : Leaves others (some (fd, ⟨true, .unconnected⟩)) start.context.err start
                { third with
                  calls := third.calls + 1
                  context := { third.context with saddr := some address } } :=
              ⟨⟨whole.has.fd, whole.has.sockets, whole.has.free⟩, whole.err, whole.setup,
                whole.tried⟩
            exact (does_connectTo platform start.context.block second.context.reuseaddr msec address
              saved.has rfl).mono fun _ _ goes => goes.after saved
          · have freed : Leaves others (some (fd, ⟨true, .unconnected⟩)) start.context.err start
                { third with
                  calls := third.calls + 1
                  context := { third.context with saddr := none } } :=
              ⟨⟨whole.has.fd, whole.has.sockets, whole.has.free⟩, whole.err, whole.setup,
                whole.tried⟩
            exact does_change (does_pure (.oom freed))
        · intro own err last bound failed
          exact does_pure (.error (leaves.trans bound) (failed.imp_right silent.mp))
      · intro own err last later failed
        exact does_pure (.error (opened.trans later) failed)

end Libvalkey.Net
