import Libvalkey.Net.Ownership

/-! # Runs of a context

Whatever a user does with a context, no descriptor is lost or closed twice, and a context without
an error is connected. -/

namespace Libvalkey.Net

open Checked Programs

variable {platform : Platform} {others : Sockets} {own : Option (Nat × Socket)}
  {s first last : System} {mine : Bool}

/-! ## Connecting -/

/-- `source_addr` -/
def Endpoint.sourceAddr : Endpoint → Option Bytes
  | .tcp _ _ sourceAddr => sourceAddr
  | _ => none

/-- The descriptor of the user. -/
def Endpoint.userFd : Endpoint → Option Nat
  | .userfd fd => fd
  | _ => none

theorem does_connectEndpoint (platform : Platform) {endpoint : Endpoint}
    {timeout : Option Timeval} (named : endpoint.type ≠ .userfd)
    (its : Its mine s.context endpoint timeout) (clean : s.context.err = none)
    (has : Has others none s) :
    Does NotClosed (connectEndpoint platform mine endpoint timeout) s
      (EndpointGoes platform mine others
        (endpoint.sourceAddr ≠ none ∧ s.context.reuseaddr = true) s) := by
  cases endpoint with
  | tcp ip port sourceAddr => exact does_connectTcp platform its has
  | unixSocket path => exact does_connectUnixSocket platform its clean has
  | userfd fd => exact absurd rfl named

/-- A socket timeout that cannot be set only leaves an error. -/
theorem does_setCommandTimeout (platform : Platform) (timeout : Option Timeval)
    (has : Has others own s) :
    Does NotClosed (setCommandTimeout platform timeout) s fun _ last =>
      ∃ err, Leaves others own err s last := by
  unfold setCommandTimeout
  refine does_get (does_ite (fun _ => ?_) fun _ => does_pure ⟨_, has.leaves⟩)
  exact Does.bind (does_setOptions platform _ _ has) fun _ _ result => does_pure result

theorem does_updateCommandTimeout (platform : Platform) (timeout : Option Timeval)
    (has : Has others own s) :
    Does NotClosed (valkeyContextUpdateCommandTimeout platform timeout) s fun _ last =>
      Prepares false others own s last := by
  unfold valkeyContextUpdateCommandTimeout
  cases timeout with
  | none => exact does_pure has.prepares
  | some timeout =>
      have stored : Plain false s.context fun c => { c with commandTimeout := some timeout } :=
        ⟨rfl, rfl, rfl, rfl, rfl, nofun⟩
      have nothing : Plain false s.context id := ⟨rfl, rfl, rfl, rfl, rfl, fun _ => rfl⟩
      exact does_get (does_storeTime platform _ (has.prepares.change stored s.errno)
        (has.prepares.change nothing s.errno))

theorem does_storeTimeouts (platform : Platform) (options : NetOptions) (has : Has others own s) :
    Does NotClosed (storeTimeouts platform options) s fun _ last =>
      Prepares false others own s last := by
  unfold storeTimeouts
  have first : Does NotClosed
      (valkeyContextUpdateConnectTimeout platform options.connectTimeout) s fun _ last =>
        Prepares false others own s last := by
    cases options.connectTimeout with
    | none => exact does_pure has.prepares
    | some timeout => exact does_storeConnectTimeout platform timeout rfl has
  refine Does.bind first fun status first prepares => ?_
  cases status with
  | err => exact does_pure prepares
  | ok =>
      exact (does_updateCommandTimeout platform options.commandTimeout prepares.has).mono
        fun _ _ later => prepares.trans later

/-- The sockets that are not the context's: those there were, but for a descriptor that the user
has passed. -/
def Remain (options : NetOptions) (before others : Sockets) : Prop :=
  others = before ∨
    ∃ fd, options.endpoint = .userfd (some fd) ∧ others = Function.update before fd none

/-- The options let `SO_REUSEADDR` fail without an error. -/
def NetOptions.Silent (options : NetOptions) : Prop :=
  options.endpoint.sourceAddr ≠ none ∧ options.reuseaddr = true

/-- The context has a socket that is connected, or that is being connected without blocking. -/
def Ready (nonblock : Bool) (before : Sockets) (s : System) : Prop :=
  ∃ own, Has before own s ∧ Open nonblock (Settled !nonblock) own

/-- What `valkeyConnectWithOptions` leaves. -/
structure Made (platform : Platform) (options : NetOptions) (s : System) (made : Bool)
    (last : System) : Prop where
  has : ∃ others own, Has others own last ∧ Remain options s.sockets others ∧
    ((made && last.context.funcs) = false → own = none)
  block : made = true → last.context.block = !options.nonblock
  ready : made = true → options.endpoint.type ≠ .userfd → ¬options.Silent →
    last.context.err = none → Ready options.nonblock s.sockets last
  looked : ∃ tries, last.tried = s.tried ++ tries ∧ Looked platform last.context tries

theorem does_contextInit (platform : Platform) :
    Does NotClosed (valkeyContextInit platform) s fun _ last =>
      Has s.sockets none last ∧ last.context = emptyContext ∧ last.tried = s.tried := by
  unfold valkeyContextInit
  exact does_ask fun _ => does_ask fun _ => does_ask fun _ =>
    does_change (does_pure ⟨⟨rfl, rfl, nofun⟩, rfl, rfl⟩)

/-- A descriptor of the user becomes the context's. -/
theorem has_userfd {before : Sockets} {fd : Nat} {sock : Socket} (opened : before fd = some sock)
    {context : NetContext} (named : context.fd = some fd) (sockets : s.sockets = before) :
    Has (Function.update before fd none) (some (fd, sock)) { s with context := context } where
  fd := named
  sockets := by
    rw [place, Function.update_idem, ← opened, Function.update_eq_self]
    exact sockets
  free := by
    rintro _ ⟨⟩
    exact Function.update_self fd none before

/-- A context that could not be connected. -/
theorem made_err {options : NetOptions} {err : Option ContextError}
    (leaves : Leaves s.sockets none err first last) (tried : first.tried = s.tried)
    (block : first.context.block = !options.nonblock) (failed : err ≠ none) :
    Made platform options s true last where
  has := ⟨_, none, leaves.has, .inl rfl, fun _ => rfl⟩
  block := fun _ => (setup_eq leaves.setup).1.trans block
  ready := fun _ _ _ clean => absurd (leaves.err.symm.trans clean) failed
  looked := ⟨[], by rw [List.append_nil, leaves.tried, tried], .inl rfl⟩

/-- The connection of a new context, and its timeout. -/
theorem does_connectNew (platform : Platform) (options : NetOptions) {start : System}
    (has : Has start.sockets none s) (clean : s.context.err = none)
    (block : s.context.block = !options.nonblock) (reuse : s.context.reuseaddr = options.reuseaddr)
    (funcs : s.context.funcs = true) (tried : s.tried = start.tried)
    (userFd : ∀ fd, options.endpoint = .userfd (some fd) → start.sockets fd ≠ none) :
    Does NotClosed
      (do
        let _ ← connectEndpoint platform false options.endpoint options.connectTimeout
        let s ← get
        if s.context.err = none then do
          setCommandTimeout platform options.commandTimeout
          pure true
        else pure true) s (Made platform options start) := by
  have ends {middle : Sockets} {own : Option (Nat × Socket)} {first : System}
      (has : Has middle own first) (remain : Remain options start.sockets middle)
      (same : first.context.block = !options.nonblock) (there : first.context.funcs = true)
      (looked : ∃ tries, first.tried = start.tried ++ tries ∧ Looked platform first.context tries)
      (ready : options.endpoint.type ≠ .userfd → ¬options.Silent → first.context.err = none →
        middle = start.sockets ∧ Open options.nonblock (Settled !options.nonblock) own) :
      Does NotClosed
        (do
          let s ← get
          if s.context.err = none then do
            setCommandTimeout platform options.commandTimeout
            pure true
          else pure true) first (Made platform options start) := by
    obtain ⟨tries, tried, looked⟩ := looked
    refine does_get (does_ite (fun clean => ?_) fun failed => does_pure ?_)
    · refine Does.bind (does_setCommandTimeout platform _ has) ?_
      rintro _ last ⟨err, leaves⟩
      have blocks := (setup_eq leaves.setup).1.trans same
      have functions := congrArg NetContext.funcs leaves.setup
      have host := congrArg NetContext.host leaves.setup
      have port := congrArg NetContext.port leaves.setup
      dsimp only [NetContext.setup] at functions host port
      refine does_pure ⟨⟨middle, own, leaves.has, remain, fun none => ?_⟩, fun _ => blocks, ?_,
        tries, leaves.tried.trans tried, ?_⟩
      · exact absurd (none.symm.trans (functions.trans there)) Bool.false_ne_true
      · intro _ type loud _
        obtain ⟨same, opened⟩ := ready type loud clean
        exact ⟨own, same ▸ leaves.has, opened⟩
      · rw [Looked, host, port]
        exact looked
    · exact ⟨⟨middle, own, has, remain, fun none =>
        absurd (none.symm.trans there) Bool.false_ne_true⟩, fun _ => same,
        fun _ _ _ clean => absurd clean failed, tries, tried, looked⟩
  have untried : ∃ tries, s.tried = start.tried ++ tries ∧ Looked platform s.context tries :=
    ⟨[], by rw [List.append_nil, tried], .inl rfl⟩
  by_cases type : options.endpoint.type = .userfd
  · cases endpoint : options.endpoint with
    | tcp ip port sourceAddr =>
        rw [endpoint] at type
        cases type
    | unixSocket path =>
        rw [endpoint] at type
        cases type
    | userfd fd =>
        unfold connectEndpoint valkeyContextConnectUserfd
        refine does_step rfl ?_
        cases fd with
        | none =>
            refine ends ⟨rfl, has.sockets, has.free⟩ (.inl rfl) block funcs untried
              fun other _ _ => ?_
            exact absurd type other
        | some fd =>
            obtain ⟨sock, opened⟩ := Option.ne_none_iff_exists'.mp (userFd fd endpoint)
            refine ends (has_userfd opened rfl has.sockets) (.inr ⟨fd, endpoint, rfl⟩) block funcs
              untried fun other _ _ => ?_
            exact absurd type other
  · have foreign : Its false s.context options.endpoint options.connectTimeout :=
      fun mine => absurd mine Bool.false_ne_true
    refine Does.bind (does_connectEndpoint platform type foreign clean has) ?_
    intro status first goes
    obtain ⟨own, owned, opened⟩ := goes.has
    obtain ⟨tries, more, looked⟩ := goes.looked
    refine ends owned (.inl rfl) (goes.keeps.block.trans block) (goes.keeps.funcs.trans funcs)
      ⟨tries, more.trans (congrArg (· ++ tries) tried), looked⟩ fun _ loud clean => ⟨rfl, ?_⟩
    cases status with
    | ok =>
        have opened := opened rfl
        rwa [block, Bool.not_not] at opened
    | err =>
        rcases goes.err rfl with failed | ⟨source, reused⟩
        · exact absurd clean failed
        · exact absurd ⟨source, reuse.symm.trans reused⟩ loud

theorem does_connectWithOptions (platform : Platform) (options : NetOptions)
    (userFd : ∀ fd, options.endpoint = .userfd (some fd) → s.sockets fd ≠ none) :
    Does NotClosed (valkeyConnectWithOptions platform options) s (Made platform options s) := by
  unfold valkeyConnectWithOptions
  refine Does.bind (does_contextInit platform) ?_
  rintro made first ⟨has, empty, tried⟩
  refine does_ite (fun _ => does_change ?_) fun _ => does_pure
    ⟨⟨_, none, has, .inl rfl, fun _ => rfl⟩, nofun, nofun, [], by rw [List.append_nil, tried],
      .inl rfl⟩
  refine does_ite (fun _ => ?_) fun _ => does_change ?_
  · have flagged : Has s.sockets none
        { first with
          context :=
            { first.context with
              block := !options.nonblock
              reuseaddr := options.reuseaddr
              preferIpv4 := options.preferIpv4
              preferIpv6 := options.preferIpv6 } } := ⟨has.fd, has.sockets, has.free⟩
    refine Does.bind (does_setError _ _ flagged) ?_
    rintro _ last ⟨err, set, leaves⟩
    exact does_pure (made_err leaves tried rfl set)
  · have named : Has s.sockets none
        { first with
          context :=
            { first.context with
              block := !options.nonblock
              reuseaddr := options.reuseaddr
              preferIpv4 := options.preferIpv4
              preferIpv6 := options.preferIpv6
              connectionType := options.endpoint.type
              funcs := true } } := ⟨has.fd, has.sockets, has.free⟩
    have clean : first.context.err = none := by rw [empty]; rfl
    refine Does.bind (does_storeTimeouts platform options named) fun status second prepared => ?_
    have block : second.context.block = !options.nonblock := prepared.keeps.block
    cases status with
    | err =>
        refine Does.bind (does_outOfMemory prepared.has) ?_
        rintro _ last ⟨_, err, set, leaves⟩
        exact does_pure (made_err leaves (prepared.tried.trans tried) block set)
    | ok =>
        exact does_connectNew platform options prepared.has (prepared.err.trans clean) block
          prepared.keeps.reuseaddr prepared.keeps.funcs (prepared.tried.trans tried) userFd

/-! ## Connecting again -/

theorem ownEndpoint_type {c : NetContext} {endpoint : Endpoint}
    (named : c.ownEndpoint = some endpoint) : endpoint.type ≠ .userfd := by
  unfold NetContext.ownEndpoint at named
  cases type : c.connectionType with
  | tcp =>
      rw [type] at named
      cases named
      exact nofun
  | unix =>
      rw [type] at named
      cases named
      exact nofun
  | userfd =>
      rw [type] at named
      cases named

theorem sourceAddr_ownEndpoint {c : NetContext} {endpoint : Endpoint}
    (named : c.ownEndpoint = some endpoint) (source : endpoint.sourceAddr ≠ none) :
    endpoint.sourceAddr = c.sourceAddr := by
  cases endpoint with
  | tcp ip port sourceAddr => exact (ownEndpoint_tcp named).2.2.symm
  | unixSocket path => exact absurd rfl source
  | userfd fd => exact absurd rfl source

/-- What `valkeyReconnect` leaves: the context keeps its endpoint. -/
structure Reconnected (platform : Platform) (others : Sockets) (s : System) (status : Status)
    (last : System) : Prop where
  has : ∃ own, Has others own last ∧
    (status = .ok → Open (!s.context.block) (Settled s.context.block) own)
  err : status = .err → last.context.err ≠ none ∨ Silent last.context
  setup : last.context.setup = s.context.setup
  looked : ∃ tries, last.tried = s.tried ++ tries ∧ Looked platform last.context tries

theorem reconnected_err {err : Option ContextError} (leaves : Leaves others own err s last)
    (failed : err ≠ none) : Reconnected platform others s .err last where
  has := ⟨own, leaves.has, nofun⟩
  err := fun _ => .inl (leaves.err.trans_ne failed)
  setup := leaves.setup
  looked := ⟨[], by rw [List.append_nil, leaves.tried], .inl rfl⟩

theorem does_reconnect (platform : Platform) (has : Has others own s) :
    Does NotClosed (valkeyReconnect platform) s (Reconnected platform others s) := by
  unfold valkeyReconnect
  have cleared : Leaves others own none s { s with context := { s.context with err := none } } :=
    ⟨⟨has.fd, has.sockets, has.free⟩, rfl, rfl, rfl⟩
  refine does_get (does_change (does_ite (fun _ => ?_) fun _ => does_throw nofun))
  refine Does.bind (does_close cleared.has) fun _ first closed => ?_
  have leaves := (cleared.andThen closed).of_system first.errno (first.calls + 1 + 1)
  refine does_ask fun obuf => does_ask fun reader => does_ite (fun _ => ?_) fun _ => ?_
  · have same : NetContext.ownEndpoint first.context = s.context.ownEndpoint :=
      have same := congrArg NetContext.ownEndpoint leaves.setup
      same
    have timeout : s.context.connectTimeout = first.context.connectTimeout :=
      have same := congrArg NetContext.connectTimeout leaves.setup
      same.symm
    cases named : s.context.ownEndpoint with
    | none =>
        refine Does.bind (does_setError _ _ leaves.has) ?_
        rintro _ last ⟨err, set, later⟩
        exact does_pure (reconnected_err (leaves.trans later) set)
    | some endpoint =>
        have its : Its true first.context endpoint s.context.connectTimeout :=
          fun _ => ⟨same.trans named, timeout⟩
        refine Does.bind (does_connectEndpoint platform (ownEndpoint_type named) its leaves.err
          leaves.has) fun status second goes => ?_
        have setup : second.context.setup = s.context.setup :=
          (goes.keeps.setup rfl).trans leaves.setup
        have block : first.context.block = s.context.block := (setup_eq leaves.setup).1
        obtain ⟨own, owned, opened⟩ := goes.has
        obtain ⟨tries, tried, looked⟩ := goes.looked
        have tried : second.tried = s.tried ++ tries :=
          tried.trans (congrArg (· ++ tries) leaves.tried)
        cases status with
        | err =>
            refine does_pure ⟨⟨own, owned, nofun⟩, fun _ => (goes.err rfl).imp_right ?_, setup,
              tries, tried, looked⟩
            rintro ⟨source, reuse⟩
            obtain ⟨_, sameReuse, sameSource⟩ := setup_eq setup
            refine ⟨?_, ?_⟩
            · rw [sameSource, ← sourceAddr_ownEndpoint named source]
              exact source
            · rw [sameReuse]
              exact (setup_eq leaves.setup).2.1.symm.trans reuse
        | ok =>
            refine Does.bind (does_setCommandTimeout platform _ owned) ?_
            rintro _ last ⟨err, later⟩
            have opened := opened rfl
            rw [block] at opened
            have host := congrArg NetContext.host later.setup
            have port := congrArg NetContext.port later.setup
            dsimp only [NetContext.setup] at host port
            refine does_pure ⟨⟨own, later.has, fun _ => opened⟩, nofun, later.setup.trans setup,
              tries, later.tried.trans tried, ?_⟩
            rw [Looked, host, port]
            exact looked
  · refine (does_outOfMemory leaves.has).mono fun status last result => ?_
    obtain ⟨rfl, err, set, later⟩ := result
    exact reconnected_err (leaves.trans later) set

/-! ## Calls -/

/-- What a context keeps as long as it lives. -/
def NetContext.settings (c : NetContext) : NetContext := { c.setup with commandTimeout := none }

/-- A context that lives: one without functions has no socket. -/
structure Lives (others : Sockets) (s : System) : Prop where
  has : ∃ own, Has others own s ∧ (s.context.funcs = false → own = none)

/-- What a call leaves. -/
structure Called (others : Sockets) (s last : System) : Prop where
  lives : Lives others last
  settings : last.context.settings = s.context.settings

/-- A call after which the socket is what it was, or closed. -/
theorem called_of_leaves {next : Option (Nat × Socket)} {err : Option ContextError}
    (living : s.context.funcs = false → own = none) (same : next = own ∨ next = none)
    (leaves : Leaves others next err s last) : Called others s last := by
  have settings : last.context.settings = s.context.settings :=
    congrArg (fun c => ({ c with commandTimeout := none } : NetContext)) leaves.setup
  have funcs : last.context.funcs = s.context.funcs :=
    have same := congrArg NetContext.funcs leaves.setup
    same
  refine ⟨⟨next, leaves.has, fun none => ?_⟩, settings⟩
  rcases same with rfl | rfl
  · exact living (funcs.symm.trans none)
  · rfl

theorem called_of_option {status : Status} (living : s.context.funcs = false → own = none)
    (goes : OptionGoes others own s status last) : Called others s last := by
  obtain ⟨_, leaves⟩ | ⟨_, err, _, leaves⟩ := goes
  · exact called_of_leaves living (.inl rfl) leaves
  · exact called_of_leaves living (.inr rfl) leaves

theorem does_setTimeout (platform : Platform) (timeout : Timeval) (has : Has others own s)
    (living : s.context.funcs = false → own = none) :
    Does NotClosed (valkeySetTimeout platform timeout) s fun _ last => Called others s last := by
  unfold valkeySetTimeout
  have unchanged : Called others s s := called_of_leaves living (.inl rfl) has.leaves
  refine does_get (does_ite (fun _ => ?_) fun _ => does_pure unchanged)
  have stored : Does NotClosed (valkeyContextUpdateCommandTimeout platform (some timeout)) s
      fun _ last => Has others own last ∧ last.context.settings = s.context.settings := by
    unfold valkeyContextUpdateCommandTimeout
    have kept {context : NetContext} (calls : Nat) (fd : context.fd = s.context.fd) :
        Has others own { s with context := context, calls := calls } :=
      ⟨fd.trans has.fd, has.sockets, has.free⟩
    exact does_get (does_storeTime platform _ (fun calls => ⟨kept calls rfl, rfl⟩)
      fun calls => ⟨kept calls rfl, rfl⟩)
  refine Does.bind stored ?_
  rintro status first ⟨has, settings⟩
  have funcs : first.context.funcs = s.context.funcs :=
    have same := congrArg NetContext.funcs settings
    same
  have ends {err : Option ContextError} {last : System}
      (leaves : Leaves others own err first last) : Called others s last := by
    have called := called_of_leaves (fun none => living (funcs.symm.trans none)) (.inl rfl) leaves
    exact ⟨called.lives, called.settings.trans settings⟩
  cases status with
  | err =>
      refine (does_outOfMemory has).mono fun _ _ result => ?_
      obtain ⟨_, err, _, leaves⟩ := result
      exact ends leaves
  | ok =>
      refine does_ite (fun _ => ?_) fun _ => does_throw fun _ => Stop.noConfusion
      refine (does_setOptions platform _ _ has).mono fun _ _ result => ?_
      obtain ⟨err, leaves⟩ := result
      exact ends leaves

theorem does_call (platform : Platform) (one : NetCall) (lives : Lives others s) :
    Does NotClosed (call platform one) s fun _ last => Called others s last := by
  obtain ⟨own, has, living⟩ := lives.has
  cases one with
  | reconnect =>
      unfold call
      by_cases funcs : s.context.funcs = true
      · refine Does.bind (does_reconnect platform has) fun status last reconnected => ?_
        obtain ⟨next, owned, _⟩ := reconnected.has
        have settings := congrArg (fun c => ({ c with commandTimeout := none } : NetContext))
          reconnected.setup
        have same : last.context.funcs = s.context.funcs :=
          have same := congrArg NetContext.funcs reconnected.setup
          same
        exact does_pure ⟨⟨next, owned, fun none =>
          absurd ((same.symm.trans none).symm.trans funcs) Bool.false_ne_true⟩, settings⟩
      · have stops : Does NotClosed (valkeyReconnect platform) s fun _ _ => False := by
          unfold valkeyReconnect
          exact does_get (does_change
            (does_ite (fun there => absurd there funcs) fun _ => does_throw nofun))
        exact stops.bind fun _ _ impossible => impossible.elim
  | setTimeout timeout =>
      unfold call
      refine Does.bind (does_setTimeout platform timeout has living) fun _ _ called => ?_
      exact does_pure called
  | keepAlive =>
      unfold call valkeyKeepAlive
      have sets : Does NotClosed
          (do
            let s ← get
            if s.context.connectionType = .unix then pure .err
            else setOptions platform .other [none, none, none, none]) s
          fun _ last => ∃ err, Leaves others own err s last :=
        does_get (does_ite (fun _ => does_pure ⟨_, has.leaves⟩) fun _ =>
          does_setOptions platform _ _ has)
      refine Does.bind sets fun _ last result => ?_
      obtain ⟨err, leaves⟩ := result
      exact does_pure (called_of_leaves living (.inl rfl) leaves)
  | tcpUserTimeout =>
      unfold call valkeyContextSetTcpUserTimeout
      refine Does.bind (does_option platform _ _ has) fun _ last goes => ?_
      exact does_pure (called_of_option living goes)
  | tcpNoDelay =>
      unfold call valkeySetTcpNoDelay
      refine Does.bind (does_option platform _ _ has) fun _ last goes => ?_
      exact does_pure (called_of_option living goes)
  | close =>
      unfold call
      exact (does_close has).mono fun _ last leaves =>
        called_of_leaves living (.inr rfl) leaves

theorem does_runCalls (platform : Platform) (calls : List NetCall) (lives : Lives others s) :
    Does NotClosed (runCalls platform calls) s fun _ last => Called others s last := by
  induction calls generalizing s with
  | nil => exact does_pure ⟨lives, rfl⟩
  | cons one rest induction =>
      unfold runCalls
      refine Does.bind (does_call platform one lives) fun _ first called => ?_
      exact (induction called.lives).mono fun _ _ later =>
        ⟨later.lives, later.settings.trans called.settings⟩

theorem does_free (lives : Lives others s) :
    Does NotClosed valkeyFree s fun _ last => last.sockets = others := by
  obtain ⟨own, has, living⟩ := lives.has
  unfold valkeyFree
  refine does_get (does_ite (fun _ => (does_close has).mono fun _ _ leaves => leaves.has.sockets)
    fun none => does_pure ?_)
  obtain rfl := living (Bool.eq_false_iff.mpr none)
  exact has.sockets

/-! ## Lives -/

/-- A context is made, used and freed. -/
def life (platform : Platform) (options : NetOptions) (calls : List NetCall) :
    NetProgram Unit := do
  if ← valkeyConnectWithOptions platform options then do
    runCalls platform calls
    valkeyFree
  else pure ()

/-- A context is made and used, and its descriptor is kept when it is freed. -/
def lifeKeepingFd (platform : Platform) (options : NetOptions) (calls : List NetCall) :
    NetProgram (Option Nat) := do
  if ← valkeyConnectWithOptions platform options then do
    runCalls platform calls
    valkeyFreeKeepFd
  else pure none

theorem does_freeKeepFd (lives : Lives others s) :
    Does NotClosed valkeyFreeKeepFd s fun fd last =>
      ∃ own, last.sockets = place others own ∧ fd = own.map Prod.fst := by
  obtain ⟨own, has, living⟩ := lives.has
  have closes : Does NotClosed valkeyFree { s with context := { s.context with fd := none } }
      fun _ last => last.sockets = s.sockets := by
    unfold valkeyFree
    exact does_get (does_ite (fun _ => does_of_ok rfl rfl) fun _ => does_pure rfl)
  unfold valkeyFreeKeepFd
  exact does_get (does_change (closes.bind fun _ last same =>
    does_pure ⟨own, same.trans has.sockets, has.fd⟩))

/-- Two addresses of a host. -/
def hostAddresses : List Address := [⟨.inet, [10, 0, 0, 1]⟩, ⟨.inet, [10, 0, 0, 2]⟩]

/-- A system where the first address is refused, and the connection to the second one takes a while,
with a poll that is interrupted. -/
def slowPlatform : Platform where
  socket sockets call := if sockets (3 + call) = none then .ok (3 + call) else .error (.other 24)
  fresh sockets call fd made := by
    split at made
    · cases made
      assumption
    · cases made
  control _ := none
  connect address call :=
    if address.bytes = [10, 0, 0, 1] then some (.other 111)
    else if call % 2 = 0 then some .inProgress else none
  poll call := if call % 4 < 2 then .error .interrupted else .ok true
  soError _ := .ok none
  clock call := call
  malloc _ := true
  getaddrinfo _ _ _ _ := .ok hostAddresses
  getSource _ _ _ := .ok 1
  strerror _ := ascii "error"
  gaiStrerror _ := ascii "error"
  hasMptcp := true
  patience := 3

def hostOptions : NetOptions where
  endpoint := .tcp (some (ascii "host")) 6379 none
  connectTimeout := some ⟨1, 0⟩
  commandTimeout := some ⟨2, 0⟩
  nonblock := false
  reuseaddr := false
  preferIpv4 := false
  preferIpv6 := false
  mptcp := false

/-- A process with one open descriptor. -/
def newSystem : System where
  context := emptyContext
  sockets fd := if fd = 1 then some ⟨false, .unconnected⟩ else none
  errno := none
  calls := 0
  tried := []

theorem hostOptions_userFd (fd : Nat) (same : hostOptions.endpoint = .userfd (some fd)) :
    newSystem.sockets fd ≠ none :=
  Endpoint.noConfusion same

/-- Whatever is done with a context and whatever comes of the system calls, no descriptor is used or
closed that is not open, and no descriptor stays open that the context has opened: afterwards
the sockets of the process are those that there were, except for one that the user has passed, and
`valkeyFreeKeepFd` leaves exactly the descriptor that it returns. -/
theorem descriptors_balanced (platform : Platform) (options : NetOptions) (calls : List NetCall)
    (s : System) (userFd : ∀ fd, options.endpoint = .userfd (some fd) → s.sockets fd ≠ none) :
    Does NotClosed (life platform options calls) s
        (fun _ last => Remain options s.sockets last.sockets) ∧
      Does NotClosed (lifeKeepingFd platform options calls) s fun fd last =>
        ∃ others own, Remain options s.sockets others ∧ last.sockets = place others own ∧
          fd = own.map Prod.fst := by
  have makes := does_connectWithOptions platform options userFd
  refine ⟨makes.bind ?_, makes.bind ?_⟩
  · intro made first result
    obtain ⟨others, own, has, remain, living⟩ := result.has
    refine does_ite (fun yes => ?_) fun no => does_pure ?_
    · subst yes
      have lives : Lives others first := ⟨own, has, living⟩
      refine Does.bind (does_runCalls platform calls lives) fun _ second called => ?_
      exact (does_free called.lives).mono fun _ _ same => same ▸ remain
    · obtain rfl := living (by rw [Bool.eq_false_iff.mpr no, Bool.false_and])
      exact has.sockets ▸ remain
  · intro made first result
    obtain ⟨others, own, has, remain, living⟩ := result.has
    refine does_ite (fun yes => ?_) fun no => does_pure ?_
    · subst yes
      have lives : Lives others first := ⟨own, has, living⟩
      refine Does.bind (does_runCalls platform calls lives) fun _ second called => ?_
      refine (does_freeKeepFd called.lives).mono fun _ _ result => ?_
      obtain ⟨own, sockets, fd⟩ := result
      exact ⟨others, own, remain, sockets, fd⟩
    · obtain rfl := living (by rw [Bool.eq_false_iff.mpr no, Bool.false_and])
      exact ⟨others, none, remain, has.sockets, rfl⟩

theorem life_balanced :
    (Does NotClosed (life slowPlatform hostOptions [.keepAlive, .reconnect, .close]) newSystem
        (fun _ last => Remain hostOptions newSystem.sockets last.sockets) ∧
      Does NotClosed (lifeKeepingFd slowPlatform hostOptions [.keepAlive, .reconnect]) newSystem
        fun fd last => ∃ others own, Remain hostOptions newSystem.sockets others ∧
          last.sockets = place others own ∧ fd = own.map Prod.fst) ∧
      ∃ result, lifeKeepingFd slowPlatform hostOptions [.keepAlive, .reconnect] newSystem =
        .ok result ∧ (result.1 == some 40) = true :=
  ⟨⟨(descriptors_balanced slowPlatform hostOptions [.keepAlive, .reconnect, .close] newSystem
      hostOptions_userFd).1,
    (descriptors_balanced slowPlatform hostOptions [.keepAlive, .reconnect] newSystem
      hostOptions_userFd).2⟩,
    exists_of_passes (by decide +kernel)⟩

/-- A context whose options do not let `SO_REUSEADDR` fail silently has no error only if its socket
is connected, or being connected without blocking, and blocks as the options want it. The
addresses of its host were tried in turn. -/
theorem connected_without_error (platform : Platform) (options : NetOptions) (s : System)
    (named : options.endpoint.type ≠ .userfd) (loud : ¬options.Silent) :
    Does NotClosed (valkeyConnectWithOptions platform options) s fun made last =>
      (made = true → last.context.err = none → Ready options.nonblock s.sockets last) ∧
        ∃ tries, last.tried = s.tried ++ tries ∧ Looked platform last.context tries := by
  have notUserFd (fd : Nat) (same : options.endpoint = .userfd (some fd)) : s.sockets fd ≠ none :=
    absurd (congrArg Endpoint.type same) named
  refine (does_connectWithOptions platform options notUserFd).mono fun made last result => ?_
  exact ⟨fun made => result.ready made named loud, result.looked⟩

theorem host_connected :
    Does NotClosed (valkeyConnectWithOptions slowPlatform hostOptions) newSystem
        (fun made last =>
          (made = true → last.context.err = none → Ready false newSystem.sockets last) ∧
            ∃ tries, last.tried = [] ++ tries ∧ Looked slowPlatform last.context tries) ∧
      ∃ result, valkeyConnectWithOptions slowPlatform hostOptions newSystem = .ok result ∧
        (result.1 && result.2.context.err == none && result.2.tried == hostAddresses) = true :=
  ⟨connected_without_error slowPlatform hostOptions newSystem (by decide)
    (fun silent => silent.1 rfl),
    exists_of_passes (by decide +kernel)⟩

/-- The state after a context was made and used. -/
def Reached (platform : Platform) (options : NetOptions) (calls : List NetCall)
    (start made s : System) : Prop :=
  valkeyConnectWithOptions platform options start = .ok (true, made) ∧
    runCalls platform calls made = .ok ((), s)

end Libvalkey.Net
