import Libvalkey.Net.Addresses

/-! # The life of a context

A context is connected, connected again and freed, with any outcome of the system calls. -/

namespace Libvalkey.Net

open Checked Programs

variable {others : Sockets} {own : Option (Nat × Socket)} {s first last : System}
  {good : Option (Nat × Socket) → Prop} {silent : Prop} {mine : Bool}

/-! ## What is set before a connection -/

/-- What a context keeps when it is connected, and all that is kept if the endpoint is its own. -/
structure Keeps (mine : Bool) (s last : System) : Prop where
  block : last.context.block = s.context.block
  reuseaddr : last.context.reuseaddr = s.context.reuseaddr
  funcs : last.context.funcs = s.context.funcs
  setup : mine = true → last.context.setup = s.context.setup

theorem Keeps.refl (mine : Bool) (s : System) : Keeps mine s s := ⟨rfl, rfl, rfl, fun _ => rfl⟩

theorem Keeps.trans (before : Keeps mine s first) (after : Keeps mine first last) :
    Keeps mine s last :=
  ⟨after.block.trans before.block, after.reuseaddr.trans before.reuseaddr,
    after.funcs.trans before.funcs, fun its => (after.setup its).trans (before.setup its)⟩

theorem Keeps.of_setup (same : last.context.setup = s.context.setup) : Keeps mine s last := by
  have block := congrArg NetContext.block same
  have reuse := congrArg NetContext.reuseaddr same
  have funcs := congrArg NetContext.funcs same
  exact ⟨block, reuse, funcs, fun _ => same⟩

/-- What is prepared for a connection: no socket and no error is touched. -/
structure Prepares (mine : Bool) (others : Sockets) (own : Option (Nat × Socket))
    (s last : System) : Prop where
  has : Has others own last
  err : last.context.err = s.context.err
  tried : last.tried = s.tried
  keeps : Keeps mine s last

theorem Prepares.trans (before : Prepares mine others own s first)
    (after : Prepares mine others own first last) : Prepares mine others own s last :=
  ⟨after.has, after.err.trans before.err, after.tried.trans before.tried,
    before.keeps.trans after.keeps⟩

theorem Has.prepares (has : Has others own s) : Prepares mine others own s s :=
  ⟨has, rfl, rfl, .refl mine s⟩

/-- A change of the context that concerns neither its socket nor its errors. -/
structure Plain (mine : Bool) (c : NetContext) (effect : NetContext → NetContext) : Prop where
  fd : (effect c).fd = c.fd
  err : (effect c).err = c.err
  block : (effect c).block = c.block
  reuseaddr : (effect c).reuseaddr = c.reuseaddr
  funcs : (effect c).funcs = c.funcs
  setup : mine = true → (effect c).setup = c.setup

theorem Prepares.change {effect : NetContext → NetContext}
    (prepares : Prepares mine others own s first) (plain : Plain mine first.context effect)
    (errno : Option Errno) (calls : Nat) :
    Prepares mine others own s
      { first with context := effect first.context, errno := errno, calls := calls } where
  has := ⟨plain.fd.trans prepares.has.fd, prepares.has.sockets, prepares.has.free⟩
  err := plain.err.trans prepares.err
  tried := prepares.tried
  keeps := prepares.keeps.trans ⟨plain.block, plain.reuseaddr, plain.funcs, plain.setup⟩

/-- A time is stored where there is one, or where there is memory for one. -/
theorem does_storeTime (platform : Platform) (time : Option Timeval)
    {effect : NetContext → NetContext} {final : Status → System → Prop}
    (stored : ∀ calls, final .ok { s with context := effect s.context, calls := calls })
    (failed : ∀ calls, final .err { s with calls := calls }) :
    Does NotClosed
      (do
        if ← (if time = none then ask platform.malloc else pure true) then do
          change effect
          pure .ok
        else pure .err) s final := by
  have asked : Does NotClosed (if time = none then ask platform.malloc else pure true) s
      fun _ last => ∃ calls, last = { s with calls := calls } :=
    does_ite (fun _ => does_of_ok rfl ⟨s.calls + 1, rfl⟩) fun _ => does_pure ⟨s.calls, rfl⟩
  refine Does.bind asked ?_
  rintro there _ ⟨calls, rfl⟩
  exact does_ite (fun _ => does_change (does_pure (stored calls))) fun _ =>
    does_pure (failed calls)

theorem does_storeConnectTimeout (platform : Platform) (timeout : Timeval) (foreign : mine = false)
    (has : Has others own s) :
    Does NotClosed (storeConnectTimeout platform timeout) s fun _ last =>
      Prepares mine others own s last := by
  unfold storeConnectTimeout
  have stored : Plain mine s.context fun c => { c with connectTimeout := some timeout } :=
    ⟨rfl, rfl, rfl, rfl, rfl, fun its => absurd (foreign.symm.trans its) Bool.false_ne_true⟩
  have nothing : Plain mine s.context id := ⟨rfl, rfl, rfl, rfl, rfl, fun _ => rfl⟩
  exact does_get (does_storeTime platform _ (has.prepares.change stored s.errno)
    (has.prepares.change nothing s.errno))

/-- The timeout of the options. One of the context's own is what it has. -/
theorem does_updateConnectTimeout (platform : Platform) (mine : Bool) {timeout : Option Timeval}
    (its : mine = true → timeout = s.context.connectTimeout) (has : Has others own s) :
    Does NotClosed (updateConnectTimeout platform mine timeout) s fun _ last =>
      Prepares mine others own s last := by
  unfold updateConnectTimeout
  cases timeout with
  | none =>
      have cleared : Plain mine s.context fun c => { c with connectTimeout := none } := by
        refine ⟨rfl, rfl, rfl, rfl, rfl, fun own => ?_⟩
        unfold NetContext.setup
        rw [← its own]
      exact does_change (does_pure (has.prepares.change cleared s.errno s.calls))
  | some timeout =>
      exact does_ite (fun _ => does_pure has.prepares) fun foreign =>
        does_storeConnectTimeout platform timeout (Bool.eq_false_iff.mpr foreign) has

theorem does_connectTimeoutMsec (has : Has others own s) :
    Does NotClosed valkeyConnectTimeoutMsec s fun result last =>
      (result.1 = .ok ∧ last = s) ∨
        result.1 = .err ∧ ∃ err, err ≠ none ∧ Leaves others own err s last := by
  unfold valkeyConnectTimeoutMsec
  refine does_get ?_
  generalize valkeyContextTimeoutMsec s.context.connectTimeout = result
  obtain ⟨status, msec⟩ := result
  cases status with
  | ok => exact does_pure (.inl ⟨rfl, rfl⟩)
  | err =>
      refine Does.bind (does_setError _ _ has) ?_
      rintro _ last failed
      exact does_pure (.inr ⟨rfl, failed⟩)

theorem does_strdup (platform : Platform) (text : Bytes) :
    Does NotClosed (strdup platform text) s fun _ last => last = { s with calls := s.calls + 1 } :=
  does_ask fun _ => does_pure rfl

theorem does_setText (platform : Platform) (mine : Bool) (text : Option Bytes)
    {set : Option Bytes → NetContext → NetContext}
    (plain : ∀ copy, mine = false → Plain mine s.context (set copy)) (has : Has others own s) :
    Does NotClosed (setText platform mine text set) s fun _ last =>
      Prepares mine others own s last := by
  unfold setText
  cases text with
  | none => exact does_pure has.prepares
  | some text =>
      refine does_ite (fun _ => does_pure has.prepares) fun foreign => ?_
      refine Does.bind (does_strdup platform text) ?_
      rintro copy _ rfl
      refine does_change (does_pure ?_)
      exact has.prepares.change (plain _ (Bool.eq_false_iff.mpr foreign)) s.errno (s.calls + 1)

theorem does_setSourceAddr (platform : Platform) (mine : Bool) {sourceAddr : Option Bytes}
    (its : mine = true → sourceAddr = s.context.sourceAddr) (has : Has others own s) :
    Does NotClosed (setSourceAddr platform mine sourceAddr) s fun _ last =>
      Prepares mine others own s last ∧
        (last.context.sourceAddr ≠ none → sourceAddr ≠ none) := by
  unfold setSourceAddr
  cases sourceAddr with
  | none =>
      have cleared : Plain mine s.context fun c => { c with sourceAddr := none } := by
        refine ⟨rfl, rfl, rfl, rfl, rfl, fun own => ?_⟩
        unfold NetContext.setup
        rw [← its own]
      exact does_last_change ⟨has.prepares.change cleared s.errno s.calls, fun there => there⟩
  | some source =>
      have named : some source ≠ none := Option.some_ne_none source
      refine does_ite (fun _ => does_pure ⟨has.prepares, fun _ => named⟩) fun foreign => ?_
      have copied (copy : Option Bytes) :
          Plain mine s.context fun c => { c with sourceAddr := copy } :=
        ⟨rfl, rfl, rfl, rfl, rfl, fun its => absurd its foreign⟩
      refine Does.bind (does_strdup platform source) ?_
      rintro copy _ rfl
      exact does_last_change
        ⟨has.prepares.change (copied copy) s.errno (s.calls + 1), fun _ => named⟩

/-! ## Connections -/

/-- What a function leaves that connects a context without an error to an endpoint. -/
structure EndpointGoes (platform : Platform) (mine : Bool) (others : Sockets) (silent : Prop)
    (s : System) (status : Status) (last : System) : Prop where
  has : ∃ own, Has others own last ∧
    (status = .ok → Open (!s.context.block) (Settled s.context.block) own)
  ok : status = .ok → last.context.err = none
  err : status = .err → last.context.err ≠ none ∨ silent
  keeps : Keeps mine s last
  looked : ∃ tries, last.tried = s.tried ++ tries ∧ Looked platform last.context tries

variable {platform : Platform}

/-- A failure before an address is tried. -/
theorem endpointGoes_err {next : Option (Nat × Socket)} {err : Option ContextError}
    (prepares : Prepares mine others own s first) (leaves : Leaves others next err first last)
    (failed : err ≠ none) : EndpointGoes platform mine others silent s .err last where
  has := ⟨next, leaves.has, nofun⟩
  ok := nofun
  err := fun _ => .inl (leaves.err.trans_ne failed)
  keeps := prepares.keeps.trans (.of_setup leaves.setup)
  looked := ⟨[], by rw [List.append_nil, leaves.tried, prepares.tried], .inl rfl⟩

theorem does_oomAfter (prepares : Prepares mine others own s first) :
    Does NotClosed outOfMemory first (EndpointGoes platform mine others silent s) := by
  refine (does_outOfMemory prepares.has).mono fun status last result => ?_
  obtain ⟨rfl, err, set, leaves⟩ := result
  exact endpointGoes_err prepares leaves set

theorem Keeps.connectTimeout (keeps : Keeps mine s last) (its : mine = true) :
    last.context.connectTimeout = s.context.connectTimeout :=
  have same := congrArg NetContext.connectTimeout (keeps.setup its)
  same

theorem Keeps.sourceAddr (keeps : Keeps mine s last) (its : mine = true) :
    last.context.sourceAddr = s.context.sourceAddr :=
  have same := congrArg NetContext.sourceAddr (keeps.setup its)
  same

/-- The endpoint is the one that the context has. -/
def Its (mine : Bool) (c : NetContext) (endpoint : Endpoint) (timeout : Option Timeval) : Prop :=
  mine = true → c.ownEndpoint = some endpoint ∧ timeout = c.connectTimeout

theorem ownEndpoint_tcp {c : NetContext} {ip sourceAddr : Option Bytes} {port : Int}
    (named : c.ownEndpoint = some (.tcp ip port sourceAddr)) :
    c.connectionType = .tcp ∧ c.port = port ∧ c.sourceAddr = sourceAddr := by
  unfold NetContext.ownEndpoint at named
  cases type : c.connectionType with
  | tcp =>
      rw [type] at named
      cases named
      exact ⟨rfl, rfl, rfl⟩
  | unix =>
      rw [type] at named
      cases named
  | userfd =>
      rw [type] at named
      cases named

theorem ownEndpoint_unix {c : NetContext} {path : Option Bytes}
    (named : c.ownEndpoint = some (.unixSocket path)) : c.connectionType = .unix := by
  unfold NetContext.ownEndpoint at named
  cases type : c.connectionType with
  | tcp =>
      rw [type] at named
      cases named
  | unix => rfl
  | userfd =>
      rw [type] at named
      cases named

theorem does_connectTcp (platform : Platform) {mine : Bool} {ip sourceAddr : Option Bytes}
    {port : Int} {timeout : Option Timeval}
    (its : Its mine s.context (.tcp ip port sourceAddr) timeout) (has : Has others none s) :
    Does NotClosed (valkeyContextConnectTcp platform mine ip port sourceAddr timeout) s
      (EndpointGoes platform mine others
        (sourceAddr ≠ none ∧ s.context.reuseaddr = true) s) := by
  unfold valkeyContextConnectTcp
  have typed : Plain mine s.context fun c => { c with connectionType := .tcp, port := port } := by
    refine ⟨rfl, rfl, rfl, rfl, rfl, fun own => ?_⟩
    obtain ⟨type, number, _⟩ := ownEndpoint_tcp (its own).1
    unfold NetContext.setup
    rw [← type, ← number]
  have prepared := has.prepares.change typed s.errno s.calls
  refine does_change (Does.bind (does_setText platform mine ip ?_ prepared.has) ?_)
  · intro copy foreign
    exact ⟨rfl, rfl, rfl, rfl, rfl, fun its => absurd (foreign.symm.trans its) Bool.false_ne_true⟩
  intro status second later
  have prepared := prepared.trans later
  cases status with
  | err => exact does_oomAfter prepared
  | ok =>
      refine Does.bind (does_updateConnectTimeout platform mine (fun own =>
        (its own).2.trans (prepared.keeps.connectTimeout own).symm) prepared.has) ?_
      intro status third later
      have prepared := prepared.trans later
      cases status with
      | err => exact does_oomAfter prepared
      | ok =>
          refine Does.bind (does_connectTimeoutMsec prepared.has) ?_
          rintro ⟨status, msec⟩ fourth result
          dsimp only at result
          rcases result with ⟨rfl, rfl⟩ | ⟨rfl, err, set, leaves⟩
          · refine Does.bind (does_setSourceAddr platform mine (fun own =>
              (ownEndpoint_tcp (its own).1).2.2.symm.trans (prepared.keeps.sourceAddr own).symm)
              prepared.has) ?_
            rintro _ fifth ⟨later, source⟩
            have prepared := prepared.trans later
            refine (does_connectHost platform msec prepared.has).mono fun status last result => ?_
            obtain ⟨tries, looked, goes⟩ := result
            have silent : Silent fifth.context → sourceAddr ≠ none ∧ s.context.reuseaddr = true :=
              fun silent => ⟨source silent.1, prepared.keeps.reuseaddr.symm.trans silent.2⟩
            have same {own : Option (Nat × Socket)} {err : Option ContextError}
                (leaves : Leaves others own err (fifth.after tries) last) :
                Keeps mine s last ∧ ∃ tries, last.tried = s.tried ++ tries ∧
                  Looked platform last.context tries := by
              have host := congrArg NetContext.host leaves.setup
              have port := congrArg NetContext.port leaves.setup
              dsimp only [NetContext.setup, System.after] at host port
              refine ⟨prepared.keeps.trans (.of_setup leaves.setup), tries, ?_, ?_⟩
              · rw [← prepared.tried]
                exact leaves.tried
              · rw [Looked, host, port]
                exact looked
            rw [prepared.keeps.block] at goes
            cases goes with
            | ok leaves holds =>
                obtain ⟨keeps, looked⟩ := same leaves
                exact ⟨⟨_, leaves.has, fun _ => holds⟩, fun _ => leaves.err, nofun, keeps, looked⟩
            | err leaves failed =>
                obtain ⟨keeps, looked⟩ := same leaves
                refine ⟨⟨_, leaves.has, nofun⟩, nofun, fun _ => ?_, keeps, looked⟩
                rw [leaves.err]
                exact failed.imp_right silent
          · exact does_pure (endpointGoes_err prepared leaves set)

/-! ## Unix sockets -/

theorem does_connectUnix (platform : Platform) (address : Address) (msec : Int) (silent : Prop)
    {fd : Nat} {sock : Socket} (has : Has others (some (fd, sock)) s)
    (nonblocking : sock.nonblocking = true) :
    Does NotClosed (connectUnix platform address msec) s
      (Goes others (Open (!s.context.block) (Settled s.context.block)) silent s) := by
  unfold connectUnix connect
  refine does_get (Does.bind (does_onSocket has) fun failed first result => ?_)
  have leaves := result.1
  have same := (connectEffect_nonblocking failed sock).trans nonblocking
  have ready : Does NotClosed
      (if failed = none ∨ failed = some .inProgress ∧ ¬s.context.block then pure .ok
        else valkeyContextWaitReady platform address msec) first
      (Goes others (Open true (Settled s.context.block)) silent first) := by
    refine does_ite (fun done => does_pure (.ok leaves.has.leaves ⟨_, rfl, same, ?_⟩)) fun _ => ?_
    · rcases done with rfl | ⟨rfl, unblocked⟩
      · exact .inl rfl
      · exact .inr ⟨Bool.eq_false_iff.mpr unblocked, rfl⟩
    · refine (does_waitReady platform address msec leaves.has).mono fun _ _ goes =>
        goes.mono ?_ id
      rintro _ ⟨entry, rfl, stays, link⟩
      exact ⟨entry, rfl, stays.trans same, .inl link⟩
  refine goes_bind ready ?_ ?_
  · rintro _ second later ⟨⟨fd, sock⟩, rfl, stays, settled⟩
    have whole := leaves.andThen later
    refine goes_bind (does_optional (Open (!s.context.block) (Settled s.context.block)) silent
      s.context.block whole.has ?_ ?_) ?_ ?_
    · intro blocked
      refine (does_setBlocking platform true silent whole.has).mono fun _ _ goes => goes.mono ?_ id
      rintro _ rfl
      exact ⟨_, rfl, (congrArg not blocked).symm, settled⟩
    · intro unblocked
      exact ⟨_, rfl, stays.trans (congrArg not unblocked).symm, settled⟩
    · intro own last final holds
      have done := whole.andThen final
      exact does_change (does_pure (.ok
        ⟨⟨done.has.fd, done.has.sockets, done.has.free⟩, done.err, done.setup, done.tried⟩ holds))
    · intro own err last final failed
      exact does_pure (.err (whole.trans final) failed)
  · intro own err second later failed
    exact does_pure (.err (leaves.trans later) failed)

theorem Leaves.prepares (leaves : Leaves others own s.context.err s first) :
    Prepares mine others own s first :=
  ⟨leaves.has, leaves.err, leaves.tried, .of_setup leaves.setup⟩

/-- The last function of those that connect a Unix socket. -/
theorem endpointGoes_of_goes {status : Status} (prepares : Prepares mine others own s first)
    (clean : s.context.err = none)
    (goes : Goes others (Open (!first.context.block) (Settled first.context.block)) False first
      status last) : EndpointGoes platform mine others silent s status last := by
  rw [prepares.keeps.block] at goes
  cases goes with
  | err leaves failed => exact endpointGoes_err prepares leaves (failed.elim id False.elim)
  | ok leaves holds =>
      refine ⟨⟨_, leaves.has, fun _ => holds⟩, fun _ => ?_, nofun, ?_, [], ?_, .inl rfl⟩
      · exact leaves.err.trans (prepares.err.trans clean)
      · exact prepares.keeps.trans (.of_setup leaves.setup)
      · rw [List.append_nil, leaves.tried, prepares.tried]

theorem does_createSocket (platform : Platform) (silent : Prop) (has : Has others none s) :
    Does NotClosed (valkeyCreateSocket platform .unix) s
      (Goes others (fun own => ∃ fd, own = some (fd, ⟨false, .unconnected⟩)) silent s) := by
  unfold valkeyCreateSocket
  refine Does.bind (does_socket platform has) fun made first result => ?_
  cases made with
  | none =>
      refine Does.bind (does_setErrorFromErrno platform _ _ result.has) ?_
      rintro _ last ⟨err, set, leaves⟩
      exact does_pure (.err (result.trans leaves) (.inl set))
  | some fd =>
      obtain ⟨free, same, tried, sockets⟩ := result
      refine does_change (does_ite nofun fun _ => does_pure (.ok ⟨⟨rfl, sockets, ?_⟩, ?_, ?_, tried⟩
        ⟨fd, rfl⟩))
      · rintro _ ⟨⟩
        exact free
      · rw [← same]
      · rw [← same]
        rfl

theorem does_connectUnixSocket (platform : Platform) {mine : Bool} {path : Option Bytes}
    {timeout : Option Timeval} (its : Its mine s.context (.unixSocket path) timeout)
    (clean : s.context.err = none) (has : Has others none s) :
    Does NotClosed (valkeyContextConnectUnix platform mine path timeout) s
      (EndpointGoes platform mine others silent s) := by
  unfold valkeyContextConnectUnix
  cases path with
  | none => exact does_throw nofun
  | some text =>
      refine does_ite (fun _ => ?_) fun _ => ?_
      · refine Does.bind (does_setError _ _ has) ?_
        rintro _ last ⟨err, set, leaves⟩
        exact does_pure (endpointGoes_err has.prepares leaves set)
      refine goes_bind (does_createSocket platform False has) ?_ fun own err last leaves
        failed => does_pure (endpointGoes_err has.prepares leaves (failed.elim id False.elim))
      rintro _ first leaves ⟨fd, rfl⟩
      refine goes_bind (does_setBlocking platform false False leaves.has) ?_
        fun own err last later failed =>
          does_pure (endpointGoes_err leaves.prepares later (failed.elim id False.elim))
      rintro _ second later rfl
      have opened : Prepares mine others (some (fd, ⟨true, .unconnected⟩)) s second :=
        (leaves.andThen later).prepares
      have typed : Plain mine second.context fun c => { c with connectionType := .unix } := by
        refine ⟨rfl, rfl, rfl, rfl, rfl, fun own => ?_⟩
        have type : second.context.connectionType = s.context.connectionType :=
          have same := congrArg NetContext.connectionType (opened.keeps.setup own)
          same
        unfold NetContext.setup
        rw [← ownEndpoint_unix (its own).1, ← type]
      have prepared := opened.change typed second.errno second.calls
      refine does_change (Does.bind (does_setText platform mine (some text) ?_ prepared.has) ?_)
      · intro copy foreign
        exact ⟨rfl, rfl, rfl, rfl, rfl,
          fun its => absurd (foreign.symm.trans its) Bool.false_ne_true⟩
      intro status third later
      have prepared := prepared.trans later
      cases status with
      | err => exact does_oomAfter prepared
      | ok =>
          refine Does.bind (does_updateConnectTimeout platform mine (fun own =>
            (its own).2.trans (prepared.keeps.connectTimeout own).symm) prepared.has) ?_
          intro status fourth later
          have prepared := prepared.trans later
          cases status with
          | err => exact does_oomAfter prepared
          | ok =>
              refine Does.bind (does_connectTimeoutMsec prepared.has) ?_
              rintro ⟨status, msec⟩ fifth result
              dsimp only at result
              rcases result with ⟨rfl, rfl⟩ | ⟨rfl, err, set, leaves⟩
              · refine does_ask fun memory => does_ite (fun _ => does_change ?_)
                  fun _ => does_change (does_oomAfter (prepared.trans ?_))
                · have saved : Plain mine fifth.context fun c =>
                      { c with saddr := some ⟨.unix, text⟩ } :=
                    ⟨rfl, rfl, rfl, rfl, rfl, fun _ => rfl⟩
                  have prepared := prepared.change saved fifth.errno (fifth.calls + 1)
                  exact (does_connectUnix platform _ msec False prepared.has rfl).mono
                    fun status last goes => endpointGoes_of_goes prepared clean goes
                · have freed : Plain mine fifth.context fun c => { c with saddr := none } :=
                    ⟨rfl, rfl, rfl, rfl, rfl, fun _ => rfl⟩
                  exact prepared.has.prepares.change freed fifth.errno (fifth.calls + 1)
              · exact does_pure (endpointGoes_err prepared leaves set)

end Libvalkey.Net
