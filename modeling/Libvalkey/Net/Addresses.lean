import Libvalkey.Net.Descriptors

/-! # The addresses of a host

The addresses of a host are tried one after the other. -/

namespace Libvalkey.Net

open Checked Programs

variable {others : Sockets} {own : Option (Nat × Socket)} {s first last : System}
  {good : Option (Nat × Socket) → Prop} {silent : Prop} {err : Option ContextError}

/-- The addresses are tried in turn, each of them once or several times. Not all of them have to
be tried. -/
inductive InTurn : List Address → List Address → Prop
  | stops (addresses : List Address) : InTurn addresses []
  | tries {address : Address} {rest tried : List Address} (count : Nat)
      (later : InTurn rest tried) :
      InTurn (address :: rest) (List.replicate (count + 1) address ++ tried)

/-- As many more tries. -/
def System.after (s : System) (tries : List Address) : System :=
  { s with tried := s.tried ++ tries }

theorem Has.after (has : Has others own s) (tries : List Address) :
    Has others own (s.after tries) :=
  ⟨has.fd, has.sockets, has.free⟩

/-- Tries before others. -/
theorem Leaves.tries {tries more : List Address}
    (before : Leaves others own err (s.after tries) first)
    {next : Option (Nat × Socket)} {errAfter : Option ContextError}
    (after : Leaves others next errAfter (first.after more) last) :
    Leaves others next errAfter (s.after (tries ++ more)) last := by
  refine ⟨after.has, after.err, after.setup.trans before.setup, after.tried.trans ?_⟩
  have tried := before.tried
  unfold System.after at tried ⊢
  dsimp only at tried ⊢
  rw [tried, List.append_assoc]

/-- The tries of one address. -/
structure AgainGoes (others : Sockets) (good : Option (Nat × Socket) → Prop) (silent : Prop)
    (s : System) (address : Address) (retries : Nat) (result : Attempt × Nat) (last : System)
    (count : Nat) : Prop where
  goes : AttemptGoes others good silent (s.after (List.replicate (count + 1) address)) result.1 last
  few : count + (result.2 - 1) ≤ retries - 1

theorem does_tryAgain (platform : Platform) (msec : Int) (address : Address) (retries : Nat)
    (has : Has others none s) :
    Does NotClosed (tryAgain platform msec address retries) s fun result last =>
      ∃ count, AgainGoes others (Open (!s.context.block) (Settled s.context.block))
        (Silent s.context) s address retries result last count := by
  induction retries generalizing s with
  | zero =>
      unfold tryAgain
      refine Does.bind (does_tryAddress platform msec address has) fun attempt first goes => ?_
      exact does_pure ⟨0, goes, Nat.le_refl _⟩
  | succ retries induction =>
      unfold tryAgain
      refine Does.bind (does_tryAddress platform msec address has) fun attempt first goes => ?_
      have once (attempt : Attempt)
          (goes : AttemptGoes others (Open (!s.context.block) (Settled s.context.block))
            (Silent s.context) (s.after [address]) attempt first) (left : Nat)
          (fewer : left - 1 ≤ retries) :
          Does NotClosed (pure (attempt, left) : NetProgram (Attempt × Nat)) first
            fun result last => ∃ count, AgainGoes others
              (Open (!s.context.block) (Settled s.context.block)) (Silent s.context) s address
              (retries + 1) result last count :=
        does_pure ⟨0, goes, (Nat.zero_add _).trans_le fewer⟩
      cases goes with
      | connected leaves holds => exact once _ (.connected leaves holds) _ (Nat.le_refl _)
      | failed leaves => exact once _ (.failed leaves) _ (Nat.le_refl _)
      | error leaves failed => exact once _ (.error leaves failed) _ (Nat.le_refl _)
      | oom leaves => exact once _ (.oom leaves) _ (Nat.le_refl _)
      | unavailable leaves =>
          refine does_ite (fun _ => once _ (.unavailable leaves) _ (Nat.zero_le _)) fun more => ?_
          refine (induction leaves.has).mono fun result last again => ?_
          obtain ⟨count, goes, few⟩ := again
          obtain ⟨block, reuse, source⟩ := setup_eq leaves.setup
          have silent : Silent first.context ↔ Silent s.context := by
            rw [Silent, Silent, source, reuse]
          have same : first.context.block = s.context.block := block
          rw [same] at goes
          refine ⟨count + 1, ?_, by omega⟩
          have tries : List.replicate (count + 1 + 1) address =
              [address] ++ List.replicate (count + 1) address := List.replicate_succ
          rw [tries]
          generalize result.1 = attempt at goes ⊢
          cases goes with
          | connected later holds => exact .connected (leaves.tries later) holds
          | failed later => exact .failed (leaves.tries later)
          | unavailable later => exact .unavailable (leaves.tries later)
          | error later failed =>
              exact .error (leaves.tries later) (failed.imp_right silent.mp)
          | oom later => exact .oom (leaves.tries later)

/-- What the tries of some addresses leave. -/
inductive HostGoes (others : Sockets) (good : Option (Nat × Socket) → Prop) (silent : Prop)
    (s : System) (tries : List Address) : Status → System → Prop
  | ok {own : Option (Nat × Socket)} {last : System}
      (leaves : Leaves others own none (s.after tries) last) (holds : good own) :
      HostGoes others good silent s tries .ok last
  | err {own : Option (Nat × Socket)} {err : Option ContextError} {last : System}
      (leaves : Leaves others own err (s.after tries) last) (failed : err ≠ none ∨ silent) :
      HostGoes others good silent s tries .err last

theorem does_outOfMemory (has : Has others own s) :
    Does NotClosed outOfMemory s fun status last =>
      status = .err ∧ ∃ err, err ≠ none ∧ Leaves others own err s last := by
  unfold outOfMemory
  refine Does.bind (does_setError _ _ has) ?_
  rintro _ last ⟨err, set, leaves⟩
  exact does_pure ⟨rfl, err, set, leaves⟩

theorem does_tryAddresses (platform : Platform) (msec : Int) (addresses : List Address)
    (retries : Nat) (has : Has others none s) :
    Does NotClosed (tryAddresses platform msec addresses retries) s fun status last =>
      ∃ tries, InTurn addresses tries ∧ tries.length ≤ addresses.length + (retries - 1) ∧
        HostGoes others (Open (!s.context.block) (Settled s.context.block)) (Silent s.context) s
          tries status last := by
  induction addresses generalizing s retries with
  | nil =>
      unfold tryAddresses
      refine Does.bind (does_setErrorFromErrno platform _ _ has) ?_
      rintro _ last ⟨err, set, leaves⟩
      have untried : Leaves others none err (s.after []) last := by
        rwa [System.after, List.append_nil]
      exact does_pure ⟨[], .stops _, Nat.zero_le _, .err untried (.inl set)⟩
  | cons address rest induction =>
      unfold tryAddresses
      refine Does.bind (does_tryAgain platform msec address retries has) ?_
      rintro ⟨attempt, left⟩ first ⟨count, goes, few⟩
      dsimp only at goes few
      have stops : InTurn (address :: rest) (List.replicate (count + 1) address) := by
        have turn : InTurn (address :: rest) (List.replicate (count + 1) address ++ []) :=
          .tries count (.stops rest)
        rwa [List.append_nil] at turn
      have short : (List.replicate (count + 1) address).length ≤
          (address :: rest).length + (retries - 1) := by
        rw [List.length_replicate, List.length_cons]
        omega
      have goesOn {err : Option ContextError}
          (leaves : Leaves others none err (s.after (List.replicate (count + 1) address)) first) :
          Does NotClosed (tryAddresses platform msec rest left) first fun status last =>
            ∃ tries, InTurn (address :: rest) tries ∧
              tries.length ≤ (address :: rest).length + (retries - 1) ∧
              HostGoes others (Open (!s.context.block) (Settled s.context.block))
                (Silent s.context) s tries status last := by
        refine (induction left leaves.has).mono fun status last result => ?_
        obtain ⟨tries, turn, bounded, goes⟩ := result
        obtain ⟨block, reuse, source⟩ := setup_eq leaves.setup
        have silent : Silent first.context ↔ Silent s.context := by
          rw [Silent, Silent, source, reuse]
          rfl
        have same : first.context.block = s.context.block := block
        rw [same] at goes
        refine ⟨_, .tries count turn, ?_, ?_⟩
        · rw [List.length_append, List.length_replicate, List.length_cons]
          omega
        · cases goes with
          | ok later holds => exact .ok (leaves.tries later) holds
          | err later failed => exact .err (leaves.tries later) (failed.imp_right silent.mp)
      cases goes with
      | connected leaves holds => exact does_pure ⟨_, stops, short, .ok leaves holds⟩
      | failed leaves => exact goesOn leaves
      | unavailable leaves => exact goesOn leaves
      | error leaves failed => exact does_pure ⟨_, stops, short, .err leaves failed⟩
      | oom leaves =>
          refine (does_outOfMemory leaves.has).mono fun status last result => ?_
          obtain ⟨rfl, err, set, later⟩ := result
          exact ⟨_, stops, short, .err (leaves.trans later) (.inl set)⟩

/-- The tries of a call: none, or the addresses that the name lookup gave in turn. With
`SO_REUSEADDR` no more than nine of them are repeated ones. -/
def Looked (platform : Platform) (c : NetContext) (tries : List Address) : Prop :=
  tries = [] ∨ ∃ family call addresses,
    platform.getaddrinfo c.host (portText c.port) family call = .ok addresses ∧
      InTurn addresses tries ∧ tries.length ≤ addresses.length + (valkeyConnectRetries - 1)

theorem does_resolveSync (platform : Platform) (host : Option Bytes) (port : Bytes)
    (family : Family) (has : Has others own s) :
    Does NotClosed (valkeyResolveSync platform host port family) s fun found last =>
      Leaves others own s.context.err s last ∧
        ∀ addresses, found = .ok addresses →
          ∃ family call, platform.getaddrinfo host port family call = .ok addresses := by
  unfold valkeyResolveSync
  refine does_step rfl ?_
  have once := has.leaves.of_system s.errno (s.calls + 1)
  have again (other : Family) :
      Does NotClosed (ask (platform.getaddrinfo host port other))
        { s with calls := s.calls + 1 } fun found last =>
          Leaves others own s.context.err s last ∧
            ∀ addresses, found = .ok addresses →
              ∃ family call, platform.getaddrinfo host port family call = .ok addresses :=
    does_of_ok rfl
      ⟨once.of_system s.errno (s.calls + 1 + 1), fun _ found => ⟨other, s.calls + 1, found⟩⟩
  cases found : platform.getaddrinfo host port family s.calls with
  | ok addresses =>
      exact does_pure ⟨once, fun _ same => ⟨family, s.calls, found.trans same⟩⟩
  | error error =>
      cases family with
      | inet => exact again .inet6
      | inet6 => exact again .inet
      | _ => exact does_pure ⟨once, nofun⟩

theorem does_connectHost (platform : Platform) (msec : Int) (has : Has others none s) :
    Does NotClosed (connectHost platform msec) s fun status last =>
      ∃ tries, Looked platform s.context tries ∧
        HostGoes others (Open (!s.context.block) (Settled s.context.block)) (Silent s.context) s
          tries status last := by
  unfold connectHost
  refine does_get (Does.bind (does_resolveSync platform _ _ _ has) ?_)
  rintro found first ⟨leaves, looked⟩
  have fails {status : Status} {err : Option ContextError} {last : System} (set : err ≠ none)
      (later : Leaves others none err s last) (failed : status = .err) :
      ∃ tries, Looked platform s.context tries ∧
        HostGoes others (Open (!s.context.block) (Settled s.context.block)) (Silent s.context) s
          tries status last := by
    have untried : Leaves others none err (s.after []) last := by
      rwa [System.after, List.append_nil]
    exact ⟨[], .inl rfl, failed ▸ .err untried (.inl set)⟩
  rcases found with error | addresses
  · cases error with
    | memory =>
        refine (does_outOfMemory leaves.has).mono fun status last result => ?_
        obtain ⟨failed, err, set, later⟩ := result
        exact fails set (leaves.trans later) failed
    | other number =>
        refine Does.bind (does_setError _ _ leaves.has) ?_
        rintro _ last ⟨err, set, later⟩
        exact does_pure (fails set (leaves.trans later) rfl)
  · refine (does_tryAddresses platform msec addresses valkeyConnectRetries leaves.has).mono
      fun status last result => ?_
    obtain ⟨tries, turn, bounded, goes⟩ := result
    obtain ⟨family, call, found⟩ := looked addresses rfl
    obtain ⟨block, reuse, source⟩ := setup_eq leaves.setup
    have silent : Silent first.context ↔ Silent s.context := by
      rw [Silent, Silent, source, reuse]
    have tried : (first.after tries).tried = (s.after tries).tried :=
      congrArg (· ++ tries) leaves.tried
    rw [block] at goes
    refine ⟨tries, .inr ⟨family, call, addresses, found, turn, bounded⟩, ?_⟩
    cases goes with
    | ok later holds =>
        refine .ok ⟨later.has, later.err, later.setup.trans leaves.setup, ?_⟩ holds
        exact later.tried.trans tried
    | err later failed =>
        refine .err ⟨later.has, later.err, later.setup.trans leaves.setup, ?_⟩
          (failed.imp_right silent.mp)
        exact later.tried.trans tried

end Libvalkey.Net
