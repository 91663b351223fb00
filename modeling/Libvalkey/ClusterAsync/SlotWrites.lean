import Libvalkey.Cluster.ErrorReport
import Libvalkey.ClusterAsync.Holders

/-! # Writes to the slot table

The clients write the node that a redirect names into the table, at the slot that it
names. A write outside the table is a fault. -/

namespace Libvalkey

variable {Fn Data : Type}

/-- A redirect that can be followed names a slot that there is. -/
def RedirectsInside (str : Bytes) : Prop :=
  ∀ host redirect, parseRedirect host str = .ok redirect → redirect.slot < valkeyClusterSlots

/-- The slot does not depend on the host that a redirect without one means. -/
theorem parseRedirect_slot {host str : Bytes} (other : Bytes) {redirect : Redirect}
    (parsed : parseRedirect host str = .ok redirect) :
    ∃ same, parseRedirect other str = .ok same ∧ same.slot = redirect.slot := by
  unfold parseRedirect at parsed ⊢
  split at parsed
  · cases parsed
  split at parsed
  · cases parsed
  dsimp only at parsed ⊢
  split at parsed
  · cases parsed
  rename_i inRange
  rw [if_neg inRange]
  split at parsed
  · rename_i named
    cases parsed
    exact ⟨_, if_pos named, rfl⟩
  · rename_i hostless
    cases parsed
    exact ⟨_, if_neg hostless, rfl⟩

instance (str : Bytes) : Decidable (RedirectsInside str) :=
  decidable_of_iff (∀ redirect ∈ (parseRedirect [] str).toOption,
      redirect.slot < (valkeyClusterSlots : Int)) <| by
    constructor
    · intro inside host redirect parsed
      obtain ⟨same, hostless, slot⟩ := parseRedirect_slot [] parsed
      rw [← slot]
      exact inside same (by rw [hostless]; rfl)
    · intro inside redirect parsed
      cases result : parseRedirect [] str with
      | error message =>
          rw [result] at parsed
          cases parsed
      | ok other =>
          rw [result] at parsed
          cases parsed
          exact inside [] redirect result

/-- The redirect that the synchronous client follows next. -/
def Client.followed : Client → Option Bytes
  | .executing _ (.moved _, s) => some s.text
  | _ => none

/-- The redirect that the asynchronous client follows when an event lets a connection go on. -/
def followedAt (world : World) (state : ClusterAsyncState Fn Data) (event : ClusterEvent Fn Data) :
    Option Bytes :=
  match event.handles state.1 with
  | none => none
  | some (c, handled, _) =>
      match state.2.connection c with
      | .error _ => none
      | .ok ac =>
          match asyncStep world.order ac.state handled with
          | .error _ => none
          | .ok (label, context) =>
              match label.isServed, lastServed context with
              | true,
                  some ⟨{ fn := some (.user .asyncCallback), privdata := .user (.record id), .. },
                  some reply⟩ =>
                  (state.2.findRecord id).bind fun cad => followed state.2 cad reply
              | _, _ => none

theorem followed_of_step {network : Nat → Outcome} {order : IterationOrder} {call : Call}
    {client : Client} {slot : Int}
    (stops : clientStep network order call client = .error (.tableIndex slot)) :
    ∃ text ∈ client.followed, ¬ RedirectsInside text := by
  have fault : ClientFault client (.tableIndex slot) :=
    (modifies_clientStep call client).of_error stops
  cases client with
  | idle cc => exact absurd rfl (fault slot)
  | executing command state =>
      obtain ⟨label, s⟩ := state
      rcases fault with inside | ⟨c, rfl, inside | ⟨host, redirect, parsed, outside, _⟩⟩
      · exact absurd rfl (inside slot)
      · exact absurd rfl (inside slot)
      · exact ⟨s.text, rfl, fun all => absurd (all host redirect parsed) (not_lt.mpr outside)⟩

theorem followedAt_of_step {world : World} {state : ClusterAsyncState Fn Data}
    {event : ClusterEvent Fn Data} {slot : Int}
    (stops : clusterStep world state event = .error (.pointer (.tableIndex slot))) :
    ∃ text ∈ followedAt world state event, ¬ RedirectsInside text := by
  have halts := (ensures_clusterStep state event).of_error stops
  cases halts with
  | sheltered sheltered => exact absurd rfl (sheltered.2 slot)
  | @fails stack acc fault c ac handled next rest handles found driven fails =>
      cases fails with
      | sheltered sheltered => exact absurd rfl (sheltered.2 slot)
      | @outside cb reply id cad text fault served last callback privdata known follows outside =>
          obtain ⟨_, ⟨host, redirect, parsed, outside, _⟩, _⟩ := outside
          refine ⟨text, ?_, fun all => absurd (all host redirect parsed) (not_lt.mpr outside)⟩
          obtain ⟨label, context⟩ := next
          obtain ⟨fn, data, pendingSubs, unsubscribeSent, subscribed, number⟩ := cb
          dsimp only at callback privdata served last known follows
          subst callback privdata
          simp only [followedAt, handles, found, driven, served, last, known, Option.bind_some,
            follows, Option.mem_def]

/-- A step of the synchronous client. -/
abbrev synchronousStep (network : Nat → Outcome) (order : IterationOrder) (client : Client)
    (call : Call) : Except Fault Client :=
  clientStep network order call client

/-- As long as every redirect that is followed names a slot that there is, no write is outside
the table. -/
theorem slot_writes_inside (network : Nat → Outcome) (order : IterationOrder) (world : World)
    {client : Client} {calls : List Call} {start : ClusterAsyncState Fn Data}
    {events : List (ClusterEvent Fn Data)}
    (synchronous : Runs.Always (synchronousStep network order)
      (fun client _ => ∀ text ∈ client.followed, RedirectsInside text) client calls)
    (asynchronous : Runs.Always (clusterStep world)
      (fun state event => ∀ text ∈ followedAt world state event, RedirectsInside text)
        start events) :
    Runs.Always (synchronousStep network order)
        (fun client call => ∀ slot,
          synchronousStep network order client call ≠ .error (.tableIndex slot)) client calls ∧
      Runs.Always (clusterStep world)
        (fun state event => ∀ slot,
          clusterStep world state event ≠ .error (.pointer (.tableIndex slot))) start events := by
  constructor
  · have shows (client : Client) (call : Call) (_ : True)
        (inside : ∀ text ∈ client.followed, RedirectsInside text) (slot : Int) :
        synchronousStep network order client call ≠ .error (.tableIndex slot) := by
      intro stops
      obtain ⟨text, follows, outside⟩ := followed_of_step stops
      exact outside (inside text follows)
    exact (Runs.Always.invariant (synchronousStep network order) shows
      (fun _ _ _ _ _ _ => trivial) calls trivial synchronous).1
  · have shows (state : ClusterAsyncState Fn Data) (event : ClusterEvent Fn Data) (_ : True)
        (inside : ∀ text ∈ followedAt world state event, RedirectsInside text) (slot : Int) :
        clusterStep world state event ≠ .error (.pointer (.tableIndex slot)) := by
      intro stops
      obtain ⟨text, follows, outside⟩ := followedAt_of_step stops
      exact outside (inside text follows)
    exact (Runs.Always.invariant (clusterStep world) shows (fun _ _ _ _ _ _ => trivial) events
      trivial asynchronous).1

/-- All answers redirect the command. -/
def redirects (text : Bytes) : Nat → Outcome := calmNetwork fun _ => .error text

def redirectedCalls : List Call := List.replicate 6 (.command getInSlotZero)

/-- The answer of the first node redirects the command. -/
def redirectedEvents (text : Bytes) : List (ClusterEvent Nat Nat) :=
  [.command (some 1) 7 getInSlotZero, .writable 0 .done (.written 1000),
   .readable 0 .pending (.replies [.error text] none), .proceed]

theorem slot_writes_inside_last :
    Runs.Always (synchronousStep (redirects (ascii "MOVED 16383 b:2")) inOrder)
        (fun client call => ∀ slot,
          synchronousStep (redirects (ascii "MOVED 16383 b:2")) inOrder client call ≠
            .error (.tableIndex slot)) (.idle twoNodes) redirectedCalls ∧
      Runs.Always (clusterStep calmWorld)
        (fun state event => ∀ slot,
          clusterStep calmWorld state event ≠ .error (.pointer (.tableIndex slot)))
        ([], unopenedClient) (redirectedEvents (ascii "MOVED 16383 b:2")) :=
  slot_writes_inside _ inOrder calmWorld (by decide +kernel) (by decide +kernel)

/-- A server can name the slot after the last one. -/
theorem slot_written_outside :
    Runs.run (synchronousStep (redirects (ascii "MOVED 16384 b:2")) inOrder) (.idle twoNodes)
        redirectedCalls = .error (.tableIndex 16384) ∧
      clusterRun calmWorld ([], unopenedClient) (redirectedEvents (ascii "MOVED 16384 b:2")) =
        .error (.pointer (.tableIndex 16384)) :=
  ⟨Checked.error_of_faultOf (by decide +kernel), Checked.error_of_faultOf (by decide +kernel)⟩

end Libvalkey
