import Libvalkey.Cluster.NoDangling
import Libvalkey.Containers.Dict
import Libvalkey.Foundation.Checked
import Libvalkey.Foundation.HashTable
import Libvalkey.Foundation.Runs
import Libvalkey.Reader.ChildIndex

/-! # The node iterator

An iterator over the nodes of a client goes along the hash table of the nodes. A new slot
map makes it start again, but only once. -/

namespace Libvalkey

open HashTable Runs

/-! ## The dictionary of nodes -/

/-- An entry of `cc->nodes`: its key, and the node that its value points to. -/
structure NodeEntry where
  addr : Bytes
  node : Nat
  deriving DecidableEq, Repr

/-- `dictHashKey(ht, key) & ht->sizemask`, as an `unsigned int`. -/
def dictIndex (size : Nat) (entry : NodeEntry) : Nat :=
  ((dictGenHashFunction entry.addr).toNat &&& (size - 1)) % 2 ^ 32

/-- The size of a table that a full one is replaced by. -/
def dictExpanded (size : Nat) : Nat := dictNextPower (if size = 0 then 4 else size * 2)

/-- `dictAdd` for an entry whose key is not in the dictionary. -/
def dictAdd (buckets : Buckets NodeEntry) (entry : NodeEntry) : Buckets NodeEntry :=
  HashTable.insert dictIndex dictExpanded buckets entry

theorem places_dictIndex : Places dictIndex := by
  intro size entry positive
  have masked : (dictGenHashFunction entry.addr).toNat &&& (size - 1) ≤ size - 1 :=
    Nat.and_le_right
  have cut := Nat.mod_le ((dictGenHashFunction entry.addr).toNat &&& (size - 1)) (2 ^ 32)
  unfold dictIndex
  omega

theorem dictExpanded_pos (size : Nat) : 0 < dictExpanded size := dictNextPower_pos _

namespace ValkeyClusterContext

/-- `cc->nodes`. The keys differ, and nodes are added in the order of the list. -/
def nodesDict (cc : ValkeyClusterContext) : Buckets NodeEntry :=
  (cc.nodes.map fun node => ⟨node.addr, node.id⟩).foldl dictAdd []

/-- The nodes in the order in which the table has them. -/
def iteration (cc : ValkeyClusterContext) : List Nat := cc.nodesDict.flatten.map (·.node)

theorem foldl_dictAdd_perm (entries : List NodeEntry) (buckets : Buckets NodeEntry) :
    (entries.foldl dictAdd buckets).flatten.Perm (entries ++ buckets.flatten) := by
  induction entries generalizing buckets with
  | nil => exact .refl _
  | cons entry entries induction =>
      refine (induction (dictAdd buckets entry)).trans ?_
      exact ((insert_perm places_dictIndex dictExpanded_pos entry).append_left entries).trans
        List.perm_middle

/-- The table has every node once. -/
theorem iteration_perm (cc : ValkeyClusterContext) : cc.iteration.Perm cc.nodeNames := by
  have whole := (foldl_dictAdd_perm (cc.nodes.map fun node => ⟨node.addr, node.id⟩) []).map (·.node)
  simpa [iteration, nodesDict, nodeNames, Function.comp_def] using whole

end ValkeyClusterContext

/-! ## The iterator -/

/-- `struct nodeIterator`. `dict` names the dictionary that `di` goes along by the number of
updates before it. -/
structure NodeIterator where
  routeVersion : Nat
  retriesLeft : Int
  di : Iterator NodeEntry
  dict : Nat
  deriving DecidableEq, Repr

/-- `cc->route_version` is a `uint64_t`. -/
def storedVersion (cc : ValkeyClusterContext) : Nat := cc.routeVersion % 2 ^ 64

def valkeyClusterInitNodeIterator (cc : ValkeyClusterContext) : NodeIterator where
  routeVersion := storedVersion cc
  retriesLeft := 1
  di := .init
  dict := cc.routeVersion

/-- Undefined behaviour: the use of a dictionary that has been released, or of an index that
does not fit an `int`. -/
inductive IterationFault
  | freedDict
  | overflow
  deriving DecidableEq, Repr

/-- The largest `int`. -/
def maxIndex : Int := 2 ^ 31 - 1

/-- `(signed)ht->size` -/
def signedSize (buckets : Buckets NodeEntry) : Int := toInt32 buckets.length

/-- The iterator after the test for a new slot map. -/
def NodeIterator.restarted (ni : NodeIterator) (cc : ValkeyClusterContext) : NodeIterator :=
  if ni.routeVersion ≠ storedVersion cc then
    { routeVersion := storedVersion cc
      retriesLeft := ni.retriesLeft - 1
      di := .init
      dict := cc.routeVersion }
  else ni

def valkeyClusterNodeNext (cc : ValkeyClusterContext) (ni : NodeIterator) :
    Except IterationFault (Option Nat × NodeIterator) :=
  if ni.retriesLeft ≤ 0 then .ok (none, ni)
  else
    let ni := ni.restarted cc
    if ni.dict ≠ cc.routeVersion then .error .freedDict
    else
      match ni.di.next maxIndex (signedSize cc.nodesDict) cc.nodesDict with
      | .error .overflow => .error .overflow
      | .ok (de, di) => .ok (de.map (·.node), { ni with di := di })

/-! ## Runs -/

/-- A client and an iterator over its nodes, with the results since the iterator was made or
the nodes were replaced last. -/
structure IterationState where
  cc : ValkeyClusterContext
  ni : NodeIterator
  results : List (Option Nat)

/-- A call for the next node, or a reply to a route query. -/
inductive IterationEvent
  | next
  | update (host : Bytes) (reply : ReplyTree) (allocated : Bool)

/-- What a reply to a route query does to the nodes. -/
def handleRouteReply (order : IterationOrder) (cc : ValkeyClusterContext) (host : Bytes)
    (reply : ReplyTree) (allocated : Bool) : ValkeyClusterContext :=
  match parseRouteReply cc host reply with
  | .error message => cc.setError .other (ascii message)
  | .ok nodes => (updateNodesAndSlotmap order allocated cc nodes).2

def iterationStep (order : IterationOrder) (state : IterationState) :
    IterationEvent → Except IterationFault IterationState
  | .next => do
      let (result, ni) ← valkeyClusterNodeNext state.cc state.ni
      return { state with ni := ni, results := state.results ++ [result] }
  | .update host reply allocated =>
      let cc := handleRouteReply order state.cc host reply allocated
      .ok { state with
        cc := cc
        results := if cc.routeVersion = state.cc.routeVersion then state.results else [] }

namespace IterationState

def init (cc : ValkeyClusterContext) : IterationState := ⟨cc, valkeyClusterInitNodeIterator cc, []⟩

/-- Since the nodes were replaced last the calls have returned every node of the client once,
and NULL after them. -/
structure Correct (state : IterationState) : Prop where
  results : ∀ (k : Nat) result, state.results[k]? = some result → result = state.cc.iteration[k]?
  nodes : state.cc.iteration.Perm state.cc.nodeNames
  distinct : state.cc.nodeNames.Nodup

/-- The nodes have been replaced a multiple of `2 ^ 64` times, and the iterator does not see it. -/
def Unnoticed (state : IterationState) : Prop :=
  state.ni.dict ≠ state.cc.routeVersion ∧ state.ni.routeVersion = storedVersion state.cc

/-- The index of the iterator is the largest `int`. -/
def IndexFull (state : IterationState) : Prop :=
  state.ni.routeVersion = storedVersion state.cc ∧ state.ni.di.index = maxIndex

/-- The entries in front of the bucket that the iterator takes for the end. -/
def reachable (cc : ValkeyClusterContext) : List NodeEntry :=
  Iterator.visible (signedSize cc.nodesDict) cc.nodesDict

/-- A call after the only restart comes when all nodes have been returned, and any other call
finds the dictionary and an index in it. -/
def MayCall (state : IterationState) : IterationEvent → Prop
  | .update _ _ _ => True
  | .next =>
      (state.ni.retriesLeft ≤ 0 → state.cc.iteration.length ≤ state.results.length) ∧
        (0 < state.ni.retriesLeft → ¬state.Unnoticed ∧ ¬state.IndexFull ∧
          (state.results.length < (reachable state.cc).length ∨
            state.cc.iteration.length ≤ state.results.length))

instance (state : IterationState) : Decidable state.Unnoticed :=
  inferInstanceAs (Decidable (_ ∧ _))

instance (state : IterationState) : Decidable state.IndexFull :=
  inferInstanceAs (Decidable (_ ∧ _))

instance (state : IterationState) : ∀ event, Decidable (state.MayCall event)
  | .update _ _ _ => .isTrue trivial
  | .next => inferInstanceAs (Decidable ((_ → _) ∧ (_ → _ ∧ _ ∧ (_ ∨ _))))

/-- What holds of every state of a run whose results are correct so far. -/
structure Consistent (state : IterationState) : Prop where
  wellFormed : state.cc.WellFormed
  correct : ∀ (k : Nat) result, state.results[k]? = some result → result = state.cc.iteration[k]?
  version : state.ni.routeVersion = state.ni.dict % 2 ^ 64
  older : state.ni.dict ≤ state.cc.routeVersion
  fresh : 0 < state.ni.retriesLeft → state.ni.dict ≠ state.cc.routeVersion → state.results = []
  ahead : 0 < state.ni.retriesLeft → state.ni.dict = state.cc.routeVersion →
    state.ni.di.Valid maxIndex (signedSize state.cc.nodesDict) ∧
      state.ni.di.ahead (signedSize state.cc.nodesDict) state.cc.nodesDict =
        (reachable state.cc).drop state.results.length

theorem signedSize_le (buckets : Buckets NodeEntry) :
    signedSize buckets ≤ maxIndex ∧ signedSize buckets ≤ buckets.length := by
  have below := toInt32_lt buckets.length
  constructor
  · unfold signedSize maxIndex
    omega
  · unfold signedSize toInt32 Int.bmod
    dsimp only
    split <;> omega

/-- What is reachable comes first. -/
theorem reachable_prefix (cc : ValkeyClusterContext) : reachable cc <+: cc.nodesDict.flatten := by
  obtain ⟨rest, whole⟩ := List.take_prefix (signedSize cc.nodesDict).toNat cc.nodesDict
  refine ⟨rest.flatten, ?_⟩
  rw [reachable, Iterator.visible, ← List.flatten_append, whole]

theorem reachable_get_iff (cc : ValkeyClusterContext) (k : Nat) :
    (reachable cc)[k]?.map (·.node) = cc.iteration[k]? ↔
      k < (reachable cc).length ∨ cc.iteration.length ≤ k := by
  have first := reachable_prefix cc
  rw [ValkeyClusterContext.iteration, List.getElem?_map, List.length_map]
  by_cases inside : k < (reachable cc).length
  · have same : (reachable cc)[k]? = cc.nodesDict.flatten[k]? := by
      rw [List.getElem?_eq_getElem inside, List.prefix_iff_getElem?.mp first k inside]
    rw [same]
    simp [inside]
  · rw [List.getElem?_eq_none (Nat.le_of_not_lt inside), Option.map_none, eq_comm,
      Option.map_eq_none_iff, List.getElem?_eq_none_iff]
    simp [inside]

theorem consistent_init {cc : ValkeyClusterContext} (wellFormed : cc.WellFormed) :
    (init cc).Consistent where
  wellFormed := wellFormed
  correct := fun k result known => by simp [init] at known
  version := by simp only [init, valkeyClusterInitNodeIterator, storedVersion]
  older := Nat.le_refl _
  fresh := fun _ _ => rfl
  ahead := fun _ _ => ⟨Iterator.valid_init (by decide), by
    simp [init, valkeyClusterInitNodeIterator, reachable]⟩

section Step

variable {order : IterationOrder} {state next : IterationState}

theorem nodeNext_used (used : state.ni.retriesLeft ≤ 0) :
    valkeyClusterNodeNext state.cc state.ni = .ok (none, state.ni) := if_pos used

/-- What the test for a new slot map leaves is an iterator that goes along the current nodes. -/
theorem restarted_ahead (consistent : state.Consistent) (more : 0 < state.ni.retriesLeft)
    (noticed : ¬state.Unnoticed) :
    (state.ni.restarted state.cc).dict = state.cc.routeVersion ∧
      (state.ni.restarted state.cc).routeVersion = storedVersion state.cc ∧
      (state.ni.restarted state.cc).di.Valid maxIndex (signedSize state.cc.nodesDict) ∧
      (state.ni.restarted state.cc).di.ahead (signedSize state.cc.nodesDict) state.cc.nodesDict =
        (reachable state.cc).drop state.results.length := by
  unfold NodeIterator.restarted
  by_cases same : state.ni.routeVersion = storedVersion state.cc
  · have current : state.ni.dict = state.cc.routeVersion :=
      Decidable.byContradiction fun other => noticed ⟨other, same⟩
    rw [if_neg (not_not.mpr same)]
    exact ⟨current, same, consistent.ahead more current⟩
  · have replaced : state.ni.dict ≠ state.cc.routeVersion := fun current =>
      same (by rw [consistent.version, current, storedVersion])
    rw [if_pos same, consistent.fresh more replaced]
    exact ⟨rfl, rfl, Iterator.valid_init (by decide), by simp [reachable]⟩

theorem restarted_index (index : ¬state.IndexFull) :
    (state.ni.restarted state.cc).di.index ≠ maxIndex := by
  unfold NodeIterator.restarted
  by_cases same : state.ni.routeVersion = storedVersion state.cc
  · rw [if_neg (not_not.mpr same)]
    exact fun full => index ⟨same, full⟩
  · rw [if_pos same]
    exact (by decide : (-1 : Int) ≠ maxIndex)

/-- The iterator goes on, or it starts again and is used up. -/
theorem nodeNext_goes (consistent : state.Consistent) (more : 0 < state.ni.retriesLeft)
    (noticed : ¬state.Unnoticed) (index : ¬state.IndexFull) :
    ∃ ni, valkeyClusterNodeNext state.cc state.ni =
        .ok ((reachable state.cc)[state.results.length]?.map (·.node), ni) ∧
      ni.dict = state.cc.routeVersion ∧ ni.routeVersion = storedVersion state.cc ∧
      ni.di.Valid maxIndex (signedSize state.cc.nodesDict) ∧
      ni.di.ahead (signedSize state.cc.nodesDict) state.cc.nodesDict =
        (reachable state.cc).drop (state.results.length + 1) := by
  obtain ⟨current, version, valid, ahead⟩ := restarted_ahead consistent more noticed
  obtain ⟨small, sized⟩ := signedSize_le state.cc.nodesDict
  obtain ⟨after, result, afterValid, rest⟩ :=
    Iterator.next_eq valid small sized (restarted_index index)
  rw [ahead, List.head?_drop] at result
  rw [ahead, List.tail_drop] at rest
  refine ⟨{ state.ni.restarted state.cc with di := after }, ?_, current, version, afterValid, rest⟩
  rw [valkeyClusterNodeNext, if_neg (Int.not_le.mpr more)]
  dsimp only
  rw [if_neg (not_not.mpr current), result]

theorem nodeNext_faults (consistent : state.Consistent) (more : 0 < state.ni.retriesLeft)
    (lost : state.Unnoticed ∨ state.IndexFull) :
    ∃ fault, valkeyClusterNodeNext state.cc state.ni = .error fault := by
  have kept (same : state.ni.routeVersion = storedVersion state.cc) :
      state.ni.restarted state.cc = state.ni := if_neg (not_not.mpr same)
  rw [valkeyClusterNodeNext, if_neg (Int.not_le.mpr more)]
  dsimp only
  by_cases unnoticed : state.Unnoticed
  · rw [kept unnoticed.2, if_pos unnoticed.1]
    exact ⟨_, rfl⟩
  · obtain ⟨same, full⟩ := lost.resolve_left unnoticed
    obtain ⟨current, _, valid, _⟩ := restarted_ahead consistent more unnoticed
    obtain ⟨small, _⟩ := signedSize_le state.cc.nodesDict
    rw [kept same] at current valid ⊢
    rw [if_neg (not_not.mpr current), Iterator.next_overflows valid small full]
    exact ⟨_, rfl⟩

/-- The results with one more are correct exactly if that one is. -/
theorem correct_append {results : List (Option Nat)} {nodes : List Nat} {last : Option Nat}
    (correct : ∀ (k : Nat) result, results[k]? = some result → result = nodes[k]?) :
    (∀ (k : Nat) result, (results ++ [last])[k]? = some result → result = nodes[k]?) ↔
      last = nodes[results.length]? := by
  constructor
  · intro all
    exact all results.length last (by simp)
  · rintro rfl k result known
    rcases Nat.lt_trichotomy k results.length with before | rfl | behind
    · rw [List.getElem?_append_left before] at known
      exact correct k result known
    · simpa using known.symm
    · rw [List.getElem?_eq_none (by simp; omega)] at known
      cases known

theorem consistent_correct (consistent : state.Consistent) : state.Correct :=
  ⟨consistent.correct, state.cc.iteration_perm, consistent.wellFormed.nodeNames_nodup⟩

/-- A state with one more result. -/
def returned (state : IterationState) (ni : NodeIterator) (result : Option Nat) : IterationState :=
  { state with ni := ni, results := state.results ++ [result] }

theorem iterationStep_next {ni : NodeIterator} {result : Option Nat}
    (called : valkeyClusterNodeNext state.cc state.ni = .ok (result, ni)) :
    iterationStep order state .next = .ok (state.returned ni result) := by
  rw [iterationStep, called]
  rfl

theorem returned_correct_iff (consistent : state.Consistent) (ni : NodeIterator)
    (result : Option Nat) :
    (state.returned ni result).Correct ↔ result = state.cc.iteration[state.results.length]? := by
  rw [← correct_append consistent.correct]
  exact ⟨fun correct => correct.results, fun correct =>
    ⟨correct, state.cc.iteration_perm, consistent.wellFormed.nodeNames_nodup⟩⟩

/-- A call is correct exactly if it may be made. -/
theorem next_correct_iff (consistent : state.Consistent) :
    (∃ next, iterationStep order state .next = .ok next ∧ next.Correct) ↔ state.MayCall .next := by
  have only {ni : NodeIterator} {result : Option Nat}
      (called : valkeyClusterNodeNext state.cc state.ni = .ok (result, ni)) :
      (∃ next, iterationStep order state .next = .ok next ∧ next.Correct) ↔
        result = state.cc.iteration[state.results.length]? := by
    rw [iterationStep_next called, ← returned_correct_iff consistent ni result]
    simp
  rw [MayCall]
  by_cases used : state.ni.retriesLeft ≤ 0
  · rw [only (nodeNext_used used), eq_comm, List.getElem?_eq_none_iff]
    simp [used, Int.not_lt.mpr used]
  · have more := Int.lt_of_not_ge used
    simp only [used, false_implies, true_and, more, true_implies]
    by_cases lost : state.Unnoticed ∨ state.IndexFull
    · obtain ⟨fault, failed⟩ := nodeNext_faults consistent more lost
      refine iff_of_false ?_ fun goes => lost.elim goes.1 goes.2.1
      rintro ⟨next, result, _⟩
      rw [iterationStep, failed] at result
      cases result
    · obtain ⟨noticed, index⟩ := not_or.mp lost
      obtain ⟨ni, called, _⟩ := nodeNext_goes consistent more noticed index
      rw [only called, reachable_get_iff]
      simp [noticed, index]

theorem consistent_next (consistent : state.Consistent) (may : state.MayCall .next)
    (result : iterationStep order state .next = .ok next) : next.Consistent := by
  obtain ⟨other, same, correct⟩ := (next_correct_iff consistent).mpr may
  obtain rfl := Except.ok.inj (result.symm.trans same)
  by_cases used : state.ni.retriesLeft ≤ 0
  · rw [iterationStep_next (nodeNext_used used)] at result
    obtain rfl := Except.ok.inj result
    exact {
      wellFormed := consistent.wellFormed
      correct := correct.results
      version := consistent.version
      older := consistent.older
      fresh := fun more => absurd used (Int.not_le.mpr more)
      ahead := fun more => absurd used (Int.not_le.mpr more) }
  · have more := Int.lt_of_not_ge used
    obtain ⟨noticed, index, _⟩ := may.2 more
    obtain ⟨ni, called, current, version, valid, ahead⟩ :=
      nodeNext_goes consistent more noticed index
    rw [iterationStep_next called] at result
    obtain rfl := Except.ok.inj result
    exact {
      wellFormed := consistent.wellFormed
      correct := correct.results
      version := by rw [returned, version, current, storedVersion]
      older := Nat.le_of_eq current
      fresh := fun _ other => absurd current other
      ahead := fun _ _ => ⟨valid, by simpa [returned] using ahead⟩ }

/-- A reply to a route query leaves the nodes as they are, or others take their place. -/
theorem handleRouteReply_cases (order : IterationOrder) (cc : ValkeyClusterContext) (host : Bytes)
    (reply : ReplyTree) (allocated : Bool) :
    (∃ type str, handleRouteReply order cc host reply allocated = cc.setError type str) ∨
      ∃ table nodes, NewNodes cc.nextNode nodes ∧ RefersTo (nodes.map (·.id)) table ∧
        handleRouteReply order cc host reply allocated = cc.replaceNodes table nodes := by
  unfold handleRouteReply
  cases parsed : parseRouteReply cc host reply with
  | error message => exact .inl ⟨_, _, rfl⟩
  | ok nodes =>
      rcases ValkeyClusterContext.updateNodesAndSlotmap_cases order allocated cc nodes with
        ⟨type, str, updated⟩ | ⟨table, _, created, updated⟩
      · exact .inl ⟨type, str, by simp [updated]⟩
      · exact .inr ⟨table, nodes, (parses_routeReply cc host reply).of_ok parsed,
          (parses_createTable order nodes).of_ok created, by simp [updated]⟩

theorem consistent_update (consistent : state.Consistent) (host : Bytes) (reply : ReplyTree)
    (allocated : Bool)
    (result : iterationStep order state (.update host reply allocated) = .ok next) :
    next.Consistent := by
  obtain rfl := Except.ok.inj result
  have older := consistent.older
  rcases handleRouteReply_cases order state.cc host reply allocated with
    ⟨type, str, kept⟩ | ⟨table, nodes, new, refers, replaced⟩
  · have same : (state.cc.setError type str).routeVersion = state.cc.routeVersion := rfl
    rw [kept, if_pos same]
    exact {
      wellFormed := consistent.wellFormed.of_sameNames
        (ValkeyClusterContext.sameNames_setError state.cc type str)
      correct := consistent.correct
      version := consistent.version
      older := older
      fresh := consistent.fresh
      ahead := consistent.ahead }
  · have later : (state.cc.replaceNodes table nodes).routeVersion = state.cc.routeVersion + 1 := rfl
    rw [replaced, if_neg (by rw [later]; omega)]
    exact {
      wellFormed := consistent.wellFormed.replaceNodes new refers
      correct := fun k result known => by simp at known
      version := consistent.version
      older := by
        dsimp only
        omega
      fresh := fun _ _ => rfl
      ahead := fun _ current => by
        dsimp only at current
        omega }

end Step

/-- In every state that a run of calls and updates reaches the results are correct, and no step
is undefined. -/
def AlwaysCorrect (order : IterationOrder) (start : IterationState) (events : List IterationEvent) :
    Prop :=
  Always (iterationStep order)
    (fun state event => ∃ next, iterationStep order state event = .ok next ∧ next.Correct)
    start events

theorem AlwaysCorrect.final {order : IterationOrder} {start final : IterationState}
    {events : List IterationEvent} (always : AlwaysCorrect order start events)
    (initial : start.Correct) (reached : run (iterationStep order) start events = .ok final) :
    final.Correct := by
  have shows (state : IterationState) (event : IterationEvent) (_ : state.Correct)
      (_ : ∃ next, iterationStep order state event = .ok next ∧ next.Correct) : True := trivial
  have kept (state : IterationState) (event : IterationEvent) (next : IterationState)
      (_ : state.Correct) (holds : ∃ next, iterationStep order state event = .ok next ∧
        next.Correct)
      (taken : iterationStep order state event = .ok next) : next.Correct := by
    obtain ⟨other, same, correct⟩ := holds
    obtain rfl := Except.ok.inj (taken.symm.trans same)
    exact correct
  exact (Always.invariant (iterationStep order) shows kept events initial always).2 final reached

end IterationState

open IterationState

/-- An iterator restarts once. Along every run it returns all nodes of the current slot map, and
NULL after them, exactly if no call comes too early after a restart. -/
theorem node_iterator_correct_iff (order : IterationOrder) {cc : ValkeyClusterContext}
    (wellFormed : cc.WellFormed) (events : List IterationEvent) :
    AlwaysCorrect order (.init cc) events ↔
      Always (iterationStep order) MayCall (.init cc) events := by
  refine always_iff (iterationStep order) (fun state event consistent => ?_)
    (fun state event next consistent may taken => ?_) events (consistent_init wellFormed)
  · cases event with
    | next => exact next_correct_iff consistent
    | update host reply allocated =>
        refine iff_of_true ⟨_, rfl, ?_⟩ trivial
        exact consistent_correct (consistent_update consistent host reply allocated rfl)
  · cases event with
    | next => exact consistent_next consistent may taken
    | update host reply allocated => exact consistent_update consistent host reply allocated taken

/-- A reply to `CLUSTER SLOTS` with two new nodes. -/
def newSlotsReply : ReplyTree :=
  .aggregate .array
    [.aggregate .array [.integer 0, .integer 0,
      .aggregate .array [.string (ascii "c"), .integer 3]],
      .aggregate .array [.integer 1, .integer 1,
        .aggregate .array [.string (ascii "d"), .integer 4]]]

theorem node_iterator_correct_until_restart :
    AlwaysCorrect inOrder (.init twoNodes)
      [.next, .next, .next, .update (ascii "a") newSlotsReply true, .next] :=
  (node_iterator_correct_iff inOrder wellFormed_twoNodes
    [.next, .next, .next, .update (ascii "a") newSlotsReply true, .next]).mpr (by decide +kernel)

/-- After an update one of the two new nodes is returned, and then NULL. -/
theorem node_iterator_stops_early : ¬AlwaysCorrect inOrder (.init twoNodes)
    [.next, .update (ascii "a") newSlotsReply true, .next, .next] := by
  intro always
  have passed : Checked.passes (run (iterationStep inOrder) (.init twoNodes)
      [.next, .update (ascii "a") newSlotsReply true, .next, .next])
      (fun final => final.results == [some 2, none] && final.cc.iteration == [2, 3]) = true := by
    decide +kernel
  obtain ⟨final, reached, test⟩ := Checked.exists_of_passes passed
  obtain ⟨results, iteration⟩ := (Bool.and_eq_true_iff).mp test
  have correct := always.final (consistent_correct (consistent_init wellFormed_twoNodes)) reached
  have second := correct.results 1 none (by rw [eq_of_beq results]; rfl)
  rw [eq_of_beq iteration] at second
  cases second

end Libvalkey
