import Libvalkey.ClusterAsync.Holders
import Libvalkey.Foundation.Preference

/-! # The choice of a node

`selectNode` prefers a connected node to one that may be connected to, and that one to
none, whatever the random index is. -/

namespace Libvalkey

open Preference

variable {Fn Data : Type} {acc : ValkeyClusterAsyncContext Fn Data}

/-- The node has a connection that is established and without an error. -/
def HasConnection (acc : ValkeyClusterAsyncContext Fn Data)
    (node : ValkeyClusterNode ValkeyContext) : Prop :=
  ∃ c ac, node.acon = some c ∧ acc.connection c = .ok ac ∧ ac.state.2.err = none ∧
    ac.state.2.connected = true

/-- The last attempt to connect to the node was made before the limit. -/
def Unthrottled (limit : Int) (node : ValkeyClusterNode ValkeyContext) : Prop :=
  node.lastConnectionAttempt < limit

instance (limit : Int) (node : ValkeyClusterNode ValkeyContext) :
    Decidable (Unthrottled limit node) :=
  inferInstanceAs (Decidable (_ < _))

/-- The connections of the nodes are connections of the client. -/
def Resolved (acc : ValkeyClusterAsyncContext Fn Data) : Prop :=
  ∀ node ∈ acc.cc.nodes, ∀ c, node.acon = some c → ∃ ac, acc.connection c = .ok ac

theorem Bonded.resolved (bonded : Bonded acc) : Resolved acc := by
  intro node member c acon
  have holder : ⟨.primary node.id, some c⟩ ∈ acc.allOwners :=
    List.mem_append_left _ (List.mem_flatMap.mpr ⟨node, member, primary_mem_ownersOf acon⟩)
  have link := (bonded.linked.agree _ _).mp (List.mem_map_of_mem (f := Owner.link) holder)
  obtain ⟨ac, inside, same⟩ := List.mem_map.mp link
  have named : ac.id = c := (Prod.mk.inj same).1
  unfold ValkeyClusterAsyncContext.connection
  cases found : acc.connections.find? (·.id == c) with
  | some other => exact ⟨other, rfl⟩
  | none => exact absurd named (by simpa using List.find?_eq_none.mp found ac inside)

theorem nodeIsConnected_eq (resolved : Resolved acc) {node : ValkeyClusterNode ValkeyContext}
    (member : node ∈ acc.cc.nodes) :
    ∃ connected, nodeIsConnected acc node = .ok connected ∧
      (connected = true ↔ HasConnection acc node) := by
  unfold nodeIsConnected HasConnection
  cases acon : node.acon with
  | none => exact ⟨false, rfl, by simp⟩
  | some c =>
      obtain ⟨ac, found⟩ := resolved node member c acon
      refine ⟨ac.state.2.err.isNone && ac.state.2.connected, ?_, ?_⟩
      · dsimp only
        rw [found]
        rfl
      constructor
      · intro both
        simp only [Bool.and_eq_true, Option.isNone_iff_eq_none] at both
        exact ⟨c, ac, rfl, found, both.1, both.2⟩
      · rintro ⟨other, otherAc, same, otherFound, err, connected⟩
        obtain rfl := Option.some.inj same
        obtain rfl := Except.ok.inj (found.symm.trans otherFound)
        simp [err, connected]

/-- A connected node is better than one that may be connected to. -/
def suitability (acc : ValkeyClusterAsyncContext Fn Data) (limit : Int)
    (node : ValkeyClusterNode ValkeyContext) : Nat :=
  if Except.toOption (nodeIsConnected acc node) = some true then 2
  else if node.lastConnectionAttempt < limit then 1
  else 0

theorem suitability_le (acc : ValkeyClusterAsyncContext Fn Data) (limit : Int)
    (node : ValkeyClusterNode ValkeyContext) : suitability acc limit node ≤ 2 := by
  unfold suitability
  split
  · exact Nat.le_refl _
  · split <;> decide

variable {limit : Int}

/-- What the loop holds of the node that it has chosen. -/
def chosenPair (acc : ValkeyClusterAsyncContext Fn Data) (limit : Int)
    (node : ValkeyClusterNode ValkeyContext) : Nat × Bool :=
  (node.id, suitability acc limit node == 2)

/-- The loop ends with one of the best nodes. -/
theorem selectNodeFrom_best (resolved : Resolved acc) (checkIndex currentIndex : Nat)
    {seen rest : List (ValkeyClusterNode ValkeyContext)}
    {chosen : Option (ValkeyClusterNode ValkeyContext)}
    (known : ∀ node ∈ rest, node ∈ acc.cc.nodes)
    (best : Best (suitability acc limit) seen chosen) :
    ∃ final, Best (suitability acc limit) (seen ++ rest) final ∧
      selectNodeFrom acc limit checkIndex currentIndex (chosen.map (chosenPair acc limit)) rest =
        .ok (final.map (·.id)) := by
  induction rest generalizing seen chosen currentIndex with
  | nil =>
      refine ⟨chosen, by simpa using best, ?_⟩
      rw [selectNodeFrom, Option.map_map]
      rfl
  | cons node rest induction =>
      obtain ⟨connected, isConnected, _⟩ :=
        nodeIsConnected_eq resolved (known node List.mem_cons_self)
      have others : ∀ other ∈ rest, other ∈ acc.cc.nodes := fun other member =>
        known other (List.mem_cons_of_mem _ member)
      -- Whatever is chosen now, the loop is left with it or goes on with it.
      have proceeds {next : Option (ValkeyClusterNode ValkeyContext)}
          (best : Best (suitability acc limit) (seen ++ [node]) next) :
          ∃ final, Best (suitability acc limit) (seen ++ node :: rest) final ∧
            (if currentIndex ≥ checkIndex ∧ (next.map (chosenPair acc limit)).elim false (·.2) then
                pure ((next.map (chosenPair acc limit)).map (·.1))
              else selectNodeFrom acc limit checkIndex (currentIndex + 1)
                (next.map (chosenPair acc limit)) rest) = .ok (final.map (·.id)) := by
        rw [List.append_cons]
        split
        · rename_i leaves
          obtain ⟨_, held⟩ := leaves
          cases next with
          | none => cases held
          | some last =>
              have top : suitability acc limit last = 2 := by simpa [chosenPair] using held
              exact ⟨some last, best.stop (fun other => top ▸ suitability_le acc limit other) rest,
                rfl⟩
        · exact induction _ others best
      rw [selectNodeFrom, isConnected, Checked.bind_ok]
      dsimp only
      cases connected with
      | true =>
          have grade : suitability acc limit node = 2 := by
            simp [suitability, isConnected, Except.toOption]
          have pair : some (node.id, true) = (some node).map (chosenPair acc limit) := by
            simp [chosenPair, grade]
          rw [if_pos rfl, pair]
          apply proceeds
          refine best.replace (by omega) ?_
          cases chosen with
          | none => exact Nat.zero_le _
          | some before => exact grade ▸ suitability_le acc limit before
      | false =>
          rw [if_neg Bool.false_ne_true]
          by_cases replaces : node.lastConnectionAttempt < limit ∧
              ((chosen.map (chosenPair acc limit)).isNone ∨ currentIndex < checkIndex ∧
                ¬(chosen.map (chosenPair acc limit)).elim false (·.2))
          · have grade : suitability acc limit node = 1 := by
              simp [suitability, isConnected, replaces.1, Except.toOption]
            have pair : some (node.id, false) = (some node).map (chosenPair acc limit) := by
              simp [chosenPair, grade]
            rw [if_pos replaces, pair]
            apply proceeds
            refine best.replace (by omega) ?_
            cases chosen with
            | none => exact Nat.zero_le _
            | some before =>
                obtain ⟨_, notFound⟩ := replaces.2.resolve_left (by simp)
                have lower : suitability acc limit before ≠ 2 := by
                  simpa [chosenPair] using notFound
                have bound := suitability_le acc limit before
                dsimp only [Option.elim]
                omega
          · rw [if_neg replaces]
            apply proceeds
            apply best.keep
            by_cases unthrottled : node.lastConnectionAttempt < limit
            · have grade : suitability acc limit node = 1 := by
                simp [suitability, isConnected, unthrottled, Except.toOption]
              cases chosen with
              | none => exact absurd ⟨unthrottled, .inl rfl⟩ replaces
              | some before => exact grade ▸ best.2.1
            · have grade : suitability acc limit node = 0 := by
                simp [suitability, isConnected, unthrottled, Except.toOption]
              rw [grade]
              exact Nat.zero_le _

theorem suitability_eq (limit : Int) (resolved : Resolved acc)
    {node : ValkeyClusterNode ValkeyContext} (member : node ∈ acc.cc.nodes) :
    (suitability acc limit node = 2 ↔ HasConnection acc node) ∧
      (¬HasConnection acc node → (suitability acc limit node = 1 ↔ Unthrottled limit node)) := by
  obtain ⟨connected, isConnected, meaning⟩ := nodeIsConnected_eq resolved member
  rw [← meaning]
  cases connected with
  | true => simp [suitability, isConnected, Except.toOption]
  | false =>
      by_cases unthrottled : node.lastConnectionAttempt < limit
      · simp [suitability, isConnected, unthrottled, Unthrottled, Except.toOption]
      · simp [suitability, isConnected, unthrottled, Unthrottled, Except.toOption]

/-- What a choice prefers. -/
structure Prefers (acc : ValkeyClusterAsyncContext Fn Data) (limit : Int) (selected : Option Nat) :
    Prop where
  connected : (∃ node ∈ acc.cc.nodes, HasConnection acc node) →
    ∃ node ∈ acc.cc.nodes, selected = some node.id ∧ HasConnection acc node
  unthrottled : (¬∃ node ∈ acc.cc.nodes, HasConnection acc node) →
    (∃ node ∈ acc.cc.nodes, Unthrottled limit node) →
      ∃ node ∈ acc.cc.nodes, selected = some node.id ∧ Unthrottled limit node
  none : selected = none → ∀ node ∈ acc.cc.nodes, ¬HasConnection acc node ∧ ¬Unthrottled limit node

theorem prefers_of_best (resolved : Resolved acc)
    {chosen : Option (ValkeyClusterNode ValkeyContext)}
    (best : Best (suitability acc limit) acc.cc.nodes chosen) :
    Prefers acc limit (chosen.map (·.id)) := by
  cases chosen with
  | none =>
      have neither : ∀ node ∈ acc.cc.nodes, ¬HasConnection acc node ∧ ¬Unthrottled limit node := by
        intro node member
        obtain ⟨two, one⟩ := suitability_eq limit resolved member
        have zero := best node member
        have alone : ¬HasConnection acc node := by
          rw [← two]
          omega
        refine ⟨alone, ?_⟩
        rw [← one alone]
        omega
      constructor
      · rintro ⟨node, member, connected⟩
        exact absurd connected (neither node member).1
      · rintro _ ⟨node, member, unthrottled⟩
        exact absurd unthrottled (neither node member).2
      · exact fun _ => neither
  | some node =>
      obtain ⟨member, positive, highest⟩ := best
      obtain ⟨two, one⟩ := suitability_eq limit resolved member
      constructor
      · rintro ⟨other, otherMember, connected⟩
        have grade := (suitability_eq limit resolved otherMember).1.mpr connected
        have better := highest other otherMember
        have bound := suitability_le acc limit node
        exact ⟨node, member, rfl, two.mp (by omega)⟩
      · intro none _
        have alone : ¬HasConnection acc node := fun connected => none ⟨node, member, connected⟩
        have bound := suitability_le acc limit node
        have notTwo := mt two.mp alone
        exact ⟨node, member, rfl, (one alone).mp (by omega)⟩
      · exact fun impossible => nomatch impossible

/-- A connected node is selected if there is one, otherwise a node to which no attempt to
connect was made within the throttling time if there is one, and `NULL` only if there is
neither. -/
theorem selectNode_prefers (world : World) (resolved : Resolved acc) (filled : acc.cc.nodes ≠ []) :
    ∃ selected next, selectNode world acc = .ok (selected, next) ∧
      Prefers acc (world.clock acc.ticks - slotmapUpdateThrottleUsec) selected := by
  have perm := world.order.perm acc.cc.nodes
  have known : ∀ node ∈ world.order.order acc.cc.nodes, node ∈ acc.cc.nodes :=
    fun node member => perm.mem_iff.mp member
  have none : Best (suitability acc (world.clock acc.ticks - slotmapUpdateThrottleUsec)) [] none :=
    best_nil
  obtain ⟨final, best, result⟩ :=
    selectNodeFrom_best resolved (world.random acc.draws % acc.cc.nodes.length) 0 known none
  refine ⟨final.map (·.id), { acc.tick with draws := acc.draws + 1 }, ?_,
    prefers_of_best resolved (best.perm perm)⟩
  rw [selectNode, if_neg filled]
  dsimp only
  rw [show (Option.none : Option (Nat × Bool)) = Option.none.map (chosenPair acc _) from rfl, result]
  rfl

theorem selectNode_prefers_unopened :
    ∃ node ∈ unopenedClient.cc.nodes, ∃ next,
      selectNode calmWorld unopenedClient = .ok (some node.id, next) ∧
        Unthrottled 9000000 node := by
  have acons : ∀ node ∈ unopenedClient.cc.nodes, node.acon = none := by decide
  have resolved : Resolved unopenedClient := fun node member c acon =>
    nomatch (acons node member).symm.trans acon
  obtain ⟨selected, next, result, prefers⟩ := selectNode_prefers calmWorld resolved (by decide)
  have alone : ¬∃ node ∈ unopenedClient.cc.nodes, HasConnection unopenedClient node := by
    rintro ⟨node, member, c, _, acon, _⟩
    exact nomatch (acons node member).symm.trans acon
  obtain ⟨node, member, rfl, unthrottled⟩ := prefers.unthrottled alone (by decide)
  exact ⟨node, member, next, result, unthrottled⟩

end Libvalkey
