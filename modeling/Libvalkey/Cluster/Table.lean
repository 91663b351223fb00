import Libvalkey.Cluster.NoDangling
import Libvalkey.Foundation.Tiling

/-! # The table of slots

The nodes claim ranges of slots. The table that is made of them gives every slot
to the node that claims it, and is made only if the claims are valid and do not
overlap. -/

namespace Libvalkey

open Checked Tiling

namespace ClusterSlot

/-- The slots of a range. -/
def Contains (slot : ClusterSlot) (position : Nat) : Prop :=
  slot.start ≤ position ∧ position ≤ slot.stop

/-- A range in order and within the table. -/
def Valid (slot : ClusterSlot) : Prop := slot.start ≤ slot.stop ∧ slot.stop < valkeyClusterSlots

end ClusterSlot

/-- A range with the node that claims it. -/
abbrev SlotClaim := Nat × ClusterSlot

/-- The slots that a claim covers. -/
def SlotClaim.Covers (claim : SlotClaim) (position : Nat) : Prop := claim.2.Contains position

def tableMap (table : List (Option Nat)) (position : Nat) : Option Nat := table.getD position none

/-- The claims are valid and do not overlap. -/
structure Fits (claims : List SlotClaim) : Prop where
  valid : ∀ claim ∈ claims, claim.2.Valid
  apart : claims.Pairwise (Apart SlotClaim.Covers)

/-- A table of the right size that represents the claims. -/
structure TableOf (claims : List SlotClaim) (table : List (Option Nat)) : Prop where
  length : table.length = valkeyClusterSlots
  represents : Represents Prod.fst SlotClaim.Covers claims (tableMap table)

variable {Con : Type}

/-- The claims of a node. -/
def ValkeyClusterNode.claims (node : ValkeyClusterNode Con) : List SlotClaim :=
  node.slots.map fun slot => (node.id, slot)

/-- The claims of all nodes. -/
def slotClaims (nodes : List (ValkeyClusterNode Con)) : List SlotClaim := nodes.flatMap (·.claims)

theorem Fits.left {claims more : List SlotClaim} (fits : Fits (claims ++ more)) : Fits claims :=
  ⟨fun claim member => fits.valid claim (List.mem_append_left _ member),
    (List.pairwise_append.mp fits.apart).1⟩

theorem Fits.perm {claims more : List SlotClaim} (fits : Fits claims) (perm : claims.Perm more) :
    Fits more :=
  ⟨fun claim member => fits.valid claim (perm.mem_iff.mpr member), (apart_perm perm).mp fits.apart⟩

section Fill

variable (id : Nat) {table : List (Option Nat)} {done : List SlotClaim}

theorem tableMap_set (slot : Nat) (value : Option Nat) (inside : slot < table.length)
    (position : Nat) :
    tableMap (table.set slot value) position =
      if position = slot then value else tableMap table position := by
  unfold tableMap
  rw [List.getD_eq_getElem?_getD, List.getElem?_set]
  split
  · rename_i same
    subst same
    rw [if_pos rfl, Option.getD_some]
  · rename_i different
    rw [if_neg (fun same => different same.symm), List.getD_eq_getElem?_getD]

/-- A run of slots is filled if all of them are free. -/
theorem ensures_fillRange (slot count : Nat) (inside : slot + count ≤ table.length) :
    Ensures (fillRange id table slot count)
      (fun _ => ∃ position, slot ≤ position ∧ position < slot + count ∧
        tableMap table position ≠ none)
      fun next => next.length = table.length ∧
        (∀ position, slot ≤ position → position < slot + count → tableMap table position = none ∧
          tableMap next position = some id) ∧
        ∀ position, ¬(slot ≤ position ∧ position < slot + count) →
          tableMap next position = tableMap table position := by
  induction count generalizing table slot with
  | zero => exact ⟨rfl, fun _ low high => absurd (Nat.lt_of_le_of_lt low high) (Nat.lt_irrefl _),
      fun _ _ => rfl⟩
  | succ count induction =>
      have first : slot < table.length := by omega
      rw [fillRange]
      split
      · rename_i taken
        exact ⟨slot, Nat.le_refl _, by omega, Option.isSome_iff_ne_none.mp taken⟩
      · rename_i free
        have free : tableMap table slot = none := by simpa [tableMap] using free
        have changed := tableMap_set slot (some id) first
        have rest := @induction (table.set slot (some id)) (slot + 1)
          (by rw [List.length_set]; omega)
        refine (rest.allow ?_).mono fun next filled => ?_
        · rintro _ ⟨position, low, high, taken⟩
          rw [changed, if_neg (by omega)] at taken
          exact ⟨position, by omega, by omega, taken⟩
        obtain ⟨length, within, beyond⟩ := filled
        refine ⟨?_, ?_, ?_⟩
        · rw [length, List.length_set]
        · intro position low high
          by_cases same : position = slot
          · subst same
            rw [beyond position (by omega), changed, if_pos rfl]
            exact ⟨free, rfl⟩
          · obtain ⟨none, filled⟩ := within position (by omega) (by omega)
            rw [changed, if_neg same] at none
            exact ⟨none, filled⟩
        · intro position out
          rw [beyond position (by omega), changed, if_neg (by omega)]

/-- The loop over the ranges of a node. -/
theorem ensures_fillSlots (slots : List ClusterSlot) (fits : Fits done)
    (made : TableOf done table) :
    Ensures (fillSlots id table slots)
      (fun _ => ¬Fits (done ++ slots.map fun slot => (id, slot)))
      fun next => Fits (done ++ slots.map fun slot => (id, slot)) ∧
        TableOf (done ++ slots.map fun slot => (id, slot)) next := by
  induction slots generalizing table done with
  | nil =>
      rw [List.map_nil, List.append_nil]
      exact ⟨fits, made⟩
  | cons slot rest induction =>
      rw [List.map_cons, List.append_cons, fillSlots]
      split
      · rename_i invalid
        intro whole
        have valid := whole.left.valid (id, slot) (List.mem_append_right _ List.mem_cons_self)
        obtain ⟨order, bound⟩ := valid
        dsimp only at order bound
        omega
      rename_i valid
      rw [not_or, Nat.not_lt, Nat.not_le] at valid
      have range : slot.start + (slot.stop + 1 - slot.start) = slot.stop + 1 := by omega
      have filled := ensures_fillRange id slot.start (slot.stop + 1 - slot.start)
        (by rw [range, made.length]; exact valid.2)
      rw [range] at filled
      refine (filled.allow fun _ => ?_).bind fun next after => ?_
      · rintro ⟨position, low, high, taken⟩ whole
        refine taken ((made.represents.free position).mpr fun claim member covered => ?_)
        have apart := (pairwise_concat.mp whole.left.apart).2 claim member
        exact apart position covered ⟨low, Nat.lt_succ_iff.mp high⟩
      · obtain ⟨length, within, beyond⟩ := after
        have apart : ∀ other ∈ done, Apart SlotClaim.Covers other (id, slot) := by
          intro other member position covered inside
          have free := (within position inside.1 (Nat.lt_succ_of_le inside.2)).1
          exact (made.represents.free position).mp free other member covered
        refine induction ⟨fun claim member => ?_, pairwise_concat.mpr ⟨fits.apart, apart⟩⟩
          ⟨length.trans made.length, made.represents.add apart ?_ ?_⟩
        · rcases List.mem_append.mp member with old | last
          · exact fits.valid claim old
          · exact List.mem_singleton.mp last ▸ valid
        · exact fun position inside => (within position inside.1 (Nat.lt_succ_of_le inside.2)).2
        · exact fun position outside => beyond position fun inside =>
            outside ⟨inside.1, Nat.lt_succ_iff.mp inside.2⟩

/-- The loop over the nodes. -/
theorem ensures_fillNodes (nodes : List (ValkeyClusterNode Con)) (fits : Fits done)
    (made : TableOf done table) :
    Ensures (fillNodes table nodes)
      (fun _ => ¬((∀ node ∈ nodes, node.role = .primary) ∧ Fits (done ++ slotClaims nodes)))
      fun next => (∀ node ∈ nodes, node.role = .primary) ∧ Fits (done ++ slotClaims nodes) ∧
        TableOf (done ++ slotClaims nodes) next := by
  induction nodes generalizing table done with
  | nil =>
      rw [slotClaims, List.flatMap_nil, List.append_nil]
      exact ⟨fun _ member => absurd member List.not_mem_nil, fits, made⟩
  | cons node rest induction =>
      rw [fillNodes]
      have claims : done ++ slotClaims (node :: rest) =
          done ++ node.claims ++ slotClaims rest := by
        rw [slotClaims, List.flatMap_cons, ← List.append_assoc, slotClaims]
      rw [claims]
      split
      · rename_i other
        exact fun whole => other (whole.1 node List.mem_cons_self)
      rename_i primary
      have slots := ensures_fillSlots node.id node.slots fits made
      refine (slots.allow fun _ unfit whole => unfit whole.2.left).bind
        fun next after => ?_
      obtain ⟨nodeFits, nodeMade⟩ := after
      refine ((induction nodeFits nodeMade).allow ?_).mono ?_
      · rintro _ unfit ⟨primaries, fits⟩
        exact unfit ⟨fun other member => primaries other (List.mem_cons_of_mem _ member), fits⟩
      · rintro last ⟨primaries, fits, made⟩
        refine ⟨fun other member => ?_, fits, made⟩
        rcases List.mem_cons.mp member with rfl | inRest
        · exact not_not.mp primary
        · exact primaries other inRest

end Fill

/-- Nodes that a table can be made of. -/
structure Installable (nodes : List (ValkeyClusterNode Con)) : Prop where
  primary : ∀ node ∈ nodes, node.role = .primary
  fits : Fits (slotClaims nodes)

theorem tableOf_empty : TableOf [] (List.replicate valkeyClusterSlots none) := by
  refine ⟨List.length_replicate, ?_⟩
  have none : tableMap (List.replicate valkeyClusterSlots none) = fun _ => none := by
    funext position
    rw [tableMap, List.getD_eq_getElem?_getD, List.getElem?_replicate]
    split <;> rfl
  rw [none]
  exact represents_nil

/-- The table is made exactly of the nodes that it can be made of. -/
theorem ensures_createTable (order : IterationOrder) (nodes : List (ValkeyClusterNode Con)) :
    Ensures (createTable order nodes) (fun _ => ¬Installable nodes)
      fun table => Installable nodes ∧ TableOf (slotClaims nodes) table := by
  have perm := order.perm nodes
  have claims : (slotClaims (order.order nodes)).Perm (slotClaims nodes) := perm.flatMap_right _
  have nothing : Fits [] := ⟨fun _ member => absurd member List.not_mem_nil, .nil⟩
  have filled := ensures_fillNodes (order.order nodes) nothing tableOf_empty
  refine (filled.allow fun _ unfit installable => unfit ⟨?_, ?_⟩).mono
    fun table ⟨primaries, fits, made⟩ => ⟨⟨?_, fits.perm claims⟩, made.length,
      made.represents.perm claims⟩
  · exact fun node member => installable.primary node (perm.mem_iff.mp member)
  · exact installable.fits.perm claims.symm
  · exact fun node member => primaries node (perm.mem_iff.mpr member)

/-! ## Replacing the nodes -/

/-- The node claims a slot. -/
def ValkeyClusterNode.Owns (node : ValkeyClusterNode Con) (position : Nat) : Prop :=
  ∃ slot ∈ node.slots, slot.Contains position

theorem mem_slotClaims {nodes : List (ValkeyClusterNode Con)} {claim : SlotClaim} :
    claim ∈ slotClaims nodes ↔ ∃ node ∈ nodes, node.id = claim.1 ∧ claim.2 ∈ node.slots := by
  obtain ⟨id, slot⟩ := claim
  constructor
  · intro member
    obtain ⟨node, inNodes, inClaims⟩ := List.mem_flatMap.mp member
    obtain ⟨own, inSlots, equal⟩ := List.mem_map.mp inClaims
    obtain ⟨rfl, rfl⟩ := Prod.mk.inj equal
    exact ⟨node, inNodes, rfl, inSlots⟩
  · rintro ⟨node, inNodes, rfl, inSlots⟩
    exact List.mem_flatMap.mpr ⟨node, inNodes, List.mem_map_of_mem inSlots⟩

/-- The table gives every slot to the node that claims it. -/
theorem TableOf.entries {nodes : List (ValkeyClusterNode Con)} {table : List (Option Nat)}
    (made : TableOf (slotClaims nodes) table) (names : (nodes.map (·.id)).Nodup)
    {position : Nat} (inside : position < valkeyClusterSlots) :
    (∀ node ∈ nodes, table[position]? = some (some node.id) ↔ node.Owns position) ∧
      (table[position]? = some none ↔ ∀ node ∈ nodes, ¬node.Owns position) := by
  have entry : table[position]? = some (tableMap table position) := by
    rw [tableMap, List.getD_eq_getElem?_getD, List.getElem?_eq_getElem (made.length ▸ inside)]
    rfl
  rw [entry]
  constructor
  · intro node member
    rw [Option.some.injEq, made.represents position node.id]
    constructor
    · rintro ⟨claim, inClaims, same, covered⟩
      obtain ⟨other, inNodes, name, inSlots⟩ := mem_slotClaims.mp inClaims
      obtain rfl := List.inj_on_of_nodup_map names inNodes member (name.trans same)
      exact ⟨claim.2, inSlots, covered⟩
    · rintro ⟨slot, inSlots, covered⟩
      exact ⟨(node.id, slot), mem_slotClaims.mpr ⟨node, member, rfl, inSlots⟩, rfl, covered⟩
  · rw [Option.some.injEq, made.represents.free position]
    constructor
    · rintro uncovered node member ⟨slot, inSlots, covered⟩
      exact uncovered (node.id, slot) (mem_slotClaims.mpr ⟨node, member, rfl, inSlots⟩) covered
    · intro unowned claim inClaims covered
      obtain ⟨node, inNodes, _, inSlots⟩ := mem_slotClaims.mp inClaims
      exact unowned node inNodes ⟨claim.2, inSlots, covered⟩

/-- The nodes have taken the place of the nodes of a client. -/
structure Installed (cc : ValkeyClusterContext) (nodes : List (ValkeyClusterNode ValkeyContext))
    (next : ValkeyClusterContext) : Prop where
  table : ∃ table, next.table = some table ∧ table.length = valkeyClusterSlots ∧
    ∀ position < valkeyClusterSlots,
      (∀ node ∈ nodes, table[position]? = some (some node.id) ↔ node.Owns position) ∧
        (table[position]? = some none ↔ ∀ node ∈ nodes, ¬node.Owns position)
  nodes : next.nodes.map (fun node => { node with con := none, acon := none }) =
    nodes.map fun node => { node with con := none, acon := none }
  contexts : ∀ old ∈ cc.nodes, ∀ new ∈ next.nodes, new.addr = old.addr →
    (∀ con, old.con = some con → new.con = some con) ∧
      ∀ acon, old.acon = some acon → new.acon = some acon
  routeVersion : next.routeVersion = cc.routeVersion + 1
  needUpdateRoute : next.needUpdateRoute = false

/-- Nothing but the error of a client has changed. -/
def OnlyError (cc next : ValkeyClusterContext) : Prop :=
  ∃ err errstr, next = { cc with err := err, errstr := errstr }

theorem findByAddr_of_mem {nodes : List (ValkeyClusterNode Con)}
    (addrs : (nodes.map (·.addr)).Nodup) {node : ValkeyClusterNode Con} (member : node ∈ nodes) :
    findByAddr nodes node.addr = some node := by
  cases found : findByAddr nodes node.addr with
  | none => simpa using List.find?_eq_none.mp found node member
  | some other =>
      have same : other.addr = node.addr := by simpa using List.find?_some found
      exact congrArg some
        (List.inj_on_of_nodup_map addrs (List.mem_of_find?_eq_some found) member same)

theorem installed_replaceNodes {cc : ValkeyClusterContext} (addrs : cc.addrs.Nodup)
    {nodes : List (ValkeyClusterNode ValkeyContext)} (names : (nodes.map (·.id)).Nodup)
    {table : List (Option Nat)} (made : TableOf (slotClaims nodes) table) :
    Installed cc nodes (cc.replaceNodes table nodes) where
  table := ⟨table, rfl, made.length, fun _ inside => made.entries names inside⟩
  nodes := by
    rw [ValkeyClusterContext.replaceNodes, cluster_nodes_swap_ctx, List.map_map]
    refine List.map_congr_left fun node _ => ?_
    dsimp only [Function.comp]
    split <;> rfl
  contexts := by
    intro old member new newMember same
    obtain ⟨node, _, rfl⟩ := List.mem_map.mp newMember
    have addr : node.addr = old.addr := by
      split at same <;> exact same
    have found : findByAddr cc.nodes node.addr = some old :=
      addr ▸ findByAddr_of_mem addrs member
    rw [found]
    constructor
    · intro con held
      simp [held]
    · intro acon held
      simp [held]
  routeVersion := rfl
  needUpdateRoute := rfl

/-- The nodes are replaced exactly if there is memory for the table and the ranges of
the nodes are valid and do not overlap. Otherwise nothing but the error changes. -/
theorem updateNodesAndSlotmap_exact (order : IterationOrder) (allocated : Bool)
    {cc : ValkeyClusterContext} (addrs : cc.addrs.Nodup)
    {nodes : List (ValkeyClusterNode ValkeyContext)} (names : (nodes.map (·.id)).Nodup) :
    ((updateNodesAndSlotmap order allocated cc nodes).1 = .ok ↔
        allocated ∧ Installable nodes) ∧
      ((updateNodesAndSlotmap order allocated cc nodes).1 = .ok →
        Installed cc nodes (updateNodesAndSlotmap order allocated cc nodes).2) ∧
      ((updateNodesAndSlotmap order allocated cc nodes).1 = .err →
        OnlyError cc (updateNodesAndSlotmap order allocated cc nodes).2) := by
  have made := ensures_createTable order nodes
  unfold updateNodesAndSlotmap
  cases allocated with
  | false => exact ⟨⟨fun ok => (nomatch ok), fun both => (nomatch both.1)⟩, fun ok => (nomatch ok),
      fun _ => ⟨_, _, rfl⟩⟩
  | true =>
      cases result : createTable order nodes with
      | error message =>
          rw [result] at made
          exact ⟨⟨fun ok => (nomatch ok), fun both => absurd both.2 made⟩, fun ok => (nomatch ok),
            fun _ => ⟨_, _, rfl⟩⟩
      | ok table =>
          rw [result] at made
          exact ⟨⟨fun _ => ⟨rfl, made.1⟩, fun _ => rfl⟩,
            fun _ => installed_replaceNodes addrs names made.2, fun err => nomatch err⟩

/-- A node that serves one slot. -/
def slotNode (id : Nat) (host : Bytes) (port slot : Nat) : ValkeyClusterNode ValkeyContext :=
  { exampleNode id host port with slots := [⟨slot, slot⟩] }

/-- The nodes of a new slot map. -/
def newNodes : List (ValkeyClusterNode ValkeyContext) :=
  [slotNode 2 (ascii "b") 2 0, slotNode 3 (ascii "c") 3 7]

theorem updateNodesAndSlotmap_exact_two :
    Installed twoNodes newNodes (updateNodesAndSlotmap inOrder true twoNodes newNodes).2 := by
  have exactly := updateNodesAndSlotmap_exact inOrder true
    (by decide : twoNodes.addrs.Nodup) (by decide : (newNodes.map (·.id)).Nodup)
  have claims : slotClaims newNodes = [(2, ⟨0, 0⟩), (3, ⟨7, 7⟩)] := rfl
  refine exactly.2.1 (exactly.1.mpr ⟨rfl, by decide, ?_, ?_⟩)
  · rw [claims]
    intro claim member
    rcases List.mem_pair.mp member with rfl | rfl <;> exact ⟨by decide, by decide⟩
  · rw [claims]
    refine List.pairwise_pair.mpr fun position first second => ?_
    exact absurd (Nat.le_trans second.1 first.2) (by decide)

end Libvalkey
