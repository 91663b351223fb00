import Libvalkey.Cluster.Options
import Libvalkey.Cluster.Topology

/-! # Slot ranges as they are sent

The bounds of a range are integers of 64 bits, of which `parse_cluster_slots` keeps 32 before
it checks them. -/

namespace Libvalkey

open Checked Tiling

variable {Con : Type}

/-- A slot range, with the address of its primary. -/
structure SentRange where
  start : Int
  stop : Int
  addr : Bytes

namespace SentRange

def Covers (range : SentRange) (position : Int) : Prop :=
  range.start ≤ position ∧ position ≤ range.stop

/-- A range in order and within the table. -/
def InTable (range : SentRange) : Prop :=
  0 ≤ range.start ∧ range.start ≤ range.stop ∧ range.stop ≤ 16383

/-- No slot is in both ranges. -/
def DisjointFrom (left right : SentRange) : Prop :=
  ∀ position, left.Covers position → ¬right.Covers position

/-- What is left of a range after the conversions. -/
def narrowed (range : SentRange) : ClusterSlot := ⟨toUint32 range.start, toUint32 range.stop⟩

/-- A range within the table is not changed. -/
theorem InTable.narrowed {range : SentRange} (inTable : range.InTable) :
    range.narrowed.Valid ∧ ∀ position : Nat,
      range.narrowed.Contains position ↔ range.Covers position := by
  obtain ⟨positive, order, bound⟩ := inTable
  unfold ClusterSlot.Valid ClusterSlot.Contains Covers SentRange.narrowed toUint32
    valkeyClusterSlots
  dsimp only
  constructor
  · omega
  · intro position
    omega

end SentRange

/-- The ranges that are left are valid and do not overlap. -/
structure NarrowedFit (ranges : List SentRange) : Prop where
  valid : ∀ range ∈ ranges, range.narrowed.Valid
  apart : ranges.Pairwise fun left right =>
    Apart ClusterSlot.Contains left.narrowed right.narrowed

theorem narrowedFit_of_inTable {ranges : List SentRange} (inTable : ∀ range ∈ ranges, range.InTable)
    (disjoint : ranges.Pairwise SentRange.DisjointFrom) : NarrowedFit ranges where
  valid := fun range member => (inTable range member).narrowed.1
  apart := by
    apply disjoint.imp_of_mem
    intro left right inLeft inRight disjoint position covered
    rw [(inTable left inLeft).narrowed.2] at covered
    rw [(inTable right inRight).narrowed.2]
    exact disjoint position covered

/-! ## The nodes of a reply -/

/-- An entry of at least three elements, with the bounds of a range and with valid nodes. -/
def SendsRange (addReplicas : Bool) (host : Bytes) (range : SentRange) (entry : ReplyTree) : Prop :=
  ∃ first replicas primaryHost port, entry = .aggregate .array
      (.integer range.start :: .integer range.stop :: first :: replicas) ∧
    parseClusterSlotsNodeEntry host first = .ok (primaryHost, port) ∧
    range.addr = addressOf primaryHost port ∧
    (addReplicas = true →
      ∀ replica ∈ replicas, ∃ node, parseClusterSlotsNodeEntry host replica = .ok node)

/-- A reply with an entry for each range. -/
def SendsRanges (addReplicas : Bool) (host : Bytes) (ranges : List SentRange) (reply : ReplyTree) :
    Prop :=
  ∃ entries, entries ≠ [] ∧ reply = .aggregate .array entries ∧
    List.Forall₂ (SendsRange addReplicas host) ranges entries

/-- The nodes that are made of ranges. -/
structure Claimed (ranges : List SentRange) (nodes : List (ValkeyClusterNode Con)) : Prop where
  claims : (addressClaims nodes).Perm (ranges.map fun range => (range.addr, range.narrowed))
  addrs : (nodes.map (·.addr)).Nodup
  primary : ∀ node ∈ nodes, node.role = .primary

section Parsing

variable {addReplicas : Bool} {host : Bytes} {done : List SentRange}
  {nodes : List (ValkeyClusterNode Con)}

theorem Claimed.addSlot (claimed : Claimed done nodes) {range : SentRange}
    (known : range.addr ∈ nodes.map (·.addr)) :
    Claimed (done ++ [range]) (addSlot nodes range.addr range.narrowed) where
  claims := by
    rw [List.map_append]
    exact (addressClaims_addSlot claimed.addrs known range.narrowed).trans
      (claimed.claims.append_right _)
  addrs := by
    rw [map_addSlot (·.addr) fun _ _ => rfl]
    exact claimed.addrs
  primary := by
    intro node member
    obtain ⟨old, inNodes, rfl⟩ := List.mem_map.mp member
    split
    · exact claimed.primary old inNodes
    · exact claimed.primary old inNodes

theorem Claimed.append (claimed : Claimed done nodes) {node : ValkeyClusterNode Con}
    (unknown : node.addr ∉ nodes.map (·.addr)) (primary : node.role = .primary)
    (empty : node.slots = []) : Claimed done (nodes ++ [node]) where
  claims := by
    have nothing : addressClaims [node] = [] := by simp [addressClaims, empty]
    rw [addressClaims_append, nothing, List.append_nil]
    exact claimed.claims
  addrs := by
    rw [List.map_append, List.map_singleton, List.nodup_append]
    refine ⟨claimed.addrs, List.nodup_singleton _, ?_⟩
    rintro addr old other new rfl
    exact unknown (List.mem_singleton.mp new ▸ old)
  primary := by
    intro other member
    rcases List.mem_append.mp member with old | new
    · exact claimed.primary other old
    · rw [List.mem_singleton.mp new]
      exact primary

theorem parseReplicas_valid {entries : List ReplyTree}
    (valid : ∀ entry ∈ entries, ∃ node, parseClusterSlotsNodeEntry host entry = .ok node) :
    ∃ replicas : List (ReplicaNode Con), parseReplicas host entries = .ok replicas := by
  induction entries with
  | nil => exact ⟨[], rfl⟩
  | cons entry rest induction =>
      obtain ⟨node, parsed⟩ := valid entry List.mem_cons_self
      obtain ⟨replicas, parsedRest⟩ :=
        induction fun other member => valid other (List.mem_cons_of_mem _ member)
      rw [parseReplicas, parsed, bind_ok, parsedRest]
      exact ⟨_, rfl⟩

/-- Only the range that is left decides whether an entry is accepted. -/
theorem parseSlotsEntry_sends (base : Nat) (claimed : Claimed done nodes) {range : SentRange}
    {entry : ReplyTree} (sends : SendsRange addReplicas host range entry) :
    Ensures (parseSlotsEntry addReplicas host base nodes entry) (fun _ => ¬range.narrowed.Valid)
      fun next => range.narrowed.Valid ∧ Claimed (done ++ [range]) next := by
  obtain ⟨first, replicas, primaryHost, port, rfl, primary, addr, replicasValid⟩ := sends
  have three : ¬(ReplyTree.integer range.start :: .integer range.stop :: first ::
      replicas).length < 3 := by
    simp
  rw [parseSlotsEntry, if_neg three, parseSlotRange]
  by_cases valid : range.narrowed.Valid
  · have inRange : ¬(toUint32 range.start > toUint32 range.stop ∨
        toUint32 range.stop ≥ valkeyClusterSlots) := by
      rw [not_or, Nat.not_lt, Nat.not_le]
      exact valid
    rw [if_neg inRange, bind_ok, List.getD_cons_succ, List.getD_cons_succ, List.getD_cons_zero,
      primary, bind_ok]
    dsimp only
    rw [← addr]
    cases found : findByAddr nodes range.addr with
    | some other =>
        have known : range.addr ∈ nodes.map (·.addr) := by
          by_contra unknown
          cases (findByAddr_eq_none.mpr unknown).symm.trans found
        exact ⟨valid, claimed.addSlot known⟩
    | none =>
        have unknown := findByAddr_eq_none.mp found
        obtain ⟨parsed, replicasParsed⟩ : ∃ parsed : List (ReplicaNode Con),
            entryReplicas addReplicas host
            (.integer range.start :: .integer range.stop :: first :: replicas) = .ok parsed := by
          cases addReplicas with
          | false => exact ⟨[], rfl⟩
          | true => exact parseReplicas_valid (replicasValid rfl)
        rw [replicasParsed]
        refine ⟨valid, ?_⟩
        let created : ValkeyClusterNode Con :=
          { node_get_with_slots (base + nodes.length) primaryHost port with replicas := parsed }
        have fresh : created.addr ∉ nodes.map (·.addr) := by
          rw [show created.addr = range.addr from addr.symm]
          exact unknown
        have added : Claimed done (nodes ++ [created]) := claimed.append fresh rfl rfl
        refine added.addSlot ?_
        rw [List.map_append, addr]
        exact List.mem_append_right _ (List.mem_singleton_self _)
  · have outside : toUint32 range.start > toUint32 range.stop ∨
        toUint32 range.stop ≥ valkeyClusterSlots := by
      by_contra inRange
      rw [not_or, Nat.not_lt, Nat.not_le] at inRange
      exact valid inRange
    rw [if_pos outside]
    exact valid

theorem parseSlotsEntries_sends (base : Nat) (claimed : Claimed done nodes)
    {ranges : List SentRange} {entries : List ReplyTree}
    (sends : List.Forall₂ (SendsRange addReplicas host) ranges entries) :
    Ensures (parseSlotsEntries addReplicas host base nodes entries)
      (fun _ => ¬∀ range ∈ ranges, range.narrowed.Valid)
      fun next => Claimed (done ++ ranges) next := by
  induction sends generalizing done nodes with
  | nil => exact (List.append_nil done).symm ▸ claimed
  | @cons range entry ranges entries first _ induction =>
      rw [parseSlotsEntries, List.append_cons]
      apply ((parseSlotsEntry_sends base claimed first).allow ?_).bind
      · intro next both
        apply (induction both.2).allow
        exact fun _ invalid all => invalid fun other member =>
          all other (List.mem_cons_of_mem _ member)
      · exact fun _ invalid all => invalid (all range List.mem_cons_self)

theorem parse_cluster_slots_sends (base : Nat) {ranges : List SentRange} {reply : ReplyTree}
    (sends : SendsRanges addReplicas host ranges reply) :
    Ensures (α := List (ValkeyClusterNode Con)) (parse_cluster_slots addReplicas host base reply)
      (fun _ => ¬∀ range ∈ ranges, range.narrowed.Valid) fun nodes => Claimed ranges nodes := by
  obtain ⟨entries, some, rfl, sends⟩ := sends
  have start : Claimed [] ([] : List (ValkeyClusterNode Con)) :=
    ⟨.refl _, List.nodup_nil, fun _ member => nomatch member⟩
  cases entries with
  | nil => exact absurd rfl some
  | cons entry rest => exact parseSlotsEntries_sends base start sends

end Parsing

/-! ## The update -/

/-- What `clusterUpdateRouteHandleReply` does with a reply to `CLUSTER SLOTS`. -/
def handleSlotsReply (order : IterationOrder) (cc : ValkeyClusterContext) (host : Bytes)
    (reply : ReplyTree) : Status × ValkeyClusterContext :=
  match parse_cluster_slots cc.addReplicas host cc.nextNode reply with
  | .error message => (.err, cc.setError .other (ascii message))
  | .ok nodes => updateNodesAndSlotmap order true cc nodes

/-- The table gives every slot of a range to the node of its address, and no other slot. -/
def AssignedAsSent (ranges : List SentRange) (cc : ValkeyClusterContext) : Prop :=
  ∃ table, cc.table = some table ∧ table.length = valkeyClusterSlots ∧
    ∀ position : Nat, position < valkeyClusterSlots →
      (∀ range ∈ ranges, range.Covers position →
        ∃ node ∈ cc.nodes, node.addr = range.addr ∧ table[position]? = some (some node.id)) ∧
      ((∀ range ∈ ranges, ¬range.Covers position) → table[position]? = some none)

/-- A map is installed exactly if all ranges are within the table, and then as it was sent. -/
structure RangesDecide (order : IterationOrder) (cc : ValkeyClusterContext) (host : Bytes)
    (reply : ReplyTree) (ranges : List SentRange) : Prop where
  installs : (handleSlotsReply order cc host reply).1 = .ok ↔ ∀ range ∈ ranges, range.InTable
  assigned : (handleSlotsReply order cc host reply).1 = .ok →
    AssignedAsSent ranges (handleSlotsReply order cc host reply).2 ∧
      (handleSlotsReply order cc host reply).2.routeVersion = cc.routeVersion + 1
  unchanged : (handleSlotsReply order cc host reply).1 = .err →
    OnlyError cc (handleSlotsReply order cc host reply).2

section Update

variable {ranges : List SentRange} {order : IterationOrder} {cc : ValkeyClusterContext}
  {host : Bytes} {reply : ReplyTree}

theorem slots_of_claims (nodes : List (ValkeyClusterNode Con)) :
    (slotClaims nodes).map Prod.snd = (addressClaims nodes).map Prod.snd := by
  simp [slotClaims, addressClaims, ValkeyClusterNode.claims, List.map_flatMap, Function.comp_def]

/-- A table can be made of the nodes if the ranges that are left fit. -/
theorem Claimed.installable_iff {nodes : List (ValkeyClusterNode Con)}
    (claimed : Claimed ranges nodes) : Installable nodes ↔ NarrowedFit ranges := by
  have perm : ((slotClaims nodes).map Prod.snd).Perm (ranges.map SentRange.narrowed) := by
    rw [slots_of_claims]
    simpa [Function.comp_def] using claimed.claims.map Prod.snd
  have apart : (slotClaims nodes).Pairwise (Apart SlotClaim.Covers) ↔
      ranges.Pairwise fun left right =>
        Apart ClusterSlot.Contains left.narrowed right.narrowed := by
    have slots := @apart_perm _ ClusterSlot.Contains _ _ perm
    rwa [List.pairwise_map, List.pairwise_map] at slots
  have valid : (∀ claim ∈ slotClaims nodes, claim.2.Valid) ↔
      ∀ range ∈ ranges, range.narrowed.Valid := by
    have slots : (∀ slot ∈ (slotClaims nodes).map Prod.snd, slot.Valid) ↔
        ∀ slot ∈ ranges.map SentRange.narrowed, slot.Valid := by
      simp only [perm.mem_iff]
    simpa only [List.forall_mem_map] using slots
  constructor
  · intro installable
    exact ⟨valid.mp installable.fits.valid, apart.mp installable.fits.apart⟩
  · intro fit
    exact ⟨claimed.primary, valid.mpr fit.valid, apart.mpr fit.apart⟩

/-- An update with nodes that are installed, or one that changes nothing but the error. -/
theorem handleSlotsReply_cases (order : IterationOrder)
    (sends : SendsRanges cc.addReplicas host ranges reply) :
    (NarrowedFit ranges ∧ ∃ nodes table, Claimed ranges nodes ∧ NewNodes cc.nextNode nodes ∧
        TableOf (slotClaims nodes) table ∧
        handleSlotsReply order cc host reply = (.ok, cc.replaceNodes table nodes)) ∨
      (¬NarrowedFit ranges ∧ (handleSlotsReply order cc host reply).1 = .err ∧
        OnlyError cc (handleSlotsReply order cc host reply).2) := by
  have claimed := @parse_cluster_slots_sends ValkeyContext _ _ cc.nextNode _ _ sends
  have new := @parses_cluster_slots ValkeyContext cc.nextNode cc.addReplicas host reply
  unfold handleSlotsReply
  cases parsed : (parse_cluster_slots cc.addReplicas host cc.nextNode reply :
      Except String (List (ValkeyClusterNode ValkeyContext))) with
  | error message =>
      rw [parsed] at claimed
      exact .inr ⟨fun fit => claimed fit.valid, rfl, _, _, rfl⟩
  | ok nodes =>
      rw [parsed] at claimed new
      have made := ensures_createTable order nodes
      dsimp only
      unfold updateNodesAndSlotmap
      rw [if_neg (by simp)]
      cases result : createTable order nodes with
      | error message =>
          rw [result] at made
          exact .inr ⟨fun fit => made (claimed.installable_iff.mpr fit), rfl, _, _, rfl⟩
      | ok table =>
          rw [result] at made
          exact .inl ⟨claimed.installable_iff.mp made.1, nodes, table, claimed, new, made.2, rfl⟩

/-- Ranges within the table are assigned as they were sent. -/
theorem assignedAsSent {nodes : List (ValkeyClusterNode ValkeyContext)} {table : List (Option Nat)}
    (inTable : ∀ range ∈ ranges, range.InTable) (claimed : Claimed ranges nodes)
    (new : NewNodes cc.nextNode nodes) (made : TableOf (slotClaims nodes) table) :
    AssignedAsSent ranges (cc.replaceNodes table nodes) := by
  have names : (nodes.map (·.id)).Nodup := by
    rw [new.names]
    exact List.nodup_range'
  have owns {node : ValkeyClusterNode ValkeyContext} {slot : ClusterSlot} (member : node ∈ nodes)
      (owned : slot ∈ node.slots) : ∃ range ∈ ranges, range.addr = node.addr ∧
        range.narrowed = slot := by
    have claim : (node.addr, slot) ∈ addressClaims nodes :=
      List.mem_flatMap.mpr ⟨node, member, List.mem_map_of_mem owned⟩
    obtain ⟨range, inRanges, same⟩ := List.mem_map.mp (claimed.claims.mem_iff.mp claim)
    exact ⟨range, inRanges, (Prod.mk.inj same).1, (Prod.mk.inj same).2⟩
  refine ⟨table, rfl, made.length, ?_⟩
  intro position inside
  obtain ⟨taken, free⟩ := made.entries names inside
  constructor
  · intro range member covered
    have claim : (range.addr, range.narrowed) ∈ addressClaims nodes :=
      claimed.claims.mem_iff.mpr (List.mem_map_of_mem member)
    obtain ⟨node, inNodes, inClaims⟩ := List.mem_flatMap.mp claim
    obtain ⟨slot, inSlots, same⟩ := List.mem_map.mp inClaims
    obtain ⟨addr, rfl⟩ := Prod.mk.inj same
    have owned : node.Owns position :=
      ⟨_, inSlots, ((inTable range member).narrowed.2 position).mpr covered⟩
    refine ⟨_, List.mem_map_of_mem inNodes, ?_, ?_⟩
    · split
      · exact addr
      · exact addr
    · rw [(taken node inNodes).mpr owned]
      split <;> rfl
  · intro uncovered
    rw [free]
    rintro node member ⟨slot, inSlots, contains⟩
    obtain ⟨range, inRanges, _, rfl⟩ := owns member inSlots
    exact uncovered range inRanges (((inTable range inRanges).narrowed.2 position).mp contains)

/-- The reply is handled so where it is the one that arrives. -/
theorem clusterUpdateRouteHandleReply_slots (network : Nat → Outcome) {c : Nat}
    {con next : ValkeyContext} {entries : List ReplyTree} {answer : Answer}
    (found : cc.context c = .ok con)
    (arrives : valkeyGetReply (network cc.outcomes) con = (some answer, next))
    (sent : answer.reply = .aggregate .array entries) (slots : cc.useClusterNodes = false) :
    clusterUpdateRouteHandleReply network order cc c =
      .ok (handleSlotsReply order (cc.exchange con next .route (some answer)) next.host
        (.aggregate .array entries)) := by
  have keeps : (cc.exchange con next .route (some answer)).useClusterNodes = false := slots
  unfold clusterUpdateRouteHandleReply handleSlotsReply
  rw [found, bind_ok, arrives]
  dsimp only
  rw [sent]
  dsimp only
  rw [parseRouteReply, keeps, if_neg Bool.false_ne_true]
  cases parse_cluster_slots (cc.exchange con next .route (some answer)).addReplicas next.host
    (cc.exchange con next .route (some answer)).nextNode (.aggregate .array entries) with
  | error message => rfl
  | ok parsed => rfl

/-- The update is decided as the ranges were sent, unless one of them is not within the table
and what is left of all of them fits. -/
theorem slot_ranges_decide_iff (order : IterationOrder)
    (sends : SendsRanges cc.addReplicas host ranges reply)
    (disjoint : ranges.Pairwise SentRange.DisjointFrom) :
    RangesDecide order cc host reply ranges ↔
      (∀ range ∈ ranges, range.InTable) ∨ ¬NarrowedFit ranges := by
  rcases handleSlotsReply_cases order sends with ⟨fit, nodes, table, claimed, new, made, result⟩ |
    ⟨unfit, failed, unchanged⟩
  · constructor
    · intro decide
      exact .inl (decide.installs.mp (congrArg Prod.fst result))
    · intro either
      have inTable := either.resolve_right (not_not.mpr fit)
      refine ⟨?_, ?_, ?_⟩
      · rw [result]
        exact iff_of_true rfl inTable
      · intro _
        rw [result]
        exact ⟨assignedAsSent inTable claimed new made, rfl⟩
      · intro err
        rw [result] at err
        cases err
  · refine ⟨fun _ => .inr unfit, fun _ => ⟨?_, ?_, fun _ => unchanged⟩⟩
    · rw [failed]
      refine ⟨fun ok => (nomatch ok), fun inTable => ?_⟩
      exact absurd (narrowedFit_of_inTable inTable disjoint) unfit
    · intro ok
      exact nomatch failed.symm.trans ok

/-- A reply with one range of one node. -/
def oneRange (start stop : Int) : ReplyTree :=
  .aggregate .array [.aggregate .array
    [.integer start, .integer stop, .aggregate .array [.string (ascii "h"), .integer 7000]]]

theorem sendsRanges_oneRange (start stop : Int) :
    SendsRanges false [] [⟨start, stop, ascii "h:7000"⟩] (oneRange start stop) := by
  have sends : SendsRange false [] ⟨start, stop, ascii "h:7000"⟩ (.aggregate .array
      [.integer start, .integer stop, .aggregate .array [.string (ascii "h"), .integer 7000]]) :=
    ⟨_, [], ascii "h", 7000, rfl, rfl, rfl, fun impossible => nomatch impossible⟩
  exact ⟨_, List.cons_ne_nil _ _, rfl, .cons sends .nil⟩

theorem slot_ranges_decide_one :
    RangesDecide inOrder emptyContext [] (oneRange 0 5) [⟨0, 5, ascii "h:7000"⟩] := by
  apply (slot_ranges_decide_iff inOrder (sendsRanges_oneRange 0 5)
    (List.pairwise_singleton _ _)).mpr
  refine .inl fun range member => ?_
  obtain rfl := List.mem_singleton.mp member
  exact ⟨by decide, by decide, by decide⟩

/-- The range from `2 ^ 32` to `2 ^ 32 + 5` is taken for the range from 0 to 5. -/
theorem wide_range_installed :
    SendsRanges false [] [⟨4294967296, 4294967301, ascii "h:7000"⟩]
      (oneRange 4294967296 4294967301) ∧
      ¬RangesDecide inOrder emptyContext [] (oneRange 4294967296 4294967301)
        [⟨4294967296, 4294967301, ascii "h:7000"⟩] := by
  have sends := sendsRanges_oneRange 4294967296 4294967301
  refine ⟨sends, fun decides => ?_⟩
  have fit : NarrowedFit [⟨4294967296, 4294967301, ascii "h:7000"⟩] := by
    refine ⟨fun range member => ?_, List.pairwise_singleton _ _⟩
    obtain rfl := List.mem_singleton.mp member
    exact ⟨by decide, by decide⟩
  rcases @handleSlotsReply_cases _ emptyContext _ _ inOrder sends with
    ⟨_, _, _, _, _, _, result⟩ | ⟨unfit, _, _⟩
  · have inTable := decides.installs.mp (congrArg Prod.fst result) _ (List.mem_singleton_self _)
    exact absurd inTable.2.2 (by decide)
  · exact unfit fit

end Update

end Libvalkey
