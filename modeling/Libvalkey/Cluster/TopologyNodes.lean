import Libvalkey.Cluster.Topology

/-! # The lines of a topology

What a server answers to `CLUSTER NODES`, and what `parse_cluster_nodes` makes of it. -/

namespace Libvalkey

open Checked

variable {Con : Type}

/-- What a line is about. -/
inductive NodesItem
  | primary (node : TopologyNode)
  | replica (primary : TopologyNode) (node : TopologyReplica)
  deriving DecidableEq

namespace NodesItem

def primary? : NodesItem → Option TopologyNode
  | .primary node => some node
  | .replica _ _ => none

def replica? : NodesItem → Option (TopologyNode × TopologyReplica)
  | .primary _ => none
  | .replica owner node => some (owner, node)

end NodesItem

/-- All nodes of a cluster. -/
def Topology.items (topology : Topology) : List NodesItem :=
  topology.flatMap fun node => .primary node :: node.replicas.map (.replica node)

/-- A flag that says nothing about the role of a node, such as `myself` or `fail?`. -/
structure NeutralFlag (flag : Bytes) : Prop where
  plain : Plain flag
  noComma : ','.toUInt8 ∉ flag
  some : flag ≠ []
  noPrimary : (ascii "master").isPrefixOf flag = false
  noReplica : (ascii "slave").isPrefixOf flag = false
  addressKnown : (ascii "noaddr").isPrefixOf flag = false

/-- The role is one of the flags. -/
def RendersFlags (role text : Bytes) : Prop :=
  ∃ before after, (∀ flag ∈ before ++ after, NeutralFlag flag) ∧
    text = joinFields ','.toUInt8 (before ++ role :: after)

/-- The address, and possibly the port of the cluster bus and a host name. -/
def RendersAddress (endpoint : Endpoint) (text : Bytes) : Prop :=
  ∃ rest, text = endpoint.host ++ ':'.toUInt8 :: Decimal.ofNat endpoint.port ++ rest ∧
    (rest = [] ∨ ∃ bus, rest = '@'.toUInt8 :: bus ∧ Plain bus)

/-- A range of one slot is written as one number. -/
def RendersSlotRange (slot : ClusterSlot) (text : Bytes) : Prop :=
  text = Decimal.ofNat slot.start ++ '-'.toUInt8 :: Decimal.ofNat slot.stop ∨
    slot.start = slot.stop ∧ text = Decimal.ofNat slot.start

/-- A slot that is being imported or migrated. -/
def IsMarker (text : Bytes) : Prop := Plain text ∧ text.head? = some '['.toUInt8

/-- The eight fields that every line has, and those after them. -/
def RendersLine (id : Bytes) (endpoint : Endpoint) (role primaryId : Bytes) (more : List Bytes)
    (line : Bytes) : Prop :=
  ∃ address flags ping pong epoch link, RendersAddress endpoint address ∧ RendersFlags role flags ∧
    Plain ping ∧ Plain pong ∧ Plain epoch ∧ Plain link ∧ link ≠ [] ∧
    line = joinFields ' '.toUInt8
      ([id, address, flags, primaryId, ping, pong, epoch, link] ++ more)

/-- The line of a node. A primary is followed by its slot ranges in any order and
by the slots that are being moved. -/
def RendersItem : NodesItem → Bytes → Prop
  | .primary node, line =>
      ∃ none slots texts markers, Plain none ∧ slots.Perm node.slots ∧
        List.Forall₂ RendersSlotRange slots texts ∧ (∀ marker ∈ markers, IsMarker marker) ∧
        RendersLine node.id node.endpoint (ascii "master") none (texts ++ markers) line
  | .replica primary node, line =>
      RendersLine node.id node.endpoint (ascii "slave") primary.id [] line

/-- The reply to `CLUSTER NODES`, with the lines in any order. -/
def RendersNodes (topology : Topology) (reply : ReplyTree) : Prop :=
  ∃ items lines, items.Perm topology.items ∧ List.Forall₂ RendersItem items lines ∧
    (reply = .string (lines.flatMap (· ++ [LF])) ∨
      ∃ format, reply = .verb format (lines.flatMap (· ++ [LF])))

/-! ## Fields -/

theorem Plain.append {left right : Bytes} (first : Plain left) (second : Plain right) :
    Plain (left ++ right) := by
  obtain ⟨noSpace, noLine, noEnd⟩ := first
  obtain ⟨noSpace', noLine', noEnd'⟩ := second
  simp only [Plain, List.mem_append, not_or]
  exact ⟨⟨noSpace, noSpace'⟩, ⟨noLine, noLine'⟩, ⟨noEnd, noEnd'⟩⟩

theorem Plain.cons {byte : UInt8} {text : Bytes}
    (other : ' '.toUInt8 ≠ byte ∧ LF ≠ byte ∧ 0 ≠ byte) (plain : Plain text) :
    Plain (byte :: text) := by
  obtain ⟨noSpace, noLine, noEnd⟩ := plain
  simp only [Plain, List.mem_cons, not_or]
  exact ⟨⟨other.1, noSpace⟩, ⟨other.2.1, noLine⟩, ⟨other.2.2, noEnd⟩⟩

theorem plain_nil : Plain [] := ⟨List.not_mem_nil, List.not_mem_nil, List.not_mem_nil⟩

theorem plain_ofNat (value : Nat) : Plain (Decimal.ofNat value) :=
  ⟨not_mem_ofNat (by decide) value, not_mem_ofNat (by decide) value,
    not_mem_ofNat (by decide) value⟩

theorem Plain.joinFields {separator : UInt8}
    (other : ' '.toUInt8 ≠ separator ∧ LF ≠ separator ∧ 0 ≠ separator) {parts : List Bytes}
    (plain : ∀ part ∈ parts, Plain part) : Plain (joinFields separator parts) := by
  refine ⟨fun member => ?_, fun member => ?_, fun member => ?_⟩
  · rcases mem_joinFields member with same | ⟨part, inParts, inPart⟩
    · exact other.1 same
    · exact (plain part inParts).1 inPart
  · rcases mem_joinFields member with same | ⟨part, inParts, inPart⟩
    · exact other.2.1 same
    · exact (plain part inParts).2.1 inPart
  · rcases mem_joinFields member with same | ⟨part, inParts, inPart⟩
    · exact other.2.2 same
    · exact (plain part inParts).2.2 inPart

theorem RendersFlags.plain {role text : Bytes} (rolePlain : Plain role)
    (renders : RendersFlags role text) : Plain text := by
  obtain ⟨before, after, neutral, rfl⟩ := renders
  refine Plain.joinFields (by decide) fun flag member => ?_
  rcases List.mem_append.mp member with inBefore | rest
  · exact (neutral flag (List.mem_append_left _ inBefore)).plain
  · rcases List.mem_cons.mp rest with rfl | inAfter
    · exact rolePlain
    · exact (neutral flag (List.mem_append_right _ inAfter)).plain

theorem RendersAddress.plain {endpoint : Endpoint} {text : Bytes} (wellFormed : endpoint.WellFormed)
    (renders : RendersAddress endpoint text) : Plain text := by
  obtain ⟨rest, rfl, bus⟩ := renders
  refine (wellFormed.plain.append ((plain_ofNat _).cons (by decide))).append ?_
  rcases bus with rfl | ⟨bus, rfl, plain⟩
  · exact plain_nil
  · exact plain.cons (by decide)

theorem RendersSlotRange.plain {slot : ClusterSlot} {text : Bytes}
    (renders : RendersSlotRange slot text) : Plain text := by
  rcases renders with rfl | ⟨_, rfl⟩
  · exact (plain_ofNat _).append ((plain_ofNat _).cons (by decide))
  · exact plain_ofNat _

theorem parseFlags_neutral {flags : List Bytes} (neutral : ∀ flag ∈ flags, NeutralFlag flag)
    (role : NodeRole) (rest : List Bytes) :
    parseFlags role (flags ++ rest) = parseFlags role rest := by
  induction flags with
  | nil => rfl
  | cons flag flags induction =>
      have own := neutral flag List.mem_cons_self
      rw [List.cons_append, parseFlags, own.noPrimary, own.noReplica, own.addressKnown]
      exact induction fun other member => neutral other (List.mem_cons_of_mem _ member)

/-- The word for a role. -/
structure RoleFlag (role : NodeRole) (flag : Bytes) : Prop where
  plain : Plain flag
  noComma : ','.toUInt8 ∉ flag
  some : flag ≠ []
  known : ∀ before rest, parseFlags before (flag :: rest) = parseFlags role rest

theorem roleFlag_primary : RoleFlag .primary (ascii "master") where
  plain := by decide
  noComma := by decide
  some := by decide
  known before rest := by
    rw [parseFlags, if_pos (by decide)]

theorem roleFlag_replica : RoleFlag .replica (ascii "slave") where
  plain := by decide
  noComma := by decide
  some := by decide
  known before rest := by
    rw [parseFlags, if_neg (by decide), if_pos (by decide)]

theorem parseFlags_renders {role : NodeRole} {flag text : Bytes} (isRole : RoleFlag role flag)
    (renders : RendersFlags flag text) : parseFlags .unknown (fields ','.toUInt8 text) =
    some role := by
  obtain ⟨before, after, neutral, rfl⟩ := renders
  have clean : ∀ part ∈ before ++ flag :: after, ','.toUInt8 ∉ part ∧ part ≠ [] := by
    intro part member
    rcases List.mem_append.mp member with inBefore | rest
    · have own := neutral part (List.mem_append_left _ inBefore)
      exact ⟨own.noComma, own.some⟩
    · rcases List.mem_cons.mp rest with rfl | inAfter
      · exact ⟨isRole.noComma, isRole.some⟩
      · have own := neutral part (List.mem_append_right _ inAfter)
        exact ⟨own.noComma, own.some⟩
  have whole : fields ','.toUInt8 (joinFields ','.toUInt8 (before ++ flag :: after)) =
      before ++ flag :: after := by
    rcases List.eq_nil_or_concat (before ++ flag :: after) with empty | ⟨first, last, split⟩
    · simp at empty
    · rw [List.concat_eq_append] at split
      rw [split] at clean ⊢
      have lastClean := clean last (List.mem_append_right _ (List.mem_singleton_self _))
      exact fields_joinFields first
        (fun part member => (clean part (List.mem_append_left _ member)).1)
        lastClean.1 lastClean.2
  rw [whole, parseFlags_neutral fun other member => neutral other (List.mem_append_left _ member),
    isRole.known, ← List.append_nil after,
    parseFlags_neutral fun other member => neutral other (List.mem_append_right _ member)]
  rfl

theorem Decimal.ofInt_natCast (value : Nat) : Decimal.ofInt value = Decimal.ofNat value := by
  rw [Decimal.ofInt, if_neg (by omega), Int.natAbs_natCast]

theorem parseAddress_renders (connected : Bytes) {endpoint : Endpoint}
    (wellFormed : endpoint.WellFormed) {text : Bytes} (renders : RendersAddress endpoint text) :
    parseAddress connected text =
      .ok (endpoint.address connected, cString (endpoint.resolve connected), endpoint.port) := by
  obtain ⟨rest, rfl, bus⟩ := renders
  obtain ⟨low, high⟩ := wellFormed.port
  have noAt : '@'.toUInt8 ∉ endpoint.host ++ ':'.toUInt8 :: Decimal.ofNat endpoint.port := by
    rw [List.mem_append, List.mem_cons, not_or, not_or]
    exact ⟨wellFormed.noAt, by decide, not_mem_ofNat (by decide) _⟩
  have beforeBus : (splitFirst '@'.toUInt8
      (endpoint.host ++ ':'.toUInt8 :: Decimal.ofNat endpoint.port ++ rest)).1 =
        endpoint.host ++ ':'.toUInt8 :: Decimal.ofNat endpoint.port := by
    rcases bus with rfl | ⟨bus, rfl, _⟩
    · rw [List.append_nil, splitFirst_none noAt]
    · rw [splitFirst_append noAt]
  have inRange : portInRange (endpoint.port : Int) = true := by
    rw [portInRange, Bool.and_eq_true, decide_eq_true_eq, decide_eq_true_eq]
    omega
  have parts : splitLast ':'.toUInt8 (endpoint.host ++ ':'.toUInt8 :: Decimal.ofNat endpoint.port) =
      some (endpoint.host, Decimal.ofNat endpoint.port) :=
    splitLast_append _ (not_mem_ofNat (by decide) _)
  have port : vkAtoi (Decimal.ofNat endpoint.port) = endpoint.port := vkAtoi_ofNat (by omega)
  rw [parseAddress, beforeBus]
  simp only [parts, port, inRange, not_true_eq_false, if_false]
  by_cases unknown : endpoint.host = []
  · rw [if_neg (not_not.mpr unknown), Endpoint.address, Endpoint.resolve, if_pos unknown]
  · rw [if_pos unknown, Endpoint.address, Endpoint.resolve, if_neg unknown, addressOf,
      cString_of_clean wellFormed.plain.2.2, Decimal.ofInt_natCast]

theorem parseSlotText_renders {slot : ClusterSlot} (valid : slot.Valid) {text : Bytes}
    (renders : RendersSlotRange slot text) : parseSlotText text = slot := by
  obtain ⟨order, inside⟩ := valid
  rw [valkeyClusterSlots] at inside
  have noDash (value : Nat) : '-'.toUInt8 ∉ Decimal.ofNat value := not_mem_ofNat (by decide) value
  have start : toUint32 (vkAtoi (Decimal.ofNat slot.start)) = slot.start := by
    rw [vkAtoi_ofNat (by omega), toUint32_ofNat (by omega)]
  have stop : toUint32 (vkAtoi (Decimal.ofNat slot.stop)) = slot.stop := by
    rw [vkAtoi_ofNat (by omega), toUint32_ofNat (by omega)]
  rcases renders with rfl | ⟨single, rfl⟩
  · rw [parseSlotText, splitFirst_append (noDash _)]
    dsimp only
    rw [start, stop]
  · rw [parseSlotText, splitFirst_none (noDash _)]
    dsimp only
    rw [start]
    exact congrArg (ClusterSlot.mk slot.start) single

theorem parseSlotTexts_renders {slots : List ClusterSlot} (valid : ∀ slot ∈ slots, slot.Valid)
    {texts : List Bytes} (renders : List.Forall₂ RendersSlotRange slots texts)
    {markers : List Bytes} (moved : ∀ marker ∈ markers, IsMarker marker) :
    parseSlotTexts (texts ++ markers) = slots := by
  induction renders with
  | nil =>
      cases markers with
      | nil => rfl
      | cons marker rest =>
          have isMarker := (moved marker List.mem_cons_self).2
          rw [List.nil_append, parseSlotTexts, List.takeWhile_cons_of_neg (by simp [isMarker])]
          rfl
  | @cons slot text slots texts first _ induction =>
      have number : text.head? ≠ some '['.toUInt8 := by
        intro head
        have member : '['.toUInt8 ∈ text := List.mem_of_mem_head? head
        rcases first with rfl | ⟨_, rfl⟩
        · rw [List.mem_append, List.mem_cons] at member
          rcases member with inStart | dash | inStop
          · exact not_mem_ofNat (by decide) _ inStart
          · exact absurd dash (by decide)
          · exact not_mem_ofNat (by decide) _ inStop
        · exact not_mem_ofNat (by decide) _ member
      have rest := induction fun other member => valid other (List.mem_cons_of_mem _ member)
      rw [parseSlotTexts] at rest ⊢
      rw [List.cons_append, List.takeWhile_cons_of_pos (by simpa using number), List.map_cons, rest,
        parseSlotText_renders (valid slot List.mem_cons_self) first]

/-! ## Lines -/

/-- What a line stands for when it is cut at the spaces. -/
structure LineFields (address flags id primaryId : Bytes) (more ended : List Bytes) (last : Bytes) :
    Prop where
  complete : ¬(ended.length < 7 ∨ (ended.length = 7 ∧ last = []))
  id : ended.getD 0 [] = id
  address : ended.getD 1 [] = address
  flags : ended.getD 2 [] = flags
  primaryId : ended.getD 3 [] = primaryId
  slots : (if ended.length = 7 then []
    else parseSlotTexts (if last = [] then ended.drop 8 else ended.drop 8 ++ [last])) =
      parseSlotTexts more

theorem lineFields {id address flags primaryId ping pong epoch link : Bytes} {more : List Bytes}
    (head : ∀ field ∈ [id, address, flags, primaryId, ping, pong, epoch, link], ' '.toUInt8 ∉ field)
    (linkSome : link ≠ []) (moreFields : ∀ field ∈ more, ' '.toUInt8 ∉ field ∧ field ≠ []) :
    let (ended, last) := splitAll ' '.toUInt8 (joinFields ' '.toUInt8
      ([id, address, flags, primaryId, ping, pong, epoch, link] ++ more))
    LineFields address flags id primaryId more ended last := by
  rcases List.eq_nil_or_concat more with rfl | ⟨first, last, rfl⟩
  · have cut := splitAll_joinFields [id, address, flags, primaryId, ping, pong, epoch]
      (fun field member => head field (List.mem_append_left [link] member))
      (head link (List.mem_append_right [id, address, flags, primaryId, ping, pong, epoch]
        (List.mem_singleton_self _)))
    rw [List.append_nil]
    simp only [List.cons_append, List.nil_append] at cut
    rw [cut]
    refine ⟨?_, rfl, rfl, rfl, rfl, rfl⟩
    simpa using linkSome
  · rw [List.concat_eq_append] at moreFields ⊢
    have lastField := moreFields last (List.mem_append_right _ (List.mem_singleton_self _))
    have cut := splitAll_joinFields
      ([id, address, flags, primaryId, ping, pong, epoch, link] ++ first)
      (fun field member => (List.mem_append.mp member).elim (head field)
        fun inFirst => (moreFields field (List.mem_append_left _ inFirst)).1)
      lastField.1
    rw [← List.append_assoc, cut]
    refine ⟨?_, rfl, rfl, rfl, rfl, ?_⟩
    · simp
    · rw [if_neg (by simp), if_neg lastField.2]
      rfl

section Lines

variable {connected : Bytes} {addReplicas : Bool}

theorem parse_cluster_nodes_line_fields {id address flags primaryId : Bytes} {more : List Bytes}
    {name : Nat} {line : Bytes}
    (cut : let (ended, last) := splitAll ' '.toUInt8 line
      LineFields address flags id primaryId more ended last) :
    (parse_cluster_nodes_line addReplicas connected name line : Except String (ParsedLine Con)) =
      match parseFlags .unknown (fields ','.toUInt8 flags) with
      | none => .ok .skipped
      | some .unknown => .error "Unknown role"
      | some .replica =>
          if ¬addReplicas then .ok .skipped
          else do
            let (addr, host, port) ← parseAddress connected address
            return .replica primaryId
              { name := some id, addr := addr, host := host, port := port, con := none, acon := none
                lastConnectionAttempt := 0 }
      | some .primary => do
          let (addr, host, port) ← parseAddress connected address
          return .primary
            { id := name, name := some id, addr := addr, host := host, port := port
              role := .primary, slots := parseSlotTexts more, replicas := [], con := none
              acon := none, lastConnectionAttempt := 0 } := by
  rw [parse_cluster_nodes_line]
  dsimp only at cut ⊢
  rw [if_neg cut.complete, cut.flags, cut.address, cut.id, cut.primaryId, cut.slots]
  rfl

/-- The node that is made of the line of a primary. -/
structure FoundPrimary (connected : Bytes) (primary : TopologyNode) (node : ValkeyClusterNode Con) :
    Prop where
  stands : StandsFor connected primary node
  name : node.name = some primary.id
  slots : node.slots.Perm primary.slots

/-- The eight fields of a line. -/
theorem RendersLine.cut {id : Bytes} {endpoint : Endpoint} {role primaryId : Bytes}
    {more : List Bytes} {line : Bytes} (renders : RendersLine id endpoint role primaryId more line)
    (wellFormed : endpoint.WellFormed) (rolePlain : Plain role) (plain : Plain id ∧ Plain primaryId)
    (moreFields : ∀ field ∈ more, Plain field ∧ field ≠ []) :
    LF ∉ line ∧ 0 ∉ line ∧ ∃ address flags, RendersAddress endpoint address ∧
      RendersFlags role flags ∧
      let (ended, last) := splitAll ' '.toUInt8 line
      LineFields address flags id primaryId more ended last := by
  obtain ⟨address, flags, ping, pong, epoch, link, atAddress, withFlags, pingPlain, pongPlain,
    epochPlain, linkPlain, linkSome, rfl⟩ := renders
  have head : ∀ field ∈ [id, address, flags, primaryId, ping, pong, epoch, link], Plain field := by
    simp only [List.forall_mem_cons]
    exact ⟨plain.1, atAddress.plain wellFormed, withFlags.plain rolePlain, plain.2, pingPlain,
      pongPlain, epochPlain, linkPlain, fun _ member => absurd member List.not_mem_nil⟩
  have whole : ∀ field ∈ [id, address, flags, primaryId, ping, pong, epoch, link] ++ more,
      Plain field :=
    fun field member => (List.mem_append.mp member).elim (head field) fun inMore =>
      (moreFields field inMore).1
  refine ⟨fun member => ?_, fun member => ?_, address, flags, atAddress, withFlags,
    lineFields (fun field member => (head field member).1) linkSome fun field member =>
      ⟨(moreFields field member).1.1, (moreFields field member).2⟩⟩
  · rcases mem_joinFields member with same | ⟨part, inParts, inPart⟩
    · exact absurd same (by decide)
    · exact (whole part inParts).2.1 inPart
  · rcases mem_joinFields member with same | ⟨part, inParts, inPart⟩
    · exact absurd same (by decide)
    · exact (whole part inParts).2.2 inPart

theorem RendersSlotRange.ne_nil {slot : ClusterSlot} {text : Bytes}
    (renders : RendersSlotRange slot text) : text ≠ [] := by
  rcases renders with rfl | ⟨_, rfl⟩
  · exact List.append_ne_nil_of_right_ne_nil _ (List.cons_ne_nil _ _)
  · exact Decimal.ofNat_ne_nil _

/-- A line ends where the text says so, and gives its node. -/
theorem parse_primary_renders {primary : TopologyNode} (wellFormed : primary.endpoint.WellFormed)
    (plain : Plain primary.id) (valid : ∀ slot ∈ primary.slots, slot.Valid) {line : Bytes}
    (renders : RendersItem (.primary primary) line) (name : Nat) :
    (LF ∉ line ∧ 0 ∉ line) ∧ ∃ node : ValkeyClusterNode Con,
      parse_cluster_nodes_line addReplicas connected name line = .ok (.primary node) ∧
        FoundPrimary connected primary node := by
  obtain ⟨none, slots, texts, markers, nonePlain, perm, ranges, moved, rendered⟩ := renders
  have flipped : List.Forall₂ (flip RendersSlotRange) texts slots := ranges.flip
  have texted : ∀ text ∈ texts, Plain text ∧ text ≠ [] :=
    ((List.forall₂_and_left texts slots).mp
      (flipped.imp fun _ _ range => ⟨⟨range.plain, range.ne_nil⟩, range⟩)).1
  have moreFields : ∀ field ∈ texts ++ markers, Plain field ∧ field ≠ [] := by
    intro field member
    rcases List.mem_append.mp member with inTexts | inMarkers
    · exact texted field inTexts
    · have marker := moved field inMarkers
      exact ⟨marker.1, List.ne_nil_of_mem (List.mem_of_mem_head? marker.2)⟩
  obtain ⟨noLine, noEnd, address, flags, atAddress, withFlags, cut⟩ :=
    rendered.cut wellFormed roleFlag_primary.plain ⟨plain, nonePlain⟩ moreFields
  refine ⟨⟨noLine, noEnd⟩, ?_⟩
  rw [parse_cluster_nodes_line_fields cut, parseFlags_renders roleFlag_primary withFlags,
    parseAddress_renders connected wellFormed atAddress]
  refine ⟨_, rfl, ?_⟩
  have found := parseSlotTexts_renders (fun slot member => valid slot (perm.mem_iff.mp member))
    ranges moved
  refine ⟨⟨rfl, rfl, rfl, rfl⟩, rfl, ?_⟩
  dsimp only
  rw [found]
  exact perm

theorem parse_replica_renders {primary : TopologyNode} {replica : TopologyReplica}
    (wellFormed : replica.endpoint.WellFormed) (plain : Plain replica.id ∧ Plain primary.id)
    {line : Bytes} (renders : RendersItem (.replica primary replica) line) (name : Nat) :
    (LF ∉ line ∧ 0 ∉ line) ∧ ∃ node : ReplicaNode Con,
      node.addr = replica.endpoint.address connected ∧
      parse_cluster_nodes_line addReplicas connected name line =
        .ok (if addReplicas then .replica primary.id node else .skipped) := by
  obtain ⟨noLine, noEnd, address, flags, atAddress, withFlags, cut⟩ :=
    RendersLine.cut renders wellFormed roleFlag_replica.plain plain
      fun _ member => absurd member List.not_mem_nil
  let node : ReplicaNode Con :=
    { name := some replica.id
      addr := replica.endpoint.address connected
      host := cString (replica.endpoint.resolve connected)
      port := replica.endpoint.port
      con := none
      acon := none
      lastConnectionAttempt := 0 }
  refine ⟨⟨noLine, noEnd⟩, node, rfl, ?_⟩
  rw [parse_cluster_nodes_line_fields cut, parseFlags_renders roleFlag_replica withFlags,
    parseAddress_renders connected wellFormed atAddress]
  cases addReplicas <;> rfl

end Lines

/-! ## The whole text -/

def NodesItem.WellFormed : NodesItem → Prop
  | .primary node => node.endpoint.WellFormed ∧ Plain node.id ∧ ∀ slot ∈ node.slots, slot.Valid
  | .replica owner node => node.endpoint.WellFormed ∧ Plain node.id ∧ Plain owner.id

theorem Topology.WellFormed.items {topology : Topology} {connected : Bytes}
    (wellFormed : topology.WellFormed connected) : ∀ item ∈ topology.items, item.WellFormed := by
  intro item member
  obtain ⟨node, inTopology, isItem⟩ := List.mem_flatMap.mp member
  obtain ⟨endpoint, replicas⟩ := wellFormed.endpoints node inTopology
  obtain ⟨plain, replicasPlain⟩ := wellFormed.plain node inTopology
  rcases List.mem_cons.mp isItem with rfl | isReplica
  · exact ⟨endpoint, plain, fun slot inSlots =>
      wellFormed.valid slot (List.mem_flatMap.mpr ⟨node, inTopology, inSlots⟩)⟩
  · obtain ⟨replica, inReplicas, rfl⟩ := List.mem_map.mp isReplica
    exact ⟨replicas replica inReplicas, replicasPlain replica inReplicas, plain⟩

theorem Topology.primaries_items (topology : Topology) :
    topology.items.filterMap NodesItem.primary? = topology := by
  induction topology with
  | nil => rfl
  | cons node rest induction =>
      have none : (node.replicas.map (NodesItem.replica node)).filterMap NodesItem.primary? =
          [] := by
        simp [NodesItem.primary?]
      rw [Topology.items] at induction ⊢
      rw [List.flatMap_cons, List.filterMap_append, induction, List.filterMap_cons, none]
      rfl

theorem Topology.replicas_items (topology : Topology) :
    topology.items.filterMap NodesItem.replica? =
      topology.flatMap fun node => node.replicas.map fun replica => (node, replica) := by
  rw [Topology.items, List.filterMap_flatMap]
  congr
  funext node
  rw [List.filterMap_cons_none rfl, List.filterMap_map]
  simp [NodesItem.replica?, Function.comp_def]

/-- The addresses of replicas with the ids of their primaries. -/
def ownedAddrs (connected : Bytes) (replicas : List (TopologyNode × TopologyReplica)) :
    List (Bytes × Bytes) :=
  replicas.map fun entry => (entry.1.id, entry.2.endpoint.address connected)

/-- The replicas of a primary are those that carry its id. -/
theorem Topology.owned {topology : Topology} (ids : (topology.map (·.id)).Nodup)
    {primary : TopologyNode} (member : primary ∈ topology) (connected : Bytes) :
    (ownedAddrs connected
      (topology.flatMap fun node => node.replicas.map fun replica => (node, replica))).filter
        (fun entry => entry.1 == primary.id) =
      primary.replicas.map fun replica => (primary.id, replica.endpoint.address connected) := by
  induction topology with
  | nil => exact absurd member List.not_mem_nil
  | cons node rest induction =>
      rw [List.map_cons, List.nodup_cons] at ids
      have own (id : Bytes) : (ownedAddrs connected
          (node.replicas.map fun replica => (node, replica))).filter (fun entry => entry.1 == id) =
            if node.id = id then node.replicas.map fun replica =>
              (id, replica.endpoint.address connected)
            else [] := by
        rw [ownedAddrs, List.map_map]
        by_cases same : node.id = id
        · rw [if_pos same, List.filter_eq_self.mpr]
          · simp [Function.comp_def, same]
          · intro entry inList
            obtain ⟨replica, _, rfl⟩ := List.mem_map.mp inList
            simpa using same
        · rw [if_neg same, List.filter_eq_nil_iff]
          intro entry inList
          obtain ⟨replica, _, rfl⟩ := List.mem_map.mp inList
          simpa using same
      rw [List.flatMap_cons, ownedAddrs, List.map_append, List.filter_append]
      rw [ownedAddrs] at own
      rw [own]
      rcases List.mem_cons.mp member with rfl | inRest
      · rw [if_pos rfl, List.filter_eq_nil_iff.mpr, List.append_nil]
        intro entry inList
        obtain ⟨⟨other, replica⟩, inOthers, rfl⟩ := List.mem_map.mp inList
        obtain ⟨owner, inRest, isOwned⟩ := List.mem_flatMap.mp inOthers
        obtain ⟨replica, _, same⟩ := List.mem_map.mp isOwned
        obtain ⟨rfl, rfl⟩ := Prod.mk.inj same
        intro sameId
        refine ids.1 ?_
        rw [← beq_iff_eq.mp sameId]
        exact List.mem_map_of_mem inRest
      · have other : node.id ≠ primary.id := fun same => ids.1 (same ▸ List.mem_map_of_mem inRest)
        rw [if_neg other]
        exact induction ids.2 inRest

/-- What has been found after some of the lines. -/
structure LinesSoFar (connected : Bytes) (addReplicas : Bool) (done : List NodesItem)
    (nodes : List (ValkeyClusterNode Con)) (replicas : List (Bytes × ReplicaNode Con)) : Prop where
  replicaAddrs : replicas.map (fun entry => (entry.1, entry.2.addr)) =
    if addReplicas then ownedAddrs connected (done.filterMap NodesItem.replica?) else []
  primaries : List.Forall₂ (FoundPrimary connected) (done.filterMap NodesItem.primary?) nodes

section Text

variable {connected : Bytes} {addReplicas : Bool} {done : List NodesItem}
  {nodes : List (ValkeyClusterNode Con)} {replicas : List (Bytes × ReplicaNode Con)}

theorem LinesSoFar.primary (soFar : LinesSoFar connected addReplicas done nodes replicas)
    {primary : TopologyNode} {node : ValkeyClusterNode Con}
    (found : FoundPrimary connected primary node) :
    LinesSoFar connected addReplicas (done ++ [.primary primary]) (nodes ++ [node]) replicas where
  replicaAddrs := by
    have none : [NodesItem.primary primary].filterMap NodesItem.replica? = [] := rfl
    rw [soFar.replicaAddrs, List.filterMap_append, none, List.append_nil]
  primaries := by
    rw [List.filterMap_append]
    exact List.rel_append soFar.primaries (.cons found .nil)

theorem LinesSoFar.replica (soFar : LinesSoFar connected addReplicas done nodes replicas)
    (primary : TopologyNode) (replica : TopologyReplica) {node : ReplicaNode Con}
    (addr : node.addr = replica.endpoint.address connected) :
    LinesSoFar connected addReplicas (done ++ [.replica primary replica]) nodes
      (if addReplicas then replicas ++ [(primary.id, node)] else replicas) where
  replicaAddrs := by
    have addrs := soFar.replicaAddrs
    cases addReplicas with
    | false => exact addrs
    | true =>
        rw [if_pos rfl, ownedAddrs] at addrs ⊢
        rw [if_pos rfl, List.map_append, addrs, List.filterMap_append, List.map_append]
        simp [NodesItem.replica?, addr]
  primaries := by
    have none : [NodesItem.replica primary replica].filterMap NodesItem.primary? = [] := rfl
    rw [List.filterMap_append, none, List.append_nil]
    exact soFar.primaries

theorem LinesSoFar.addrs (soFar : LinesSoFar connected addReplicas done nodes replicas) :
    nodes.map (·.addr) = (done.filterMap NodesItem.primary?).map
      (·.endpoint.address connected) := by
  obtain ⟨_, primaries⟩ := soFar
  generalize done.filterMap NodesItem.primary? = found at primaries
  induction primaries with
  | nil => rfl
  | cons first _ induction => rw [List.map_cons, List.map_cons, first.stands.addr, induction]

/-- All lines. -/
theorem parseNodesLines_renders (base : Nat) {items : List NodesItem} {lines : List Bytes}
    (renders : List.Forall₂ RendersItem items lines) (wellFormed : ∀ item ∈ items, item.WellFormed)
    (apart : (((done ++ items).filterMap NodesItem.primary?).map
      (·.endpoint.address connected)).Nodup)
    (soFar : LinesSoFar connected addReplicas done nodes replicas) :
    ∃ final, parseNodesLines addReplicas connected base nodes replicas lines = .ok final ∧
      LinesSoFar connected addReplicas (done ++ items) final.1 final.2 := by
  induction renders generalizing done nodes replicas with
  | nil => exact ⟨(nodes, replicas), rfl, by rwa [List.append_nil]⟩
  | @cons item line items lines first _ induction =>
      have own := wellFormed item List.mem_cons_self
      have rest := fun other member => wellFormed other (List.mem_cons_of_mem item member)
      rw [List.append_cons] at apart ⊢
      cases item with
      | primary primary =>
          obtain ⟨endpoint, plain, valid⟩ := own
          obtain ⟨_, node, parsed, found⟩ :=
            @parse_primary_renders Con connected addReplicas primary endpoint plain valid line first
              (base + nodes.length)
          have unknown : (findByAddr nodes node.addr).isSome = false := by
            rw [Option.isSome_eq_false_iff, Option.isNone_iff_eq_none, findByAddr_eq_none,
              soFar.addrs,
              found.stands.addr]
            rw [List.filterMap_append, List.filterMap_append, List.map_append,
              List.map_append] at apart
            have before := (List.nodup_append.mp (List.nodup_append.mp apart).1).2.2
            intro member
            exact before _ member _ (List.mem_singleton_self _) rfl
          obtain ⟨final, parsedRest, finalSoFar⟩ := induction rest apart (soFar.primary found)
          refine ⟨final, ?_, finalSoFar⟩
          simp only [parseNodesLines, parsed, bind, Except.bind, unknown]
          exact parsedRest
      | replica primary replica =>
          obtain ⟨endpoint, plain⟩ := own
          obtain ⟨_, node, addr, parsed⟩ :=
            @parse_replica_renders Con connected addReplicas primary replica endpoint
              plain line first
              (base + nodes.length)
          obtain ⟨final, parsedRest, finalSoFar⟩ :=
            induction rest apart (soFar.replica primary replica addr)
          refine ⟨final, ?_, finalSoFar⟩
          simp only [parseNodesLines, parsed, bind, Except.bind]
          cases addReplicas <;> exact parsedRest

/-- The replicas go to the nodes whose names they carry. -/
theorem store_replica_nodes_eq (names : (nodes.map (·.name)).Nodup) :
    store_replica_nodes replicas nodes = nodes.map fun node =>
      { node with replicas :=
          (replicas.filter fun entry => some entry.1 == node.name).map (·.2) } := by
  induction nodes generalizing replicas with
  | nil => rfl
  | cons node rest induction =>
      rw [List.map_cons, List.nodup_cons] at names
      rw [store_replica_nodes, List.map_cons, induction names.2]
      refine congrArg _ (List.map_congr_left fun other member => ?_)
      have different : other.name ≠ node.name :=
        fun same => names.1 (same ▸ List.mem_map_of_mem member)
      have unchanged : (replicas.filter fun entry => some entry.1 != node.name).filter
          (fun entry => some entry.1 == other.name) =
            replicas.filter fun entry => some entry.1 == other.name := by
        rw [List.filter_filter]
        refine List.filter_congr fun entry _ => ?_
        by_cases own : some entry.1 = other.name
        · simp [own, different]
        · simp [own]
      rw [unchanged]

theorem LinesSoFar.names (soFar : LinesSoFar connected addReplicas done nodes replicas) :
    nodes.map (·.name) = (done.filterMap NodesItem.primary?).map fun primary =>
      some primary.id := by
  obtain ⟨_, primaries⟩ := soFar
  generalize done.filterMap NodesItem.primary? = found at primaries
  induction primaries with
  | nil => rfl
  | cons first _ induction => rw [List.map_cons, List.map_cons, first.name, induction]

theorem LinesSoFar.claims (soFar : LinesSoFar connected addReplicas done nodes replicas) :
    (addressClaims nodes).Perm (Topology.claims connected (done.filterMap NodesItem.primary?)) := by
  obtain ⟨_, primaries⟩ := soFar
  generalize done.filterMap NodesItem.primary? = found at primaries
  induction primaries with
  | nil => exact .refl _
  | @cons primary node _ _ first _ induction =>
      rw [addressClaims, Topology.claims, List.flatMap_cons, List.flatMap_cons, first.stands.addr]
      exact (first.slots.map _).append induction

variable {topology : Topology}

theorem LinesSoFar.found (soFar : LinesSoFar connected addReplicas done nodes replicas)
    {node : ValkeyClusterNode Con} (member : node ∈ nodes) :
    ∃ primary ∈ done.filterMap NodesItem.primary?, FoundPrimary connected primary node := by
  obtain ⟨_, primaries⟩ := soFar
  generalize done.filterMap NodesItem.primary? = found at primaries
  induction primaries with
  | nil => exact absurd member List.not_mem_nil
  | cons first _ induction =>
      rcases List.mem_cons.mp member with rfl | inRest
      · exact ⟨_, List.mem_cons_self, first⟩
      · obtain ⟨primary, inFound, found⟩ := induction inRest
        exact ⟨primary, List.mem_cons_of_mem _ inFound, found⟩

/-- The replicas of a node are those of its primary. -/
theorem LinesSoFar.sameReplicas (soFar : LinesSoFar connected true done nodes replicas)
    (perm : done.Perm topology.items) (ids : (topology.map (·.id)).Nodup) {primary : TopologyNode}
    (member : primary ∈ topology) :
    (((replicas.filter fun entry => some entry.1 == some primary.id).map (·.2)).map (·.addr)).Perm
      (primary.replicas.map (·.endpoint.address connected)) := by
  let ofPrimary (entry : Bytes × Bytes) : Bool := entry.1 == primary.id
  have addrs := soFar.replicaAddrs
  rw [if_pos rfl] at addrs
  have owned := Topology.owned ids member connected
  rw [← Topology.replicas_items] at owned
  have perms : (ownedAddrs connected (done.filterMap NodesItem.replica?)).Perm
      (ownedAddrs connected (topology.items.filterMap NodesItem.replica?)) :=
    (perm.filterMap NodesItem.replica?).map _
  have filtered := (perms.filter ofPrimary).map Prod.snd
  rw [owned, ← addrs, List.map_map, List.filter_map, List.map_map] at filtered
  have same : (fun entry : Bytes × ReplicaNode Con => some entry.1 == some primary.id) =
      ofPrimary ∘ fun entry => (entry.1, entry.2.addr) := by
    funext entry
    simp [ofPrimary]
  rw [List.map_map, same]
  exact filtered

theorem length_addressClaims (nodes : List (ValkeyClusterNode Con)) :
    (addressClaims nodes).length = (nodes.map fun node => node.slots.length).sum := by
  rw [addressClaims, List.length_flatMap]
  simp only [List.length_map]

theorem Topology.length_claims (topology : Topology) (connected : Bytes) :
    (topology.claims connected).length = topology.ranges.length := by
  rw [Topology.claims, Topology.ranges, List.length_flatMap, List.length_flatMap]
  simp only [List.length_map]

theorem rendersItems_clean {items : List NodesItem} {lines : List Bytes}
    (renders : List.Forall₂ RendersItem items lines)
    (wellFormed : ∀ item ∈ items, item.WellFormed) : ∀ line ∈ lines, LF ∉ line ∧ 0 ∉ line := by
  induction renders with
  | nil => exact fun _ member => absurd member List.not_mem_nil
  | @cons item line _ _ first _ induction =>
      have own := wellFormed item List.mem_cons_self
      intro other member
      rcases List.mem_cons.mp member with rfl | inRest
      · cases item with
        | primary primary =>
            obtain ⟨endpoint, plain, valid⟩ := own
            exact (@parse_primary_renders Unit [] true primary endpoint plain valid _ first 0).1
        | replica primary replica =>
            obtain ⟨endpoint, plain⟩ := own
            exact (@parse_replica_renders Unit [] true primary replica endpoint plain _ first 0).1
      · exact induction (fun item member => wellFormed item (List.mem_cons_of_mem _ member))
          other inRest

/-- `parse_cluster_nodes` finds the topology in the reply. -/
theorem parse_cluster_nodes_renders (wellFormed : topology.WellFormed connected) (base : Nat)
    {reply : ReplyTree} (renders : RendersNodes topology reply) :
    ∃ nodes : List (ValkeyClusterNode Con),
      parse_cluster_nodes addReplicas connected base reply = .ok nodes ∧
      Describes addReplicas connected topology nodes := by
  obtain ⟨items, lines, perm, rendered, text⟩ := renders
  have known : ∀ item ∈ items, item.WellFormed := fun item member =>
    wellFormed.items item (perm.mem_iff.mp member)
  have primaries := perm.filterMap NodesItem.primary?
  rw [Topology.primaries_items] at primaries
  have apart : ((([] ++ items : List NodesItem).filterMap NodesItem.primary?).map
      fun primary => primary.endpoint.address connected).Nodup :=
    (primaries.map _).nodup_iff.mpr wellFormed.addresses
  have start : LinesSoFar connected addReplicas [] ([] : List (ValkeyClusterNode Con)) [] := by
    refine ⟨?_, .nil⟩
    cases addReplicas <;> rfl
  obtain ⟨⟨nodes, replicas⟩, parsed, soFar⟩ :=
    parseNodesLines_renders base rendered known apart start
  rw [List.nil_append] at soFar
  have names : (nodes.map (·.name)).Nodup := by
    have ids := (primaries.map (·.id)).nodup_iff.mpr wellFormed.ids
    have some := ids.map (Option.some_injective _)
    rw [List.map_map] at some
    rw [soFar.names]
    exact some
  have claims : (addressClaims nodes).Perm (topology.claims connected) :=
    soFar.claims.trans (primaries.flatMap_right _)
  have served : (nodes.map fun node => node.slots.length).sum ≠ 0 := by
    rw [← length_addressClaims, claims.length_eq, Topology.length_claims]
    exact fun empty => wellFormed.served (List.length_eq_zero_iff.mp empty)
  have clean := rendersItems_clean rendered known
  have parsedText : parseNodesText addReplicas connected base (lines.flatMap (· ++ [LF])) =
      .ok (store_replica_nodes replicas nodes) := by
    rw [parseNodesText, cString_of_clean, splitAll_lines lines fun line member =>
      (clean line member).1]
    · simp only [parsed, bind, Except.bind, if_neg served]
      rfl
    · intro member
      obtain ⟨line, inLines, inLine⟩ := List.mem_flatMap.mp member
      rcases List.mem_append.mp inLine with inLine | isEnd
      · exact (clean line inLines).2 inLine
      · exact absurd (List.mem_singleton.mp isEnd) (by decide)
  refine ⟨store_replica_nodes replicas nodes, ?_, ?_, ?_⟩
  · rcases text with rfl | ⟨format, rfl⟩
    · exact parsedText
    · exact parsedText
  · rw [store_replica_nodes_eq names, addressClaims, List.flatMap_map]
    exact claims
  · rw [store_replica_nodes_eq names]
    intro node member
    obtain ⟨old, inNodes, rfl⟩ := List.mem_map.mp member
    obtain ⟨primary, inItems, found⟩ := soFar.found inNodes
    have inTopology := primaries.mem_iff.mp inItems
    refine ⟨primary, inTopology, ⟨found.stands.addr, found.stands.host, found.stands.port,
      found.stands.role⟩, fun asked => ?_⟩
    subst asked
    rw [SameReplicas, found.name]
    exact soFar.sameReplicas perm wellFormed.ids inTopology

end Text

end Libvalkey
