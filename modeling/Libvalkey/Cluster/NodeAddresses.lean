import Libvalkey.Cluster.NewNodes
import Libvalkey.Cluster.Options
import Libvalkey.Cluster.Texts

/-! # Addresses of nodes

A node is entered under its address: a host, a colon and a port. `vk_atoi` computes with an
`int`, so that a port that is out of range can look like another one. -/

namespace Libvalkey

open Checked

variable {Con : Type}

/-! ## Numbers -/

/-- A text of decimal digits. -/
def DecimalText (text : Bytes) : Prop := text ≠ [] ∧ ∀ byte ∈ text, Decimal.isDigit byte = true

/-- An address is the host, a colon and a number from 1 to 65535, which is the port. -/
def WellNamed (addr host : Bytes) (port : Int) : Prop :=
  ∃ text, addr = host ++ ':'.toUInt8 :: text ∧ DecimalText text ∧
    1 ≤ Decimal.accumulate 0 text ∧ Decimal.accumulate 0 text ≤ 65535 ∧
      port = Decimal.accumulate 0 text

def WellAddressed (node : ValkeyClusterNode Con) : Prop := WellNamed node.addr node.host node.port

/-- An address, if it names a host, does not give a number above 65535 as its port. -/
def FitsPort (addr : Bytes) : Prop :=
  ∀ before portText, splitLast ':'.toUInt8 addr = some (before, portText) → before ≠ [] →
    Decimal.accumulate 0 portText ≤ 65535

theorem digits_of_vkAtoiFrom {value : Int} {text : Bytes} {result : Int}
    (read : vkAtoiFrom value text = some result) : ∀ byte ∈ text, Decimal.isDigit byte = true := by
  induction text generalizing value with
  | nil => exact fun _ member => nomatch member
  | cons byte rest induction =>
      unfold vkAtoiFrom at read
      split at read
      · cases read
      · rename_i inRange
        rw [not_or, UInt8.not_lt, UInt8.not_lt] at inRange
        intro other member
        rcases List.mem_cons.mp member with rfl | later
        · rw [Decimal.isDigit_iff]
          exact ⟨UInt8.le_iff_toNat_le.mp inRange.1, UInt8.le_iff_toNat_le.mp inRange.2⟩
        · exact induction read other later

/-- What is read as a positive number consists of digits. -/
theorem decimalText_of_vkAtoi {text : Bytes} (positive : 0 < vkAtoi text) : DecimalText text := by
  unfold vkAtoi at positive
  split at positive
  · cases positive
  rename_i some
  split at positive
  · cases positive
  · rename_i value read
    exact ⟨some, digits_of_vkAtoiFrom read⟩

/-- A small number is read as what it is. -/
theorem vkAtoi_of_small {text : Bytes} (decimal : DecimalText text)
    (small : Decimal.accumulate 0 text ≤ 65535) : vkAtoi text = Decimal.accumulate 0 text := by
  have read := @vkAtoiFrom_digits 0 text decimal.2 (by omega)
  rw [vkAtoi, if_neg decimal.1, show (0 : Int) = ((0 : Nat) : Int) from rfl, read]
  exact if_neg (by omega)

theorem splitLast_eq {separator : UInt8} {text before after : Bytes}
    (found : splitLast separator text = some (before, after)) :
    text = before ++ separator :: after := by
  induction text generalizing before after with
  | nil => cases found
  | cons byte rest induction =>
      unfold splitLast at found
      split at found
      · rename_i inner last here
        cases found
        rw [induction here, List.cons_append]
      · split at found
        · rename_i same
          cases found
          rw [same, List.nil_append]
        · cases found

/-- A node with the parts of an address and the port that was read from it. -/
theorem wellAddressed_iff {node : ValkeyClusterNode Con} {portText : Bytes}
    (addr : node.addr = node.host ++ ':'.toUInt8 :: portText) (positive : 0 < vkAtoi portText)
    (port : vkAtoi portText ≤ 65535 → node.port = vkAtoi portText) :
    WellAddressed node ↔ Decimal.accumulate 0 portText ≤ 65535 := by
  have decimal := decimalText_of_vkAtoi positive
  constructor
  · rintro ⟨text, same, _, _, small, _⟩
    rw [addr, List.append_cancel_left_eq, List.cons.injEq] at same
    exact same.2 ▸ small
  · intro small
    have value := vkAtoi_of_small decimal small
    refine ⟨portText, addr, decimal, ?_, small, ?_⟩
    · omega
    · rw [port (by omega), value]

/-- A node that is entered under its host and a port in the right range. -/
theorem wellAddressed_addressOf {node : ValkeyClusterNode Con} {host : Bytes} {port : Int}
    (inRange : portInRange port = true) (addr : node.addr = addressOf host port)
    (hosts : node.host = cString host) (same : node.port = port) : WellAddressed node := by
  simp only [portInRange, Bool.and_eq_true, decide_eq_true_eq] at inRange
  obtain ⟨value, rfl⟩ := Int.eq_ofNat_of_zero_le (a := port) (by omega)
  refine ⟨Decimal.ofNat value, ?_, ⟨Decimal.ofNat_ne_nil value, Decimal.isDigit_of_mem_ofNat value⟩,
    ?_, ?_, ?_⟩
  · rw [addr, hosts]
    rfl
  · rw [Decimal.accumulate_ofNat]
    omega
  · rw [Decimal.accumulate_ofNat]
    omega
  · rw [Decimal.accumulate_ofNat, same]

/-- An address whose port is accepted. Without a host, the one of the connection is used. -/
theorem wellAddressed_iff_fitsPort {node : ValkeyClusterNode Con} {text before portText : Bytes}
    (host : Bytes) (found : splitLast ':'.toUInt8 text = some (before, portText))
    (positive : 0 < vkAtoi portText)
    (named : before ≠ [] → node.addr = text ∧ node.host = before ∧
      (vkAtoi portText ≤ 65535 → node.port = vkAtoi portText))
    (unnamed : before = [] → portInRange (vkAtoi portText) = true ∧
      node.addr = addressOf host (vkAtoi portText) ∧ node.host = cString host ∧
        node.port = vkAtoi portText) : WellAddressed node ↔ FitsPort text := by
  by_cases empty : before = []
  · obtain ⟨inRange, addr, hosts, port⟩ := unnamed empty
    have well := wellAddressed_addressOf inRange addr hosts port
    refine ⟨fun _ => ?_, fun _ => well⟩
    intro other otherText again some
    rw [found, Option.some.injEq, Prod.mk.injEq] at again
    exact absurd (again.1 ▸ empty) some
  · obtain ⟨addr, hosts, port⟩ := named empty
    rw [wellAddressed_iff (addr.trans (hosts ▸ splitLast_eq found)) positive port]
    constructor
    · intro small other otherText again _
      rw [found, Option.some.injEq, Prod.mk.injEq] at again
      exact again.2 ▸ small
    · exact fun fits => fits before portText found empty

/-! ## Initial nodes -/

section Options

variable {cc next : ValkeyClusterContext}

/-- The nodes are entered under addresses of the option string. -/
structure Entered (cc : ValkeyClusterContext) (addrs : List Bytes) : Prop where
  fits : ∀ node ∈ cc.nodes, WellAddressed node ↔ FitsPort node.addr
  nodes : ∀ node ∈ cc.nodes, node.addr ∈ addrs
  all : ∀ addr ∈ addrs, ∃ node ∈ cc.nodes, node.addr = addr

theorem entered_addNode {addrs : List Bytes} (entered : Entered cc addrs) {addr : Bytes}
    (added : valkeyClusterSetOptionAddNode cc addr = (.ok, next)) :
    Entered next (addrs ++ [addr]) := by
  obtain ⟨fits, nodes, all⟩ := entered
  have grows {node : ValkeyClusterNode ValkeyContext} (named : node.addr ∈ addrs) :
      node.addr ∈ addrs ++ [addr] := List.mem_append_left _ named
  unfold valkeyClusterSetOptionAddNode at added
  split at added
  · rename_i known found
    cases added
    obtain rfl : known.addr = addr := by simpa using List.find?_some found
    refine ⟨fits, fun node member => grows (nodes node member), ?_⟩
    intro other member
    rcases List.mem_append.mp member with old | new
    · exact all other old
    · exact ⟨known, List.mem_of_find?_eq_some found, (List.mem_singleton.mp new).symm⟩
  split at added
  · cases added
  rename_i ip portText found
  split at added
  · cases added
  rename_i host
  split at added
  · cases added
  split at added
  · cases added
  rename_i positive
  cases added
  have here := @wellAddressed_iff_fitsPort ValkeyContext
    (optionNode cc.nextNode addr ip (vkAtoi portText)) addr ip portText [] found (by omega)
    (fun _ => ⟨rfl, rfl, fun small => by
      dsimp only [optionNode]
      omega⟩)
    (fun empty => absurd empty host)
  refine ⟨?_, ?_, ?_⟩
  · intro node member
    rcases List.mem_append.mp member with old | new
    · exact fits node old
    · rw [List.mem_singleton.mp new]
      exact here
  · intro node member
    rcases List.mem_append.mp member with old | new
    · exact grows (nodes node old)
    · rw [List.mem_singleton.mp new]
      exact List.mem_append_right _ (List.mem_singleton_self addr)
  · intro other member
    rcases List.mem_append.mp member with old | new
    · obtain ⟨node, inside, same⟩ := all other old
      exact ⟨node, List.mem_append_left _ inside, same⟩
    · exact ⟨_, List.mem_append_right _ (List.mem_singleton_self _),
        (List.mem_singleton.mp new).symm⟩

theorem entered_addOptionNodes {addrs : List Bytes} (entered : Entered cc addrs) {more : List Bytes}
    (added : addOptionNodes cc more = (.ok, next)) : Entered next (addrs ++ more) := by
  induction more generalizing cc addrs with
  | nil =>
      cases added
      rw [List.append_nil]
      exact entered
  | cons addr rest induction =>
      unfold addOptionNodes at added
      split at added
      · rename_i first accepted
        have continues := induction (entered_addNode entered accepted) added
        rw [List.append_assoc, List.singleton_append] at continues
        exact continues
      · cases added

/-- The nodes of an option string that is accepted. -/
theorem wellAddressed_options {options : ValkeyClusterOptions} {addrs : Bytes}
    (named : options.initialNodes = some addrs)
    (accepted : valkeyClusterContextInit options = (.ok, cc)) :
    (∀ node ∈ cc.nodes, WellAddressed node) ↔ ∀ addr ∈ splitAddresses addrs, FitsPort addr := by
  have entered : Entered cc (splitAddresses addrs) := by
    unfold valkeyClusterContextInit at accepted
    split at accepted
    · cases accepted
    rw [named] at accepted
    dsimp only at accepted
    split at accepted
    · rename_i made added
      cases accepted
      unfold valkeyClusterSetOptionAddNodes at added
      split at added
      · cases added
      · have none {cc : ValkeyClusterContext} (empty : cc.nodes = []) : Entered cc [] := by
          refine ⟨?_, ?_, fun _ impossible => nomatch impossible⟩
          · rw [empty]
            exact fun _ impossible => nomatch impossible
          · rw [empty]
            exact fun _ impossible => nomatch impossible
        obtain ⟨fits, nodes, all⟩ := entered_addOptionNodes (none rfl) added
        exact ⟨fits, nodes, all⟩
    · cases accepted
  constructor
  · intro well addr member
    obtain ⟨node, inside, rfl⟩ := entered.all addr member
    exact (entered.fits node inside).mp (well node inside)
  · intro fits node member
    exact (entered.fits node member).mpr (fits _ (entered.nodes node member))

end Options

/-! ## Replies and redirects -/

section Parsing

variable (addReplicas : Bool) (host : Bytes) (base : Nat)

/-- All nodes are well addressed. -/
def AllWellAddressed (nodes : List (ValkeyClusterNode Con)) : Prop :=
  ∀ node ∈ nodes, WellAddressed node

/-- Only the addresses matter. -/
theorem allWellAddressed_of_same {nodes next : List (ValkeyClusterNode Con)}
    (same : (next.map fun node => (node.addr, node.host, node.port)) =
      nodes.map fun node => (node.addr, node.host, node.port)) :
    AllWellAddressed next ↔ AllWellAddressed nodes := by
  have through (nodes : List (ValkeyClusterNode Con)) : AllWellAddressed nodes ↔
      ∀ data ∈ nodes.map (fun node => (node.addr, node.host, node.port)),
        WellNamed data.1 data.2.1 data.2.2 := by
    rw [List.forall_mem_map]
    rfl
  rw [through next, through nodes, same]

theorem allWellAddressed_append {nodes : List (ValkeyClusterNode Con)}
    {node : ValkeyClusterNode Con} :
    AllWellAddressed (nodes ++ [node]) ↔ AllWellAddressed nodes ∧ WellAddressed node := by
  unfold AllWellAddressed
  rw [List.forall_mem_append, List.forall_mem_singleton]

theorem allWellAddressed_addSlot (nodes : List (ValkeyClusterNode Con)) (addr : Bytes)
    (slot : ClusterSlot) : AllWellAddressed (addSlot nodes addr slot) ↔ AllWellAddressed nodes := by
  apply allWellAddressed_of_same
  rw [addSlot, List.map_map]
  apply List.map_congr_left
  intro node _
  dsimp only [Function.comp]
  split
  · rfl
  · rfl

theorem range_slotsNodeEntry (entry : ReplyTree) :
    Parses (parseClusterSlotsNodeEntry host entry) fun address => portInRange address.2 = true := by
  have checked (host : Bytes) (port : ReplyTree) :
      Parses (parseClusterSlotsNodeEntry.checkPort host port)
        fun address => portInRange address.2 = true := by
    unfold parseClusterSlotsNodeEntry.checkPort
    split
    · split
      · assumption
      · trivial
    · trivial
  unfold parseClusterSlotsNodeEntry
  split
  · split
    · exact checked _ _
    · exact checked _ _
    · trivial
  · trivial

theorem wellAddressed_slotsEntry {nodes : List (ValkeyClusterNode Con)}
    (well : AllWellAddressed nodes) (entry : ReplyTree) :
    Parses (parseSlotsEntry addReplicas host base nodes entry) AllWellAddressed := by
  unfold parseSlotsEntry
  split
  · split
    · trivial
    apply (parses_trivial _).bind
    intro slot _
    apply (range_slotsNodeEntry host _).bind
    intro address inRange
    dsimp only
    split
    · exact (allWellAddressed_addSlot _ _ _).mpr well
    · apply (parses_trivial _).bind
      intro replicas _
      apply (allWellAddressed_addSlot _ _ _).mpr
      exact allWellAddressed_append.mpr ⟨well, wellAddressed_addressOf inRange rfl rfl rfl⟩
  · trivial

theorem wellAddressed_cluster_slots (reply : ReplyTree) :
    Parses (α := List (ValkeyClusterNode Con)) (parse_cluster_slots addReplicas host base reply)
      AllWellAddressed := by
  have entries {nodes : List (ValkeyClusterNode Con)} (well : AllWellAddressed nodes)
      (entries : List ReplyTree) :
      Parses (parseSlotsEntries addReplicas host base nodes entries) AllWellAddressed := by
    induction entries generalizing nodes with
    | nil => exact well
    | cons entry rest induction =>
        apply (wellAddressed_slotsEntry addReplicas host base well entry).bind
        exact fun _ next => induction next
  unfold parse_cluster_slots
  split
  · trivial
  · have none : AllWellAddressed ([] : List (ValkeyClusterNode Con)) :=
      fun _ impossible => nomatch impossible
    exact entries none _
  · trivial

/-- The part of an address field that names the node. -/
def nodeAddress (field : Bytes) : Bytes := (splitFirst '@'.toUInt8 field).1

theorem fits_parseAddress (field : Bytes) :
    Parses (parseAddress host field) fun address =>
      ∀ node : ValkeyClusterNode Con, node.addr = address.1 → node.host = address.2.1 →
        node.port = address.2.2 → (WellAddressed node ↔ FitsPort (nodeAddress field)) := by
  unfold parseAddress
  dsimp only
  split
  · trivial
  rename_i before portText found
  split
  · trivial
  rename_i accepted
  have inRange : portInRange (vkAtoi portText) = true := by simpa using accepted
  have positive : 0 < vkAtoi portText := by
    simp only [portInRange, Bool.and_eq_true, decide_eq_true_eq] at inRange
    omega
  split
  · rename_i named
    intro node addr hosts port
    exact wellAddressed_iff_fitsPort host found positive
      (fun _ => ⟨addr, hosts, fun _ => port⟩) (fun empty => absurd empty named)
  · rename_i unnamed
    intro node addr hosts port
    exact wellAddressed_iff_fitsPort host found positive (fun named => absurd named unnamed)
      (fun _ => ⟨inRange, addr, hosts, port⟩)

/-- The address of a primary that a line is about. -/
def primaryAddress (line : Bytes) : Option Bytes :=
  let (ended, _) := splitAll ' '.toUInt8 line
  match parseFlags .unknown (fields ','.toUInt8 (ended.getD 2 [])) with
  | some .primary => some (nodeAddress (ended.getD 1 []))
  | _ => none

/-- The addresses of the primaries in a reply to `CLUSTER NODES`. -/
def primaryAddresses : ReplyTree → List Bytes
  | .string text | .verb _ text => (splitAll LF (cString text)).1.filterMap primaryAddress
  | _ => []

/-- What a line says about a primary. -/
def FitsLine (line : Bytes) : ParsedLine Con → Prop
  | .primary node => ∃ addr, primaryAddress line = some addr ∧ (WellAddressed node ↔ FitsPort addr)
  | .skipped | .replica _ _ => primaryAddress line = none

theorem fits_nodes_line (id : Nat) (line : Bytes) :
    Parses (α := ParsedLine Con) (parse_cluster_nodes_line addReplicas host id line)
      (FitsLine line) := by
  unfold parse_cluster_nodes_line
  dsimp only
  split
  · trivial
  split
  · rename_i flags
    have none : primaryAddress line = none := by simp only [primaryAddress, flags]
    exact none
  · trivial
  · rename_i flags
    have none : primaryAddress line = none := by simp only [primaryAddress, flags]
    split
    · exact none
    · apply (parses_trivial _).bind
      exact fun _ _ => none
  · rename_i flags
    have some : primaryAddress line = some
        (nodeAddress ((splitAll ' '.toUInt8 line).1.getD 1 [])) := by
      simp only [primaryAddress, flags]
    apply (@fits_parseAddress Con host _).bind
    intro address fits
    exact ⟨_, some, fits _ rfl rfl rfl⟩

theorem fits_nodesLines {nodes : List (ValkeyClusterNode Con)}
    (replicas : List (Bytes × ReplicaNode Con)) (lines : List Bytes) :
    Parses (parseNodesLines addReplicas host base nodes replicas lines) fun parsed =>
      AllWellAddressed parsed.1 ↔
        AllWellAddressed nodes ∧ ∀ addr ∈ lines.filterMap primaryAddress, FitsPort addr := by
  induction lines generalizing nodes replicas with
  | nil => exact ⟨fun well => ⟨well, fun _ impossible => nomatch impossible⟩, fun both => both.1⟩
  | cons line rest induction =>
      apply (fits_nodes_line addReplicas host _ line).bind
      intro parsed fits
      cases parsed with
      | skipped =>
          have none : primaryAddress line = none := fits
          rw [List.filterMap_cons_none none]
          exact induction replicas
      | replica primaryId replica =>
          have none : primaryAddress line = none := fits
          rw [List.filterMap_cons_none none]
          exact induction _
      | primary node =>
          obtain ⟨addr, some, fits⟩ := fits
          rw [List.filterMap_cons_some some, List.forall_mem_cons]
          dsimp only
          split
          · trivial
          · apply (induction replicas).mono
            intro result all
            rw [all, allWellAddressed_append, fits, and_assoc]

theorem fits_cluster_nodes (reply : ReplyTree) :
    Parses (α := List (ValkeyClusterNode Con)) (parse_cluster_nodes addReplicas host base reply)
      fun nodes => AllWellAddressed nodes ↔ ∀ addr ∈ primaryAddresses reply, FitsPort addr := by
  have ofText (text : Bytes) : Parses (α := List (ValkeyClusterNode Con))
      (parseNodesText addReplicas host base text) fun nodes => AllWellAddressed nodes ↔
        ∀ addr ∈ (splitAll LF (cString text)).1.filterMap primaryAddress, FitsPort addr := by
    apply (fits_nodesLines addReplicas host base [] _).bind
    intro parsed fits
    dsimp only
    split
    · trivial
    · have same := @map_store_replica_nodes Con parsed.1 _
        (fun node => (node.addr, node.host, node.port)) (fun _ _ => rfl) parsed.2
      have kept := allWellAddressed_of_same same
      refine kept.trans (fits.trans ⟨fun both => both.2, fun all => ⟨?_, all⟩⟩)
      exact fun _ impossible => nomatch impossible
  unfold parse_cluster_nodes
  split
  · exact ofText _
  · exact ofText _
  · trivial

/-- The third word of a redirect. -/
def redirectAddress (str : Bytes) : Bytes := (fields ' '.toUInt8 (cString str)).getD 2 []

theorem fits_redirect (str : Bytes) (id : Nat) :
    Parses (parseRedirect host str) fun redirect =>
      WellAddressed (redirectNode id redirect : ValkeyClusterNode Con) ↔
        FitsPort (redirectAddress str) := by
  unfold parseRedirect
  split
  · trivial
  rename_i addr third
  have same : redirectAddress str = addr := by
    rw [redirectAddress, List.getD_eq_getElem?_getD, third, Option.getD_some]
  rw [same]
  split
  · trivial
  rename_i before portText found
  dsimp only
  split
  · trivial
  rename_i accepted
  have inRange : portInRange (vkAtoi portText) = true := by simpa using accepted
  have positive : 0 < vkAtoi portText := by
    simp only [portInRange, Bool.and_eq_true, decide_eq_true_eq] at inRange
    omega
  split
  · rename_i named
    exact wellAddressed_iff_fitsPort host found positive
      (fun _ => ⟨rfl, rfl, fun _ => rfl⟩) (fun empty => absurd empty named)
  · rename_i unnamed
    exact wellAddressed_iff_fitsPort host found positive (fun named => absurd named unnamed)
      (fun _ => ⟨inRange, rfl, rfl, rfl⟩)

end Parsing

/-! ## All ways in -/

/-- The nodes of an accepted text are well addressed if and only if no address in it gives a
number above 65535 as the port of a host. Those of a reply to `CLUSTER SLOTS` always are. -/
theorem nodes_well_addressed (options : ValkeyClusterOptions) (addReplicas : Bool) (host : Bytes)
    (base : Nat) (reply : ReplyTree) (str : Bytes) :
    (∀ addrs cc, options.initialNodes = some addrs → valkeyClusterContextInit options = (.ok, cc) →
      (AllWellAddressed cc.nodes ↔ ∀ addr ∈ splitAddresses addrs, FitsPort addr)) ∧
    (∀ nodes : List (ValkeyClusterNode ValkeyContext),
      parse_cluster_slots addReplicas host base reply = .ok nodes → AllWellAddressed nodes) ∧
    (∀ nodes : List (ValkeyClusterNode ValkeyContext),
      parse_cluster_nodes addReplicas host base reply = .ok nodes →
        (AllWellAddressed nodes ↔ ∀ addr ∈ primaryAddresses reply, FitsPort addr)) ∧
    ∀ redirect, parseRedirect host str = .ok redirect →
      (WellAddressed (redirectNode base redirect : ValkeyClusterNode ValkeyContext) ↔
        FitsPort (redirectAddress str)) := by
  refine ⟨?_, ?_, ?_, ?_⟩
  · intro addrs cc named accepted
    exact wellAddressed_options named accepted
  · intro nodes parsed
    exact (wellAddressed_cluster_slots addReplicas host base reply).of_ok parsed
  · intro nodes parsed
    exact (fits_cluster_nodes addReplicas host base reply).of_ok parsed
  · intro redirect parsed
    exact (fits_redirect host str base).of_ok parsed

/-- Options with initial nodes and nothing else. -/
def onlyNodes (addrs : Bytes) : ValkeyClusterOptions where
  initialNodes := some addrs
  options := 0
  username := none
  password := none
  maxRetry := 0
  selectDb := 0
  commandTimeout := false
  tls := false
  eventCallback := false
  asyncConnectCallback := false
  asyncDisconnectCallback := false
  attachFn := true
  hasTimer := false

theorem nodes_well_addressed_pair :
    AllWellAddressed (valkeyClusterContextInit (onlyNodes (ascii "a:1,b:65535"))).2.nodes ↔
      ∀ addr ∈ splitAddresses (ascii "a:1,b:65535"), FitsPort addr :=
  (nodes_well_addressed (onlyNodes (ascii "a:1,b:65535")) false [] 0 (.status []) []).1
    (ascii "a:1,b:65535") _ rfl rfl

theorem not_fitsPort {addr : Bytes} (before portText : Bytes)
    (found : splitLast ':'.toUInt8 addr = some (before, portText)) (named : before ≠ [])
    (large : 65535 < Decimal.accumulate 0 portText) : ¬FitsPort addr :=
  fun fits => absurd (fits before portText found named) (not_le.mpr large)

/-- A port above 65535 is cut to 16 bits, and one above the range of an `int` wraps around. -/
theorem port_out_of_range :
    (∃ cc, valkeyClusterContextInit (onlyNodes (ascii "a:70000")) = (.ok, cc) ∧
        cc.nodes.map (·.port) = [4464] ∧ ¬AllWellAddressed cc.nodes) ∧
      ∃ redirect, parseRedirect [] (ascii "MOVED 0 a:4294973295") = .ok redirect ∧
        redirect.port = 5999 ∧
          ¬WellAddressed (redirectNode 0 redirect : ValkeyClusterNode ValkeyContext) := by
  constructor
  · have accepted : valkeyClusterContextInit (onlyNodes (ascii "a:70000")) = (.ok, _) := rfl
    refine ⟨_, accepted, rfl, fun well => ?_⟩
    have fits := (wellAddressed_options rfl accepted).mp well
    exact not_fitsPort (ascii "a") (ascii "70000") rfl (by decide) (by decide)
      (fits (ascii "a:70000") (by decide))
  · have parsed : parseRedirect [] (ascii "MOVED 0 a:4294973295") =
        .ok ⟨0, ascii "a:4294973295", ascii "a", 5999⟩ := by
      decide +kernel
    refine ⟨_, parsed, rfl, fun well => ?_⟩
    have fits := ((fits_redirect [] (ascii "MOVED 0 a:4294973295") 0).of_ok parsed).mp well
    exact not_fitsPort (ascii "a") (ascii "4294973295") rfl (by decide) (by decide) fits

end Libvalkey
