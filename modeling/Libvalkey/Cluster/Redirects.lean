import Libvalkey.Cluster.Appending
import Libvalkey.Cluster.Numbers

/-! # Redirects

`getNodeFromRedirectReply` finds the node that a redirect names, or adds it. -/

namespace Libvalkey

open Checked ValkeyClusterContext

variable {Con : Type}

/-! ## The function with its allocations -/

/-- Which allocations of `getNodeFromRedirectReply` succeed. -/
structure RedirectMemory where
  key : Bool
  endpoint : Bool
  /-- The key with the port, where the redirect names no host. -/
  keyWithPort : Bool
  node : Bool
  addr : Bool
  /-- The entry of the dictionary. -/
  entry : Bool
  deriving DecidableEq, Repr

def RedirectMemory.enough : RedirectMemory := ⟨true, true, true, true, true, true⟩

/-- The key and the endpoint of a redirect with the given address. `host` is the address that
the reply was received from. -/
def redirectTexts (memory : RedirectMemory) (host addr before : Bytes) (port : Int) :
    Option (Bytes × Bytes) :=
  if before ≠ [] then
    if memory.key ∧ memory.endpoint then some (addr, before) else none
  else if memory.endpoint ∧ memory.key ∧ memory.keyWithPort then
    some (addressOf host port, cString host)
  else none

/-- `getNodeFromRedirectReply` -/
def getNodeFromRedirectReplyWith (memory : RedirectMemory) (cc : ValkeyClusterContext) (c : Nat)
    (str : Bytes) : Except Fault (Option (Nat × Int) × ValkeyClusterContext) := do
  let con ← cc.context c
  match (fields ' '.toUInt8 (cString str))[2]? with
  | none => return (none, cc.setError .other (ascii "Failed to parse redirect"))
  | some addr =>
      match splitLast ':'.toUInt8 addr with
      | none => return (none, cc.setError .other (ascii "Invalid address in redirect"))
      | some (before, portText) =>
          let port := vkAtoi portText
          if ¬portInRange port then
            return (none, cc.setError .other (ascii "Invalid port in redirect"))
          else
            match redirectTexts memory con.host addr before port with
            | none => return (none, cc.outOfMemory)
            | some (key, endpoint) =>
                match findByAddr cc.nodes key with
                | some node => return (some (node.id, redirectSlot str), cc)
                | none =>
                    if memory.node ∧ memory.addr ∧ memory.entry then
                      return (some (cc.nextNode, redirectSlot str),
                        cc.addNode ⟨redirectSlot str, key, endpoint, port⟩)
                    else return (none, cc.outOfMemory)

section Redirect

variable {cc next : ValkeyClusterContext} {c : Nat} {con : ValkeyContext} {str : Bytes}

/-- With enough memory, it is the function that the executor calls. -/
theorem getNodeFromRedirectReplyWith_enough (context : cc.context c = .ok con) :
    getNodeFromRedirectReplyWith .enough cc c str = getNodeFromRedirectReply cc c str := by
  unfold getNodeFromRedirectReplyWith getNodeFromRedirectReply parseRedirect redirectTexts
  rw [context, bind_ok, bind_ok]
  cases third : (fields ' '.toUInt8 (cString str))[2]? with
  | none => rfl
  | some addr =>
      dsimp only
      cases found : splitLast ':'.toUInt8 addr with
      | none => rfl
      | some parts =>
          dsimp only
          by_cases inRange : portInRange (vkAtoi parts.2) = true
          · rw [if_neg (not_not.mpr inRange), if_neg (not_not.mpr inRange)]
            by_cases named : parts.1 ≠ []
            · rw [if_pos named, if_pos named, if_pos ⟨rfl, rfl⟩]
              dsimp only
              cases findByAddr cc.nodes addr <;> rfl
            · rw [if_neg named, if_neg named, if_pos ⟨rfl, rfl, rfl⟩]
              dsimp only
              cases findByAddr cc.nodes (addressOf con.host (vkAtoi parts.2)) <;> rfl
          · rw [if_pos inRange, if_pos inRange]

/-- Without a node, an error is set and the nodes are as before. -/
structure Refused (cc next : ValkeyClusterContext) : Prop where
  err : next.err ≠ none
  nodes : next.nodes = cc.nodes

theorem refused_setError (type : ErrorType) (text : Bytes) : Refused cc (cc.setError type text) :=
  ⟨Option.some_ne_none type, rfl⟩

/-- The node of a redirect, which is added if it is not known. -/
inductive Followed (cc : ValkeyClusterContext) (redirect : Redirect) :
    Option (Nat × Int) → ValkeyClusterContext → Prop
  | known {node : ValkeyClusterNode ValkeyContext}
      (found : findByAddr cc.nodes redirect.key = some node) :
      Followed cc redirect (some (node.id, redirect.slot)) cc
  | added (unknown : findByAddr cc.nodes redirect.key = none) :
      Followed cc redirect (some (cc.nextNode, redirect.slot)) (cc.addNode redirect)

theorem getNodeFromRedirectReply_cases (context : cc.context c = .ok con) (str : Bytes) :
    ∃ target next, getNodeFromRedirectReply cc c str = .ok (target, next) ∧
      ((target = none ∧ Refused cc next) ∨
        ∃ redirect, parseRedirect con.host str = .ok redirect ∧
          Followed cc redirect target next) := by
  unfold getNodeFromRedirectReply
  rw [context, bind_ok]
  cases parsed : parseRedirect con.host str with
  | error message => exact ⟨_, _, rfl, .inl ⟨rfl, refused_setError _ _⟩⟩
  | ok redirect =>
      dsimp only
      cases found : findByAddr cc.nodes redirect.key with
      | some node => exact ⟨_, _, rfl, .inr ⟨redirect, rfl, .known found⟩⟩
      | none => exact ⟨_, _, rfl, .inr ⟨redirect, rfl, .added found⟩⟩

theorem redirectTexts_eq (memory : RedirectMemory) (host addr before : Bytes) (port : Int) :
    redirectTexts memory host addr before port = redirectTexts .enough host addr before port ∨
      redirectTexts memory host addr before port = none := by
  unfold redirectTexts
  split
  · split
    · exact .inl (if_pos ⟨rfl, rfl⟩).symm
    · exact .inr rfl
  · split
    · exact .inl (if_pos ⟨rfl, rfl, rfl⟩).symm
    · exact .inr rfl

/-- An allocation that fails only makes the call fail. -/
theorem getNodeFromRedirectReplyWith_eq (memory : RedirectMemory) (context : cc.context c = .ok con)
    (str : Bytes) :
    getNodeFromRedirectReplyWith memory cc c str = getNodeFromRedirectReply cc c str ∨
      getNodeFromRedirectReplyWith memory cc c str = .ok (none, cc.outOfMemory) := by
  rw [← getNodeFromRedirectReplyWith_enough context]
  unfold getNodeFromRedirectReplyWith
  rw [context, bind_ok, bind_ok]
  split
  · exact .inl rfl
  rename_i addr _
  split
  · exact .inl rfl
  rename_i before portText _
  dsimp only
  split
  · exact .inl rfl
  rcases redirectTexts_eq memory con.host addr before (vkAtoi portText) with same | none
  · rw [same]
    split
    · exact .inl rfl
    rename_i key endpoint _
    cases findByAddr cc.nodes key with
    | some node => exact .inl rfl
    | none =>
        by_cases allocated : memory.node ∧ memory.addr ∧ memory.entry
        · exact .inl ((if_pos allocated).trans (if_pos ⟨rfl, rfl, rfl⟩).symm)
        · exact .inr (if_neg allocated)
  · rw [none]
    exact .inr rfl

/-- With any memory, either there is no node and an error, or the redirect is followed. -/
theorem getNodeFromRedirectReplyWith_cases (memory : RedirectMemory)
    (context : cc.context c = .ok con) (str : Bytes) :
    ∃ target next, getNodeFromRedirectReplyWith memory cc c str = .ok (target, next) ∧
      ((target = none ∧ Refused cc next) ∨
        ∃ redirect, parseRedirect con.host str = .ok redirect ∧
          Followed cc redirect target next) := by
  rcases getNodeFromRedirectReplyWith_eq memory context str with same | failed
  · rw [same]
    exact getNodeFromRedirectReply_cases context str
  · exact ⟨_, _, failed, .inl ⟨rfl, refused_setError _ _⟩⟩

/-! ## The addresses of the known nodes -/

/-- A node whose address gives a port in the right range has this port and the host before it. -/
def AddressesAgree (nodes : List (ValkeyClusterNode Con)) : Prop :=
  ∀ node ∈ nodes, FitsPort node.addr → WellAddressed node

theorem agree_of_same {nodes next : List (ValkeyClusterNode Con)}
    (same : (next.map fun node => (node.addr, node.host, node.port)) =
      nodes.map fun node => (node.addr, node.host, node.port)) (agree : AddressesAgree nodes) :
    AddressesAgree next := by
  intro node member fits
  have data : (node.addr, node.host, node.port) ∈
      nodes.map fun node => (node.addr, node.host, node.port) := by
    rw [← same]
    exact List.mem_map_of_mem member
  obtain ⟨old, inNodes, equal⟩ := List.mem_map.mp data
  obtain ⟨addr, rest⟩ := Prod.mk.inj equal
  obtain ⟨host, port⟩ := Prod.mk.inj rest
  have well := agree old inNodes (addr ▸ fits)
  unfold WellAddressed at well
  rwa [addr, host, port] at well

theorem agree_append {nodes : List (ValkeyClusterNode Con)} {node : ValkeyClusterNode Con}
    (agree : AddressesAgree nodes) (own : FitsPort node.addr → WellAddressed node) :
    AddressesAgree (nodes ++ [node]) := by
  intro other member
  rcases List.mem_append.mp member with old | new
  · exact agree other old
  · rw [List.mem_singleton.mp new]
    exact own

theorem positive_of_portInRange {port : Int} (inRange : portInRange port = true) : 0 < port := by
  have bounds := (portInRange_iff port).mp inRange
  omega

/-- A node that is entered under a text. -/
theorem agrees_text {node : ValkeyClusterNode Con} {before portText : Bytes}
    (found : splitLast ':'.toUInt8 node.addr = some (before, portText)) (named : before ≠ [])
    (inRange : portInRange (vkAtoi portText) = true) (host : node.host = before)
    (port : node.port = vkAtoi portText) (fits : FitsPort node.addr) : WellAddressed node := by
  have parts : node.addr = node.host ++ ':'.toUInt8 :: portText := host ▸ splitLast_eq found
  apply (wellAddressed_iff parts (positive_of_portInRange inRange) fun _ => port).mpr
  exact fits before portText found named

theorem agrees_parseAddress (host field : Bytes) :
    Parses (parseAddress host field) fun address => ∀ node : ValkeyClusterNode Con,
      node.addr = address.1 → node.host = address.2.1 → node.port = address.2.2 →
        FitsPort node.addr → WellAddressed node := by
  unfold parseAddress
  dsimp only
  split
  · trivial
  rename_i before portText found
  split
  · trivial
  rename_i accepted
  have inRange : portInRange (vkAtoi portText) = true := not_not.mp accepted
  split
  · rename_i named
    intro node addr hosts port
    exact agrees_text (addr ▸ found) named inRange hosts port
  · intro node addr hosts port _
    exact wellAddressed_addressOf inRange addr hosts port

theorem agrees_redirect (host str : Bytes) (id : Nat) :
    Parses (parseRedirect host str) fun redirect =>
      FitsPort redirect.key → WellAddressed (redirectNode id redirect : ValkeyClusterNode Con) := by
  unfold parseRedirect
  split
  · trivial
  split
  · trivial
  rename_i before portText found
  dsimp only
  split
  · trivial
  rename_i accepted
  have inRange : portInRange (vkAtoi portText) = true := not_not.mp accepted
  split
  · rename_i named
    exact fun fits => agrees_text found named inRange rfl rfl fits
  · exact fun _ => wellAddressed_addressOf inRange rfl rfl rfl

theorem agree_nodes_line (addReplicas : Bool) (host : Bytes) (id : Nat) (line : Bytes) :
    Parses (α := ParsedLine Con) (parse_cluster_nodes_line addReplicas host id line) fun parsed =>
      ∀ node, parsed = .primary node → FitsPort node.addr → WellAddressed node := by
  unfold parse_cluster_nodes_line
  dsimp only
  split
  · trivial
  split
  · exact fun _ impossible => nomatch impossible
  · trivial
  · split
    · exact fun _ impossible => nomatch impossible
    · apply (parses_trivial _).bind
      exact fun _ _ _ impossible => nomatch impossible
  · apply (@agrees_parseAddress Con host _).bind
    intro address agrees node same
    obtain rfl := ParsedLine.primary.inj same
    exact agrees _ rfl rfl rfl

theorem agree_nodesLines (addReplicas : Bool) (host : Bytes) (base : Nat)
    {nodes : List (ValkeyClusterNode Con)} (agree : AddressesAgree nodes)
    (replicas : List (Bytes × ReplicaNode Con)) (lines : List Bytes) :
    Parses (parseNodesLines addReplicas host base nodes replicas lines) fun parsed =>
      AddressesAgree parsed.1 := by
  induction lines generalizing nodes replicas with
  | nil => exact agree
  | cons line rest induction =>
      apply (agree_nodes_line addReplicas host _ line).bind
      intro parsed own
      cases parsed with
      | skipped => exact induction agree replicas
      | replica primaryId replica => exact induction agree _
      | primary node =>
          dsimp only
          split
          · trivial
          · exact induction (agree_append agree (own node rfl)) replicas

theorem agree_cluster_nodes (addReplicas : Bool) (host : Bytes) (base : Nat) (reply : ReplyTree) :
    Parses (α := List (ValkeyClusterNode Con)) (parse_cluster_nodes addReplicas host base reply)
      AddressesAgree := by
  have ofText (text : Bytes) : Parses (α := List (ValkeyClusterNode Con))
      (parseNodesText addReplicas host base text) AddressesAgree := by
    have none : AddressesAgree ([] : List (ValkeyClusterNode Con)) :=
      fun _ impossible => nomatch impossible
    apply (agree_nodesLines addReplicas host base none [] _).bind
    intro parsed agree
    dsimp only
    split
    · trivial
    · exact agree_of_same (map_store_replica_nodes _ (fun _ _ => rfl) parsed.2) agree
  unfold parse_cluster_nodes
  split
  · exact ofText _
  · exact ofText _
  · trivial

/-- So do the nodes of every reply that a slot map is made of. -/
theorem agree_parseRouteReply (cc : ValkeyClusterContext) (host : Bytes) (reply : ReplyTree) :
    Parses (parseRouteReply cc host reply) AddressesAgree := by
  unfold parseRouteReply
  split
  · exact agree_cluster_nodes cc.addReplicas host cc.nextNode reply
  · apply (wellAddressed_cluster_slots cc.addReplicas host cc.nextNode reply).mono
    exact fun nodes well node member _ => well node member

/-- And those that take their place in a client. -/
theorem agree_replaceNodes (cc : ValkeyClusterContext) (table : List (Option Nat))
    {nodes : List (ValkeyClusterNode ValkeyContext)} (agree : AddressesAgree nodes) :
    AddressesAgree (cc.replaceNodes table nodes).nodes := by
  apply agree_of_same _ agree
  unfold ValkeyClusterContext.replaceNodes cluster_nodes_swap_ctx
  rw [List.map_map]
  apply List.map_congr_left
  intro node _
  dsimp only [Function.comp]
  split
  · rfl
  · rfl

/-- And the initial nodes. -/
theorem agree_options {addrs : List Bytes} (entered : Entered cc addrs) : AddressesAgree cc.nodes :=
  fun node member fits => (entered.fits node member).mpr fits

theorem Followed.agree {redirect : Redirect} {target : Option (Nat × Int)} {host str : Bytes}
    (parsed : parseRedirect host str = .ok redirect) (agree : AddressesAgree cc.nodes)
    (followed : Followed cc redirect target next) : AddressesAgree next.nodes := by
  cases followed with
  | known => exact agree
  | added unknown => exact agree_append agree ((agrees_redirect host str cc.nextNode).of_ok parsed)

/-! ## Texts -/

/-- The text of a redirect. -/
def renderRedirect (word : Bytes) (slot : Nat) (host : Bytes) (port : Nat) : Bytes :=
  word ++ ' '.toUInt8 ::
    (Decimal.ofNat slot ++ ' '.toUInt8 :: (host ++ ':'.toUInt8 :: Decimal.ofNat port))

/-- The host of a redirect that was received from `sender`. -/
def redirectHost (sender host : Bytes) : Bytes := if host = [] then cString sender else host

/-- The address of a host and a port. -/
def redirectKey (sender host : Bytes) (port : Nat) : Bytes :=
  redirectHost sender host ++ ':'.toUInt8 :: Decimal.ofNat port

theorem parseRedirect_render (sender : Bytes) {word host : Bytes} {slot port : Nat}
    (words : ' '.toUInt8 ∉ word ∧ 0 ∉ word) (plain : ' '.toUInt8 ∉ host ∧ 0 ∉ host)
    (slots : slot ≤ 16383) (ports : 1 ≤ port ∧ port ≤ 65535) :
    parseRedirect sender (renderRedirect word slot host port) =
      .ok ⟨slot, redirectKey sender host port, redirectHost sender host, port⟩ := by
  have digits (value : Nat) {byte : UInt8} (other : Decimal.isDigit byte = false) :
      byte ∉ Decimal.ofNat value := not_mem_digits other (Decimal.isDigit_of_mem_ofNat value)
  have address {byte : UInt8} (other : Decimal.isDigit byte = false) (colon : byte ≠ ':'.toUInt8)
      (apart : byte ∉ host) : byte ∉ host ++ ':'.toUInt8 :: Decimal.ofNat port := by
    rw [List.mem_append, List.mem_cons, not_or, not_or]
    exact ⟨apart, colon, digits port other⟩
  have noSpace : ∀ part ∈ [word, Decimal.ofNat slot], ' '.toUInt8 ∉ part := by
    rintro part member
    rcases List.mem_pair.mp member with rfl | rfl
    · exact words.1
    · exact digits slot (by decide)
  have noNul : ∀ part ∈ [word, Decimal.ofNat slot, host ++ ':'.toUInt8 :: Decimal.ofNat port],
      0 ∉ part := by
    rintro part member
    rcases List.mem_cons.mp member with rfl | member
    · exact words.2
    rcases List.mem_pair.mp member with rfl | rfl
    · exact digits slot (by decide)
    · exact address (by decide) (by decide) plain.2
  have parts := fields_redirect word (Decimal.ofNat slot)
    (host ++ ':'.toUInt8 :: Decimal.ofNat port)
    noSpace (address (by decide) (by decide) plain.1) (by simp) noNul
  have found :=
    splitLast_append host (digits port (by decide : Decimal.isDigit ':'.toUInt8 = false))
  have portRead : vkAtoi (Decimal.ofNat port) = port := vkAtoi_ofNat (by omega)
  have slotRead : redirectSlot (renderRedirect word slot host port) = slot := by
    rw [redirectSlot, renderRedirect, parts]
    exact vkAtoi_ofNat (by omega)
  have third : (fields ' '.toUInt8 (cString (renderRedirect word slot host port)))[2]? =
      some (host ++ ':'.toUInt8 :: Decimal.ofNat port) := by
    rw [renderRedirect, parts]
    rfl
  have inRange : portInRange port = true := (portInRange_iff port).mpr (by omega)
  rw [parseRedirect, third]
  dsimp only
  rw [found]
  dsimp only
  rw [portRead, slotRead, if_neg (not_not.mpr inRange)]
  unfold redirectKey redirectHost
  by_cases empty : host = []
  · rw [if_neg (not_not.mpr empty), if_pos empty]
    rfl
  · rw [if_pos empty, if_neg empty]

/-- The node of a redirect is the known node of its address, or it is the one that is added. -/
structure Redirected (cc next : ValkeyClusterContext) (node : ValkeyClusterNode ValkeyContext)
    (key host : Bytes) (port : Nat) : Prop where
  addr : node.addr = key
  host : node.host = host
  port : node.port = port
  known : (∃ known ∈ cc.nodes, known.addr = key) → node ∈ cc.nodes ∧ next = cc
  unknown : (¬∃ known ∈ cc.nodes, known.addr = key) → next.nodes = cc.nodes ++ [node]

/-- A known node has the host and the port that its address says. -/
theorem wellNamed_unique {host other : Bytes} {port : Nat} {value : Int}
    (named : WellNamed (host ++ ':'.toUInt8 :: Decimal.ofNat port) other value) :
    other = host ∧ value = port := by
  obtain ⟨text, same, decimal, _, _, rfl⟩ := named
  have split := splitLast_append host
    (not_mem_digits (by decide : Decimal.isDigit ':'.toUInt8 = false)
      (Decimal.isDigit_of_mem_ofNat port))
  have again := splitLast_append other
    (not_mem_digits (by decide : Decimal.isDigit ':'.toUInt8 = false) decimal.2)
  rw [same, again, Option.some.injEq, Prod.mk.injEq] at split
  refine ⟨split.1, ?_⟩
  rw [split.2, Decimal.accumulate_ofNat]

theorem fitsPort_of_number {host : Bytes} {port : Nat} (small : port ≤ 65535) :
    FitsPort (host ++ ':'.toUInt8 :: Decimal.ofNat port) := by
  intro before text found _
  rw [splitLast_append host (not_mem_digits (by decide : Decimal.isDigit ':'.toUInt8 = false)
    (Decimal.isDigit_of_mem_ofNat port)), Option.some.injEq, Prod.mk.injEq] at found
  rw [← found.2, Decimal.accumulate_ofNat]
  exact small

theorem Followed.redirected {slot : Int} {host : Bytes} {port : Nat} {target : Option (Nat × Int)}
    (agree : AddressesAgree cc.nodes) (small : port ≤ 65535)
    (followed : Followed cc ⟨slot, host ++ ':'.toUInt8 :: Decimal.ofNat port, host, port⟩
      target next) :
    ∃ node, target = some (node.id, slot) ∧
      Redirected cc next node (host ++ ':'.toUInt8 :: Decimal.ofNat port) host port := by
  cases followed with
  | @known node found =>
      have member := List.mem_of_find?_eq_some found
      have addr : node.addr = host ++ ':'.toUInt8 :: Decimal.ofNat port := by
        simpa using List.find?_some found
      have well := agree node member (addr.symm ▸ fitsPort_of_number small)
      rw [WellAddressed, addr] at well
      obtain ⟨sameHost, samePort⟩ := wellNamed_unique well
      refine ⟨node, rfl, addr, sameHost, samePort, fun _ => ⟨member, rfl⟩, fun none => ?_⟩
      exact absurd ⟨node, member, addr⟩ none
  | added unknown =>
      refine ⟨redirectNode cc.nextNode ⟨slot, _, host, port⟩, rfl, rfl, rfl, rfl, ?_, fun _ => rfl⟩
      rintro ⟨node, member, addr⟩
      exact absurd addr (by simpa using List.find?_eq_none.mp unknown node member)

/-- A redirect with a rendered address gives the node of this address and the slot, known or added,
unless an allocation fails. Whatever the text is, without a node there is an error and the
nodes are as before. -/
theorem redirect_undoes_rendering (context : cc.context c = .ok con)
    (agree : AddressesAgree cc.nodes) {word host : Bytes} {slot port : Nat}
    (words : word = ascii "MOVED" ∨ word = ascii "ASK")
    (plain : ' '.toUInt8 ∉ host ∧ 0 ∉ host) (slots : slot ≤ 16383)
    (ports : 1 ≤ port ∧ port ≤ 65535) :
    (∃ node next, getNodeFromRedirectReplyWith .enough cc c (renderRedirect word slot host port) =
        .ok (some (node.id, (slot : Int)), next) ∧
      Redirected cc next node (redirectKey con.host host port) (redirectHost con.host host) port) ∧
    (∀ memory target next,
      getNodeFromRedirectReplyWith memory cc c (renderRedirect word slot host port) =
        .ok (some target, next) →
      ∃ node, target = (node.id, (slot : Int)) ∧
        Redirected cc next node (redirectKey con.host host port) (redirectHost con.host host)
          port) ∧
    ∀ memory str, ∃ target next, getNodeFromRedirectReplyWith memory cc c str = .ok (target, next) ∧
      (target = none → Refused cc next) := by
  have clean : ' '.toUInt8 ∉ word ∧ 0 ∉ word := by
    rcases words with rfl | rfl <;> decide
  have rendered := parseRedirect_render con.host clean plain slots ports
  have follows {target : Option (Nat × Int)} {next : ValkeyClusterContext}
      (followed : Followed cc ⟨slot, redirectKey con.host host port,
        redirectHost con.host host, port⟩
        target next) := followed.redirected agree ports.2
  refine ⟨?_, ?_, ?_⟩
  · rw [getNodeFromRedirectReplyWith_enough context]
    unfold getNodeFromRedirectReply
    rw [context, bind_ok, rendered]
    dsimp only
    cases found : findByAddr cc.nodes (redirectKey con.host host port) with
    | some known =>
        obtain ⟨node, target, redirected⟩ := follows (.known found)
        exact ⟨node, _, congrArg (fun target => Except.ok (target, cc)) target, redirected⟩
    | none =>
        obtain ⟨node, target, redirected⟩ := follows (.added found)
        exact ⟨node, _, congrArg (fun target => Except.ok (target, _)) target, redirected⟩
  · intro memory target next result
    obtain ⟨other, last, again, cases⟩ := getNodeFromRedirectReplyWith_cases memory context
      (renderRedirect word slot host port)
    rw [result] at again
    cases again
    rcases cases with ⟨impossible, _⟩ | ⟨redirect, parsed, followed⟩
    · cases impossible
    · rw [rendered] at parsed
      cases parsed
      obtain ⟨node, same, redirected⟩ := follows followed
      exact ⟨node, Option.some.inj same, redirected⟩
  · intro memory str
    obtain ⟨target, next, result, cases⟩ := getNodeFromRedirectReplyWith_cases memory context str
    refine ⟨target, next, result, fun none => ?_⟩
    rcases cases with ⟨_, refused⟩ | ⟨_, _, followed⟩
    · exact refused
    · subst none
      cases followed

end Redirect

/-- An open connection to the first of two nodes. -/
def redirectSender : ValkeyContext where
  id := 0
  session := 0
  err := none
  host := ascii "a"
  obuf := []
  unanswered := []
  arrived := []
  answered := []

def redirectedNodes : ValkeyClusterContext :=
  { twoNodes with
    nodes := [{ exampleNode 0 (ascii "a") 1 with con := some redirectSender },
      exampleNode 1 (ascii "b") 2] }

theorem redirect_undoes_rendering_two :
    ∃ node next, getNodeFromRedirectReplyWith .enough redirectedNodes 0
        (renderRedirect (ascii "MOVED") 5 (ascii "::1") 7000) = .ok (some (node.id, 5), next) ∧
      Redirected redirectedNodes next node (ascii "::1:7000") (ascii "::1") 7000 := by
  have agree : AddressesAgree redirectedNodes.nodes := by
    rintro node member -
    rcases List.mem_pair.mp member with rfl | rfl
    · exact ⟨ascii "1", rfl, ⟨by decide, by decide +kernel⟩, by decide, by decide, rfl⟩
    · exact ⟨ascii "2", rfl, ⟨by decide, by decide +kernel⟩, by decide, by decide, rfl⟩
  exact (redirect_undoes_rendering (rfl : redirectedNodes.context 0 = .ok redirectSender) agree
    (.inl rfl) ⟨by decide, by decide⟩ (by decide : 5 ≤ 16383)
    (⟨by decide, by decide⟩ : 1 ≤ 7000 ∧ 7000 ≤ 65535)).1

end Libvalkey
