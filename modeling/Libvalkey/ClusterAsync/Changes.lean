import Mathlib.Logic.Relation
import Libvalkey.Cluster.Changes
import Libvalkey.ClusterAsync.Machine

/-! # What the functions of the asynchronous cluster client change

They make changes of a few kinds, one after another. -/

namespace Libvalkey

open Checked

variable {Fn Data : Type}

/-- The nodes and their connections stay, and so does the table. -/
structure Calm (cc next : ValkeyClusterContext) : Prop where
  names : ValkeyClusterContext.SameNames cc next
  owners : owners next.nodes = owners cc.nodes
  maxRetryCount : next.maxRetryCount = cc.maxRetryCount

namespace Calm

variable {cc next last : ValkeyClusterContext}

theorem of_fields (nodes : next.nodes = cc.nodes) (table : next.table = cc.table)
    (nextNode : next.nextNode = cc.nextNode) (nextContext : next.nextContext = cc.nextContext)
    (maxRetryCount : next.maxRetryCount = cc.maxRetryCount) : Calm cc next :=
  ⟨.of_fields nodes table nextNode nextContext, by rw [nodes], maxRetryCount⟩

theorem refl (cc : ValkeyClusterContext) : Calm cc cc := of_fields rfl rfl rfl rfl rfl

theorem setError (cc : ValkeyClusterContext) (type : ErrorType) (str : Bytes) :
    Calm cc (cc.setError type str) :=
  of_fields rfl rfl rfl rfl rfl

theorem clearError (cc : ValkeyClusterContext) : Calm cc cc.clearError :=
  of_fields rfl rfl rfl rfl rfl

end Calm

theorem ownersOf_assignAttempt (target : Addressee) (time : Int)
    (node : ValkeyClusterNode ValkeyContext) :
    ownersOf (assignAttempt target time node) = ownersOf node := by
  simp only [ownersOf, assignAttempt, List.mapIdx_mapIdx]
  rfl

theorem owners_assignAttempt (target : Addressee) (time : Int)
    (nodes : List (ValkeyClusterNode ValkeyContext)) :
    owners (nodes.map (assignAttempt target time)) = owners nodes := by
  rw [owners, List.flatMap_map]
  simp only [ownersOf_assignAttempt, owners]

theorem connections_assignAttempt (target : Addressee) (time : Int)
    (node : ValkeyClusterNode ValkeyContext) :
    (assignAttempt target time node).connections = node.connections := by
  simp only [ValkeyClusterNode.connections, assignAttempt]
  congr 1
  rw [List.mapIdx_eq_zipIdx_map, List.filterMap_map]
  conv_rhs => rw [← List.zipIdx_map_fst 0 node.replicas]
  rw [List.filterMap_map]
  rfl

/-- A connection right after `valkeyClusterGetValkeyAsyncContext` has made it. -/
def openedConnection (acc : ValkeyClusterAsyncContext Fn Data) (node : Addressee) (host : Bytes) :
    Connection :=
  (((newConnection acc host none).authenticate acc).2.selectDb acc).2.attach acc node

section Changes

/-- The kinds of changes. -/
inductive Change :
    ValkeyClusterAsyncContext Fn Data → ValkeyClusterAsyncContext Fn Data → Prop
  | quiet (acc : ValkeyClusterAsyncContext Fn Data) {cc : ValkeyClusterContext}
      (calm : Calm acc.cc cc) (err : Option ErrorType) (ticks draws : Nat) :
      Change acc { acc with cc := cc, err := err, ticks := ticks, draws := draws }
  | number (acc : ValkeyClusterAsyncContext Fn Data) {nextConnection nextRecord : Nat}
      (connections : acc.nextConnection ≤ nextConnection) (records : acc.nextRecord ≤ nextRecord) :
      Change acc { acc with nextConnection := nextConnection, nextRecord := nextRecord }
  | stamp (acc : ValkeyClusterAsyncContext Fn Data) (idle : acc.lastSlotmapUpdateAttempt ≠ .ongoing)
      (time : Int) : Change acc { acc with lastSlotmapUpdateAttempt := .time time }
  | route (acc : ValkeyClusterAsyncContext Fn Data) {slot : Int} {node : Nat}
      {cc : ValkeyClusterContext} (known : node ∈ acc.cc.nodeNames)
      (updated : updateSlot acc.cc slot node = .ok cc) : Change acc { acc with cc := cc }
  | addNode (acc : ValkeyClusterAsyncContext Fn Data) {redirect : Redirect}
      (unknown : findByAddr acc.cc.nodes redirect.key = none) :
      Change acc { acc with cc := acc.cc.addNode redirect }
  | connect (acc : ValkeyClusterAsyncContext Fn Data) {node : Addressee} (host : Bytes)
      (single : ⟨node, none⟩ ∈ owners acc.cc.nodes) :
      Change acc { acc.setAcon node (some acc.nextConnection) with
        connections := acc.connections ++ [openedConnection acc node host]
        nextConnection := acc.nextConnection + 1 }
  | asking (acc : ValkeyClusterAsyncContext Fn Data) {c : Nat} {ac appended : Connection}
      (found : acc.connection c = .ok ac)
      (accepted : ac.append none .null askingCommand = (.ok, appended)) :
      Change acc (acc.putConnection appended)
  | update (acc : ValkeyClusterAsyncContext Fn Data) {c : Nat} {ac appended : Connection}
      (useClusterNodes : Bool) (idle : acc.lastSlotmapUpdateAttempt ≠ .ongoing)
      (found : acc.connection c = .ok ac)
      (accepted : ac.append (some (routeCallback useClusterNodes)) .client
        (routeCommand useClusterNodes) = (.ok, appended)) :
      Change acc { acc.putConnection appended with lastSlotmapUpdateAttempt := .ongoing }

/-- Changes one after another. -/
abbrev Works : ValkeyClusterAsyncContext Fn Data → ValkeyClusterAsyncContext Fn Data → Prop :=
  Relation.ReflTransGen Change

variable {world : World} {acc next : ValkeyClusterAsyncContext Fn Data}

theorem Change.works (change : Change acc next) : Works acc next :=
  Relation.ReflTransGen.single change

/-! ## Errors and time -/

theorem works_cc {cc : ValkeyClusterContext} (calm : Calm acc.cc cc) :
    Works acc { acc with cc := cc } :=
  (Change.quiet acc calm acc.err acc.ticks acc.draws).works

theorem works_clearError : Works acc acc.clearError :=
  (Change.quiet acc (.clearError acc.cc) none acc.ticks acc.draws).works

theorem works_setError (error : Option ContextError) : Works acc (acc.setError error) := by
  cases error with
  | none => exact works_clearError
  | some error =>
      exact (Change.quiet acc (.setError acc.cc error.type error.str) (some error.type) acc.ticks
        acc.draws).works

theorem works_copyError : Works acc acc.copyError :=
  (Change.quiet acc (.refl acc.cc) acc.cc.err acc.ticks acc.draws).works

theorem works_tick : Works acc acc.tick :=
  (Change.quiet acc (.refl acc.cc) acc.err (acc.ticks + 1) acc.draws).works

theorem works_stampUpdate (idle : acc.lastSlotmapUpdateAttempt ≠ .ongoing) :
    Works acc (acc.stampUpdate world) :=
  works_tick.trans (Change.stamp acc.tick idle _).works

theorem works_stampConnect (node : Addressee) : Works acc (acc.stampConnect world node) := by
  have names : ValkeyClusterContext.SameNames acc.cc (acc.stampConnect world node).cc := by
    constructor
    · simp [ValkeyClusterAsyncContext.stampConnect, ValkeyClusterContext.nodeNames, assignAttempt]
    · simp [ValkeyClusterAsyncContext.stampConnect, ValkeyClusterContext.addrs, assignAttempt]
    · simp only [ValkeyClusterAsyncContext.stampConnect, ValkeyClusterAsyncContext.tick,
        ValkeyClusterContext.contextNames, ValkeyClusterContext.contexts, List.flatMap_map,
        connections_assignAttempt]
    · rfl
    · rfl
    · rfl
  have calm : Calm acc.cc (acc.stampConnect world node).cc :=
    ⟨names, owners_assignAttempt node (world.clock acc.ticks) acc.cc.nodes, rfl⟩
  exact (Change.quiet acc calm acc.err (acc.ticks + 1) acc.draws).works

/-! ## Connections -/

/-- A fault that is neither the use of freed memory of the client nor a write outside the
slot table. -/
def Sheltered (fault : ClusterFault) : Prop :=
  fault ≠ .usedAfterFree ∧ ∀ slot, fault ≠ .pointer (.tableIndex slot)

theorem sheltered_danglingContext : Sheltered (.pointer .danglingContext) := by
  simp [Sheltered]

theorem sheltered_danglingNode : Sheltered (.pointer .danglingNode) := by
  simp [Sheltered]

theorem ensures_connection (c : Nat) :
    Ensures (acc.connection c) Sheltered fun ac => acc.connection c = .ok ac := by
  cases result : acc.connection c with
  | ok ac => exact rfl
  | error fault =>
      unfold ValkeyClusterAsyncContext.connection at result
      split at result
      · cases result
      · cases result
        exact sheltered_danglingContext

theorem ensures_asyncNode (node : Addressee) :
    Ensures (acc.asyncNode node) Sheltered fun known => ⟨node, known.acon⟩ ∈
      owners acc.cc.nodes := by
  cases node with
  | primary node =>
      unfold ValkeyClusterAsyncContext.asyncNode
      dsimp only
      split
      · exact sheltered_danglingNode
      · rename_i known found
        obtain rfl : known.id = node := by simpa using List.find?_some found
        exact List.mem_flatMap.mpr ⟨known, List.mem_of_find?_eq_some found, List.mem_cons_self⟩
  | replica node index =>
      unfold ValkeyClusterAsyncContext.asyncNode
      dsimp only
      split
      · exact sheltered_danglingNode
      · rename_i known found
        split
        · exact sheltered_danglingNode
        · rename_i replica here
          obtain rfl : known.id = node := by simpa using List.find?_some found
          obtain ⟨inside, rfl⟩ := List.getElem?_eq_some_iff.mp here
          refine List.mem_flatMap.mpr ⟨known, List.mem_of_find?_eq_some found, ?_⟩
          apply List.mem_cons_of_mem
          exact List.mem_mapIdx.mpr ⟨index, inside, rfl⟩

/-- A command that was accepted, or nothing. -/
theorem ensures_asyncCommand (c : Nat) (fn : Option ClusterFn) (data : ClusterData) (cmd : Bytes) :
    Ensures (asyncCommand acc c fn data cmd) Sheltered fun result =>
      result = (.err, acc) ∨
        ∃ ac appended, acc.connection c = .ok ac ∧ ac.append fn data cmd = (.ok, appended) ∧
          result = (.ok, acc.putConnection appended) := by
  apply (ensures_connection c).bind
  intro ac found
  split
  · rename_i appended accepted
    exact .inr ⟨ac, appended, found, accepted, rfl⟩
  · exact .inl rfl

theorem Connection.authenticate_id (ac : Connection) : (ac.authenticate acc).2.id = ac.id := by
  unfold Connection.authenticate
  split
  · rfl
  · rfl

theorem Connection.selectDb_id (ac : Connection) : (ac.selectDb acc).2.id = ac.id := by
  unfold Connection.selectDb
  split
  · rfl
  · rfl

theorem works_freeUnlinked (ac : Connection) : Works acc (freeUnlinked acc ac) := by
  unfold freeUnlinked
  split
  · exact works_setError _
  · exact .refl

theorem works_connectAsync {node : Addressee} (host : Bytes)
    (single : ⟨node, none⟩ ∈ owners acc.cc.nodes) :
    Works acc (connectAsync world acc node host).2 := by
  have stamped : Works acc (acc.stampConnect world node) := works_stampConnect node
  have counted : Works acc { acc.stampConnect world node with
      nextConnection := acc.nextConnection + 1 } :=
    stamped.tail (.number _ (Nat.le_succ _) le_rfl)
  have failed (error : Option ContextError) (ac : Connection) :
      Works acc (freeUnlinked ({ acc.stampConnect world node with
        nextConnection := acc.nextConnection + 1 }.setError error) ac) :=
    (counted.trans (works_setError error)).trans (works_freeUnlinked ac)
  unfold connectAsync
  dsimp only
  split
  · exact counted.trans (works_setError _)
  rename_i started
  have made : (world.connect acc.nextConnection).failure = none := by simpa using started
  rw [made]
  split
  · exact counted.trans (works_setError _)
  split
  · exact failed _ _
  rename_i authenticated granted
  split
  · exact failed _ _
  rename_i selected chosen
  split
  · have single : ⟨node, none⟩ ∈ owners (acc.stampConnect world node).cc.nodes := by
      unfold ValkeyClusterAsyncContext.stampConnect
      dsimp only
      rw [owners_assignAttempt]
      exact single
    have same : selected = (((newConnection (acc.stampConnect world node) host none).authenticate
        (acc.stampConnect world node)).2.selectDb (acc.stampConnect world node)).2 := by
      have first := congrArg Prod.snd granted
      have second := congrArg Prod.snd chosen
      dsimp only at first second
      rw [← second, ← first]
      rfl
    have named : selected.id = acc.nextConnection := by
      rw [same, Connection.selectDb_id, Connection.authenticate_id]
      rfl
    have opened := stamped.tail (.connect _ host single)
    rw [openedConnection, ← same] at opened
    dsimp only
    rw [named]
    exact opened
  · exact failed _ _

theorem setError_mark (error : Option ContextError) :
    (acc.setError error).lastSlotmapUpdateAttempt = acc.lastSlotmapUpdateAttempt := by
  cases error <;> rfl

theorem freeUnlinked_mark (ac : Connection) :
    (freeUnlinked acc ac).lastSlotmapUpdateAttempt = acc.lastSlotmapUpdateAttempt := by
  unfold freeUnlinked
  split
  · exact setError_mark _
  · rfl

theorem connectAsync_mark (node : Addressee) (host : Bytes) :
    (connectAsync world acc node host).2.lastSlotmapUpdateAttempt =
      acc.lastSlotmapUpdateAttempt := by
  have failed (next : ValkeyClusterAsyncContext Fn Data) (error : Option ContextError)
      (ac : Connection) (same : next.lastSlotmapUpdateAttempt = acc.lastSlotmapUpdateAttempt) :
      (freeUnlinked (next.setError error) ac).lastSlotmapUpdateAttempt =
        acc.lastSlotmapUpdateAttempt :=
    (freeUnlinked_mark ac).trans ((setError_mark error).trans same)
  unfold connectAsync
  dsimp only
  split
  · exact setError_mark _
  split
  · exact setError_mark _
  split
  · exact failed _ _ _ rfl
  split
  · exact failed _ _ _ rfl
  split
  · rfl
  · exact failed _ _ _ rfl

/-- Changes that do not concern the update of the slot map. -/
structure Aside (acc next : ValkeyClusterAsyncContext Fn Data) : Prop where
  works : Works acc next
  mark : next.lastSlotmapUpdateAttempt = acc.lastSlotmapUpdateAttempt

theorem Aside.refl (acc : ValkeyClusterAsyncContext Fn Data) : Aside acc acc := ⟨.refl, rfl⟩

theorem Aside.setError (error : Option ContextError) : Aside acc (acc.setError error) :=
  ⟨works_setError error, setError_mark error⟩

theorem Aside.trans {last : ValkeyClusterAsyncContext Fn Data} (first : Aside acc next)
    (second : Aside next last) : Aside acc last :=
  ⟨first.works.trans second.works, second.mark.trans first.mark⟩

theorem ensures_getContext (node : Addressee) :
    Ensures (valkeyClusterGetValkeyAsyncContext world acc node) Sheltered fun result =>
      Aside acc result.2 := by
  have failed (error : Option ContextError) : Aside acc (acc.setError error) := .setError error
  apply (ensures_asyncNode node).bind
  rintro ⟨host, port, acon⟩ holds
  cases acon with
  | some c =>
      apply (ensures_connection c).bind
      intro ac _
      split
      · exact .refl acc
      · exact failed (some _)
  | none =>
      dsimp only
      split
      · exact failed (some _)
      · exact ⟨works_connectAsync host holds, connectAsync_mark node host⟩

/-! ## The update of the slot map -/

theorem ensures_nodeIsConnected (node : ValkeyClusterNode ValkeyContext) :
    Ensures (nodeIsConnected acc node) Sheltered fun _ => True := by
  unfold nodeIsConnected
  split
  · trivial
  · exact (ensures_connection _).bind fun _ _ => trivial

theorem ensures_selectNodeFrom (throttleLimit : Int) (checkIndex currentIndex : Nat)
    (selected : Option (Nat × Bool)) (nodes : List (ValkeyClusterNode ValkeyContext)) :
    Ensures (selectNodeFrom acc throttleLimit checkIndex currentIndex selected nodes) Sheltered
      fun _ => True := by
  induction nodes generalizing currentIndex selected with
  | nil => trivial
  | cons node rest induction =>
      apply (ensures_nodeIsConnected node).bind
      intro connected _
      extract_lets found chosen
      split
      · trivial
      · exact induction _ _

theorem ensures_selectNode :
    Ensures (selectNode world acc) Sheltered fun result => Aside acc result.2 := by
  unfold selectNode
  split
  · simp [Sheltered]
  · apply (ensures_selectNodeFrom _ _ _ _ _).bind
    intro selected _
    exact ⟨(Change.quiet acc (.refl acc.cc) acc.err (acc.ticks + 1) (acc.draws + 1)).works,
      rfl⟩

theorem ensures_updateConnection (ac : Option Nat) :
    Ensures (updateConnection world acc ac) Sheltered fun result => Aside acc result.2 := by
  cases ac with
  | some c => exact .refl acc
  | none =>
      apply ensures_selectNode.bind
      rintro ⟨selected, next⟩ aside
      cases selected with
      | none => exact aside
      | some node => exact (ensures_getContext _).mono fun _ further => aside.trans further

theorem ensures_updateSlotMapAsync (ac : Option Nat) :
    Ensures (updateSlotMapAsync world acc ac) Sheltered fun result => Works acc result.2 := by
  unfold updateSlotMapAsync
  split
  · exact .refl
  rename_i idle
  split
  · exact .refl
  apply (ensures_updateConnection ac).bind
  rintro ⟨target, next⟩ aside
  have stillIdle : next.lastSlotmapUpdateAttempt ≠ .ongoing := by
    rw [aside.mark]
    exact idle
  cases target with
  | none => exact aside.works.trans (works_stampUpdate stillIdle)
  | some c =>
      apply (ensures_asyncCommand c _ _ _).bind
      rintro result (rfl | ⟨ac, appended, found, accepted, rfl⟩)
      · exact aside.works.trans (works_stampUpdate stillIdle)
      · exact aside.works.tail (.update next _ stillIdle found accepted)

theorem ensures_throttledUpdate (ac : Option Nat) :
    Ensures (throttledUpdateSlotMapAsync world acc ac) Sheltered (Works acc) := by
  unfold throttledUpdateSlotMapAsync
  split
  · exact .refl
  split
  · apply (ensures_updateSlotMapAsync ac).bind
    intro result works
    exact works_tick.trans works
  · exact works_tick

/-! ## Redirects -/

/-- The node that a redirect names is one of the nodes then. -/
theorem works_nodeFromRedirect (host str : Bytes) :
    Works acc { acc with cc := (nodeFromRedirect acc.cc host str).2 } ∧
      ∀ target ∈ (nodeFromRedirect acc.cc host str).1,
        target.1 ∈ (nodeFromRedirect acc.cc host str).2.nodeNames ∧
          ∃ redirect, parseRedirect host str = .ok redirect ∧ redirect.slot = target.2 := by
  unfold nodeFromRedirect
  cases parsed : parseRedirect host str with
  | error message =>
      exact ⟨works_cc (.setError _ _ _), fun _ impossible => nomatch impossible⟩
  | ok redirect =>
      dsimp only
      cases found : findByAddr acc.cc.nodes redirect.key with
      | some node =>
          refine ⟨.refl, fun target equal => ?_⟩
          obtain rfl := Option.some.inj equal
          exact ⟨List.mem_map_of_mem (List.mem_of_find?_eq_some found), redirect, rfl, rfl⟩
      | none =>
          refine ⟨(Change.addNode acc found).works, fun target equal => ?_⟩
          obtain rfl := Option.some.inj equal
          refine ⟨?_, redirect, rfl, rfl⟩
          rw [nodeNames_addNode]
          exact List.mem_append_right _ (List.mem_singleton_self _)

/-- A write outside the slot table, for a redirect to a slot that there is not. -/
def Outside (str : Bytes) (fault : ClusterFault) : Prop :=
  ∃ pointer, OutsideTable str pointer ∧ fault = .pointer pointer

/-- The redirect of a reply that the client follows for a record. -/
def followed (acc : ValkeyClusterAsyncContext Fn Data) (cad : ClusterAsyncData Fn Data)
    (reply : ReplyTree) : Option Bytes :=
  if getReplyErrorType reply = .moved ∧ acc.disconnecting = false ∧
      cad.retryCount.any
        (fun count => decide (((count + 1 : Nat) : Int) ≤ acc.cc.maxRetryCount)) then
    some (replyText reply)
  else none

theorem ensures_updateSlot (cc : ValkeyClusterContext) (slot : Int) (node : Nat) :
    Ensures (ofPointers (updateSlot cc slot node))
      (fun fault => Sheltered fault ∨
        ((valkeyClusterSlots : Int) ≤ slot ∧ fault = .pointer (.tableIndex slot)))
      fun next => updateSlot cc slot node = .ok next := by
  unfold updateSlot setTable
  split
  · split
    · exact .inl (by simp [Sheltered])
    · split
      · exact rfl
      · rename_i outside
        exact .inr ⟨not_lt.mp outside, rfl⟩
  · exact rfl

theorem ensures_movedTarget (c : Nat) (str : Bytes) :
    Ensures (movedTarget world acc c str) (fun fault => Sheltered fault ∨ Outside str fault)
      fun result => Works acc result.2 := by
  apply ((ensures_throttledUpdate (some c)).allow fun _ => .inl).bind
  intro throttled updated
  apply ((ensures_connection c).allow fun _ => .inl).bind
  intro ac _
  obtain ⟨works, named⟩ := @works_nodeFromRedirect Fn Data throttled ac.host str
  generalize nodeFromRedirect throttled.cc ac.host str = redirected at works named
  obtain ⟨target, cc⟩ := redirected
  cases target with
  | none => exact (updated.trans works).trans works_copyError
  | some target =>
      obtain ⟨known, redirect, parsed, slot⟩ := named target rfl
      have written := (ensures_updateSlot cc target.2 target.1).allow fun fault allowed =>
        allowed.imp_right fun ⟨outside, same⟩ =>
          show Outside str fault from
            ⟨.tableIndex target.2, ⟨ac.host, redirect, parsed, slot ▸ outside,
              congrArg Fault.tableIndex slot.symm⟩, same⟩
      apply written.bind
      intro next same
      apply ((ensures_getContext _).allow fun _ => .inl).mono
      intro result aside
      exact ((updated.trans works).tail (.route _ known same)).trans aside.works

theorem ensures_askTarget (c : Nat) (str : Bytes) :
    Ensures (askTarget world acc c str) Sheltered fun result => Works acc result.2 := by
  apply (ensures_connection c).bind
  intro ac _
  obtain ⟨works, _⟩ := @works_nodeFromRedirect Fn Data acc ac.host str
  generalize nodeFromRedirect acc.cc ac.host str = redirected at works
  obtain ⟨target, cc⟩ := redirected
  cases target with
  | none => exact works.trans works_copyError
  | some target =>
      apply (ensures_getContext _).bind
      rintro ⟨con, next⟩ aside
      cases con with
      | none => exact works.trans aside.works
      | some retry =>
          apply (ensures_asyncCommand retry _ _ _).bind
          rintro result (rfl | ⟨ac, appended, found, accepted, rfl⟩)
          · exact works.trans aside.works
          · exact (works.trans aside.works).tail (.asking next found accepted)

theorem ensures_retryTarget (c : Nat) (reply : ReplyTree) :
    Ensures (retryTarget world acc c reply)
      (fun fault => Sheltered fault ∨
        getReplyErrorType reply = .moved ∧ Outside (replyText reply) fault)
      fun result => Works acc result.2 := by
  unfold retryTarget
  split
  · rename_i moved
    apply (ensures_movedTarget c _).allow
    exact fun fault allowed => allowed.imp_right fun outside => ⟨moved, outside⟩
  · exact (ensures_askTarget c _).allow fun _ => .inl
  · exact .refl
  · exact .refl
  · exact .refl

/-! ## Answers and submissions -/

/-- What is left to do after an answer: the callback of the user is run, or the command has
been sent again. -/
inductive Answered (acc : ValkeyClusterAsyncContext Fn Data) (cad : ClusterAsyncData Fn Data) :
    Action Fn Data × ValkeyClusterAsyncContext Fn Data → Prop
  | calls {next : ValkeyClusterAsyncContext Fn Data} (reply : Option ReplyTree)
      (works : Works acc next) : Answered acc cad (.calls cad reply, next)
  | callsCounted {next : ValkeyClusterAsyncContext Fn Data} (count : Nat) (reply : Option ReplyTree)
      (works : Works (acc.countRetry cad.id count) next) : Answered acc cad (.calls cad reply, next)
  | resends {next : ValkeyClusterAsyncContext Fn Data} {count c : Nat} {ac appended : Connection}
      (retries : cad.retryCount = some count) (below : (count + 1 : Nat) ≤ acc.cc.maxRetryCount)
      (works : Works (acc.countRetry cad.id (count + 1)) next) (found : next.connection c = .ok ac)
      (accepted : ac.append (some .asyncCallback) (.record cad.id) cad.command = (.ok, appended)) :
      Answered acc cad
        (.returns, { next.putConnection appended with resent := next.resent ++ [cad.id] })

theorem ensures_retryCommand (c : Nat) {cad : ClusterAsyncData Fn Data} {count : Nat}
    (retries : cad.retryCount = some count) (reply : ReplyTree) :
    Ensures (retryCommand world acc c cad (count + 1) reply)
      (fun fault => Sheltered fault ∨ ((count + 1 : Nat) : Int) ≤ acc.cc.maxRetryCount ∧
        getReplyErrorType reply = .moved ∧ Outside (replyText reply) fault)
      (Answered acc cad) := by
  unfold retryCommand
  split
  · exact .callsCounted 0 _ (works_setError (some _))
  rename_i below
  have targeted := @ensures_retryTarget Fn Data world (acc.countRetry cad.id (count + 1)) c reply
  apply (targeted.allow fun fault allowed => allowed.imp_right fun outside =>
    ⟨not_lt.mp below, outside⟩).bind
  rintro ⟨target, next⟩ works
  cases target with
  | none => exact .callsCounted _ _ works
  | some retry =>
      apply ((ensures_asyncCommand retry _ _ _).allow fun _ => .inl).bind
      rintro result (rfl | ⟨ac, appended, found, accepted, rfl⟩)
      · exact .callsCounted _ _ works
      · exact .resends retries (not_lt.mp below) works found accepted

/-- The callback for a reply or `NULL`. -/
theorem ensures_asyncCallback (c : Nat) (cad : ClusterAsyncData Fn Data)
    (reply : Option ReplyTree) :
    Ensures (valkeyClusterAsyncCallback world acc c cad reply)
      (fun fault => Sheltered fault ∨
        ∃ given ∈ reply, ∃ text ∈ followed acc cad given, Outside text fault)
      (Answered acc cad) := by
  cases reply with
  | none =>
      apply ((ensures_connection c).allow fun _ => .inl).bind
      intro ac _
      have failed : Works acc (acc.setError ac.state.2.err) := works_setError _
      dsimp only
      split
      · exact .calls _ failed
      · apply ((ensures_throttledUpdate none).allow fun _ => .inl).bind
        intro next works
        exact .calls _ (failed.trans works)
  | some reply =>
      unfold valkeyClusterAsyncCallback
      dsimp only
      split
      · exact .calls _ .refl
      · rename_i count retries
        split
        · exact .calls _ .refl
        · rename_i follows
          apply (ensures_retryCommand c retries reply).allow
          rintro fault (sheltered | ⟨below, moved, outside⟩)
          · exact .inl sheltered
          have text : followed acc cad reply = some (replyText reply) := by
            have connected : acc.disconnecting = false := by simpa using (not_or.mp follows).1
            simp [followed, moved, connected, retries]
            omega
          exact .inr ⟨reply, rfl, _, text, outside⟩

/-- What a submission leaves. -/
inductive Submitted (acc : ValkeyClusterAsyncContext Fn Data) (fn : Option Fn) (privdata : Data)
    (cmd : Bytes) : Status × ValkeyClusterAsyncContext Fn Data → Prop
  | refused {next : ValkeyClusterAsyncContext Fn Data} (works : Works acc next) :
      Submitted acc fn privdata cmd (.err, next)
  | accepted {next : ValkeyClusterAsyncContext Fn Data} {c : Nat} {ac appended : Connection}
      {retryCount : Option Nat} (works : Works acc next)
      (retries : retryCount = none ∨ retryCount = some 0) (found : next.connection c = .ok ac)
      (accepted : ac.append (some .asyncCallback) (.record next.nextRecord) cmd = (.ok, appended)) :
      Submitted acc fn privdata cmd (.ok, { next.putConnection appended with
        nextRecord := next.nextRecord + 1
        records := next.records ++ [⟨next.nextRecord, cmd, fn, privdata, retryCount⟩]
        accepted := next.accepted ++ [next.nextRecord] })

theorem ensures_submitRecord (c : Nat) (fn : Option Fn) (privdata : Data) (cmd : Bytes)
    {retryCount : Option Nat} (retries : retryCount = none ∨ retryCount = some 0) :
    Ensures (submitRecord acc c fn privdata cmd retryCount) Sheltered
      (Submitted acc fn privdata cmd) := by
  have numbered : Works acc { acc with nextRecord := acc.nextRecord + 1 } :=
    (Change.number acc le_rfl (Nat.le_succ _)).works
  apply (ensures_asyncCommand c _ _ _).bind
  rintro result (rfl | ⟨ac, appended, found, accepted, rfl⟩)
  · apply (ensures_connection c).bind
    intro ac _
    exact .refused (numbered.trans (works_setError _))
  · exact .accepted .refl retries found accepted

theorem Submitted.after {fn : Option Fn} {privdata : Data} {cmd : Bytes}
    {result : Status × ValkeyClusterAsyncContext Fn Data} (works : Works acc next)
    (submitted : Submitted next fn privdata cmd result) : Submitted acc fn privdata cmd result := by
  cases submitted with
  | refused further => exact .refused (works.trans further)
  | accepted further retries found accepted =>
      exact .accepted (works.trans further) retries found accepted

theorem calm_prepareCommand {cc last : ValkeyClusterContext} {cmd : Bytes}
    (failed : prepareCommand cc cmd = .error last) : Calm cc last := by
  unfold prepareCommand at failed
  split at failed
  · cases failed
    exact .refl cc
  split at failed
  · cases failed
    exact .setError _ _ _
  · cases failed
    exact .setError _ _ _
  · cases failed
    exact .setError _ _ _
  · cases failed

theorem calm_node_get_by_table (cc : ValkeyClusterContext) (slot : Nat) :
    Calm cc (node_get_by_table cc slot).2 := by
  unfold node_get_by_table
  split
  · exact .setError _ _ _
  split
  · exact .setError _ _ _
  split
  · exact .setError _ _ _
  · exact .refl cc

theorem ensures_formattedCommand (fn : Option Fn) (privdata : Data) (cmd : Bytes) :
    Ensures (valkeyClusterAsyncFormattedCommand world acc fn privdata cmd) Sheltered
      (Submitted acc fn privdata cmd) := by
  unfold valkeyClusterAsyncFormattedCommand
  split
  · exact .refused (works_setError _)
  have cleared : Works acc acc.clearError := works_clearError
  dsimp only
  cases prepared : prepareCommand acc.clearError.cc cmd with
  | error cc =>
      exact .refused ((cleared.trans (works_cc (calm_prepareCommand prepared))).trans
        works_copyError)
  | ok command =>
      dsimp only
      have looked := calm_node_get_by_table acc.clearError.cc command.slot
      generalize node_get_by_table acc.clearError.cc command.slot = entry at looked
      obtain ⟨served, cc⟩ := entry
      have works := cleared.trans (works_cc looked)
      cases served with
      | none =>
          apply (ensures_throttledUpdate none).bind
          intro next updated
          exact .refused ((works.trans updated).trans works_copyError)
      | some node =>
          apply (ensures_getContext _).bind
          rintro ⟨con, next⟩ aside
          cases con with
          | none => exact .refused (works.trans aside.works)
          | some c =>
              apply (ensures_submitRecord c fn privdata cmd (.inr rfl)).mono
              exact fun _ submitted => submitted.after (works.trans aside.works)

theorem ensures_formattedCommandToNode (node : Addressee) (fn : Option Fn) (privdata : Data)
    (cmd : Bytes) :
    Ensures (valkeyClusterAsyncFormattedCommandToNode world acc node fn privdata cmd) Sheltered
      (Submitted acc fn privdata cmd) := by
  unfold valkeyClusterAsyncFormattedCommandToNode
  split
  · exact .refused (works_setError _)
  apply (ensures_getContext _).bind
  rintro ⟨con, next⟩ aside
  cases con with
  | none => exact .refused aside.works
  | some c =>
      apply (ensures_submitRecord c fn privdata cmd (.inl rfl)).mono
      exact fun _ submitted => submitted.after (aside.works.trans works_clearError)

end Changes

end Libvalkey
