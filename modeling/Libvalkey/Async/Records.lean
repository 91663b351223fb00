import Libvalkey.Async.Suppliers
import Libvalkey.Cluster.NoDangling

/-! # Subscription records

One record is used for all the channels of a subscribe command. When that does no harm
every entry holds what one command supplied, and counts its own subscriptions. -/

namespace Libvalkey

variable {Fn Data : Type}

/-! ## The record -/

section Record

variable (dict : CallbackDict Fn Data)

/-- The unconfirmed subscriptions of a name, none if there is no entry. -/
def pendingSubsOf (name : Bytes) : Int := (dict.lookup name).elim 0 (·.pendingSubs)

/-- What the record counts after some names, the last of them first: the subscriptions of
the last name that had an entry. -/
def carried : List Bytes → Int
  | [] => 1
  | name :: earlier =>
      if name ∈ dict ∨ name ∈ earlier then pendingSubsOf dict name + earlier.count name + 1
      else carried earlier

/-- The names that have entries were subscribed to with the same function, and a name
without one comes only while the record counts one subscription. -/
structure SeparateRecords (fn : Option Fn) (names : List Bytes) : Prop where
  sameFn : ∀ name ∈ names, ∀ cb, dict.lookup name = some cb → cb.fn = fn.map .user
  fresh : ∀ before name after, names = before ++ name :: after → name ∉ dict → name ∉ before →
    carried dict before.reverse = 1

variable (ac : ValkeyAsyncContext Fn Data) (variant : Variant)

/-- Every name has its occurrences added, and every other entry is untouched. -/
structure CountsNames (names : List Bytes) (next : ValkeyAsyncContext Fn Data) : Prop where
  named : ∀ name ∈ names, ∃ cb, (next.dict variant).lookup name = some cb ∧
    cb.pendingSubs = pendingSubsOf (ac.dict variant) name + names.count name
  others : ∀ other name, (other = variant → name ∉ names) →
    (next.dict other).lookup name = (ac.dict other).lookup name

/-- What holds after some names, the last of them first: the entries have the function and
the data of the call, and so has the record. -/
structure Recorded (fn : Option Fn) (data : Data) (done : List Bytes) (cb : Callback Fn Data)
    (current : ValkeyAsyncContext Fn Data) : Prop where
  sameFn : cb.fn = fn.map .user
  sameData : cb.privdata = .user data
  count : cb.pendingSubs = carried (ac.dict variant) done
  named : ∀ name ∈ done, ∃ entry, (current.dict variant).lookup name = some entry ∧
    entry.fn = fn.map .user ∧ entry.privdata = .user data ∧
    entry.pendingSubs = pendingSubsOf (ac.dict variant) name + done.count name
  others : ∀ other name, (other = variant → name ∉ done) →
    (current.dict other).lookup name = (ac.dict other).lookup name

end Record

section Loop

variable {dict : CallbackDict Fn Data} {ac current : ValkeyAsyncContext Fn Data} {variant : Variant}
  {fn : Option Fn} {data : Data} {done : List Bytes} {cb : Callback Fn Data} {name : Bytes}

theorem pendingSubsOf_found {entry : Callback Fn Data} (found : dict.lookup name = some entry) :
    pendingSubsOf dict name = entry.pendingSubs := by
  rw [pendingSubsOf, found]
  rfl

theorem pendingSubsOf_new (new : name ∉ dict) : pendingSubsOf dict name = 0 := by
  rw [pendingSubsOf, AList.lookup_eq_none.mpr new]
  rfl

theorem carried_known (known : name ∈ dict ∨ name ∈ done) :
    carried dict (name :: done) = pendingSubsOf dict name + done.count name + 1 := by
  rw [carried, if_pos known]

theorem carried_new (new : name ∉ dict) (first : name ∉ done) :
    carried dict (name :: done) = carried dict done := by
  rw [carried, if_neg (not_or.mpr ⟨new, first⟩)]

/-- The entry that a name has by now, if it is not new. -/
theorem Recorded.found (recorded : Recorded ac variant fn data done cb current)
    (sameFn : ∀ entry, (ac.dict variant).lookup name = some entry → entry.fn = fn.map .user)
    (known : name ∈ ac.dict variant ∨ name ∈ done) :
    ∃ entry, (current.dict variant).lookup name = some entry ∧ entry.fn = fn.map .user ∧
      entry.pendingSubs = pendingSubsOf (ac.dict variant) name + done.count name := by
  by_cases again : name ∈ done
  · obtain ⟨entry, found, sameFn, _, count⟩ := recorded.named name again
    exact ⟨entry, found, sameFn, count⟩
  · have member := known.resolve_right again
    obtain ⟨entry, found⟩ := Option.isSome_iff_exists.mp (AList.lookup_isSome.mpr member)
    refine ⟨entry, (recorded.others variant name fun _ => again).trans found,
      sameFn entry found, ?_⟩
    rw [pendingSubsOf_found found, List.count_eq_zero.mpr again]
    simp

theorem Recorded.new (recorded : Recorded ac variant fn data done cb current)
    (new : name ∉ ac.dict variant) (first : name ∉ done) :
    (current.dict variant).lookup name = none :=
  (recorded.others variant name fun _ => first).trans (AList.lookup_eq_none.mpr new)

/-- The entry of one more name is written. -/
theorem Recorded.write {written : Callback Fn Data}
    (recorded : Recorded ac variant fn data done cb current)
    (sameFn : written.fn = fn.map .user) (sameData : written.privdata = .user data)
    (carries : written.pendingSubs = carried (ac.dict variant) (name :: done))
    (counts : written.pendingSubs = pendingSubsOf (ac.dict variant) name + done.count name + 1) :
    Recorded ac variant fn data (name :: done) written (current.replace variant name written) := by
  refine ⟨sameFn, sameData, carries, fun other member => ?_, fun other key unnamed => ?_⟩
  · by_cases same : other = name
    · subst same
      refine ⟨written, ?_, sameFn, sameData, ?_⟩
      · rw [ValkeyAsyncContext.lookup_replace, if_pos ⟨rfl, rfl⟩]
      · rw [counts, List.count_cons_self]
        push_cast
        omega
    · have before := (List.mem_cons.mp member).resolve_left same
      obtain ⟨entry, found, entryFn, entryData, count⟩ := recorded.named other before
      refine ⟨entry, ?_, entryFn, entryData, ?_⟩
      · rw [ValkeyAsyncContext.lookup_replace, if_neg fun both => same both.2]
        exact found
      · rw [count, List.count_cons_of_ne (Ne.symm same)]
  · have apart : ¬(other = variant ∧ key = name) := by
      rintro ⟨sameVariant, rfl⟩
      exact unnamed sameVariant List.mem_cons_self
    rw [ValkeyAsyncContext.lookup_replace, if_neg apart]
    exact recorded.others other key fun sameVariant member =>
      unnamed sameVariant (List.mem_cons_of_mem _ member)

/-- One turn of the loop. -/
theorem Recorded.next (recorded : Recorded ac variant fn data done cb current)
    (notSharded : variant ≠ .sharded)
    (sameFn : ∀ entry, (ac.dict variant).lookup name = some entry → entry.fn = fn.map .user)
    (fresh : name ∉ ac.dict variant → name ∉ done → carried (ac.dict variant) done = 1) :
    let written := mergeCallback variant cb ((current.dict variant).lookup name)
    Recorded ac variant fn data (name :: done) written (current.replace variant name written) := by
  intro written
  by_cases known : name ∈ ac.dict variant ∨ name ∈ done
  · obtain ⟨entry, found, entryFn, count⟩ := recorded.found sameFn known
    have merged : written = { cb with
        pendingSubs := entry.pendingSubs + 1, subscribed := entry.subscribed, fn := entry.fn } := by
      simp only [written, mergeCallback, if_neg notSharded, found]
    rw [merged]
    apply recorded.write
    · exact entryFn
    · exact recorded.sameData
    · rw [carried_known known, count]
    · rw [count]
  · obtain ⟨new, first⟩ := not_or.mp known
    have merged : written = cb := by
      simp only [written, mergeCallback, if_neg notSharded, recorded.new new first]
    rw [merged]
    have one : cb.pendingSubs = 1 := recorded.count.trans (fresh new first)
    apply recorded.write
    · exact recorded.sameFn
    · exact recorded.sameData
    · rw [carried_new new first, recorded.count]
    · rw [one, pendingSubsOf_new new, List.count_eq_zero.mpr first]
      rfl

theorem Recorded.addChannels {names : List Bytes}
    (recorded : Recorded ac variant fn data done cb current) (notSharded : variant ≠ .sharded)
    (separate : SeparateRecords (ac.dict variant) fn (done.reverse ++ names)) :
    ∃ last, Recorded ac variant fn data (names.reverse ++ done) last
      (addChannels variant cb current names) := by
  induction names generalizing done cb current with
  | nil => exact ⟨cb, recorded⟩
  | cons name rest induction =>
      have fresh : name ∉ ac.dict variant → name ∉ done → carried (ac.dict variant) done = 1 :=
        fun new first => by
          simpa using separate.fresh done.reverse name rest rfl new (by simpa using first)
      have next := recorded.next notSharded (separate.sameFn name (by simp)) fresh
      have separate : SeparateRecords (ac.dict variant) fn ((name :: done).reverse ++ rest) := by
        simpa using separate
      obtain ⟨last, recorded⟩ := induction next separate
      exact ⟨last, by simpa [Libvalkey.addChannels] using recorded⟩

end Loop

/-- The entries after a subscribe command. -/
theorem addChannels_recorded (ac : ValkeyAsyncContext Fn Data) {variant : Variant}
    (notSharded : variant ≠ .sharded) (number : Nat) {fn : Option Fn} (data : Data)
    {names : List Bytes} (separate : SeparateRecords (ac.dict variant) fn names) :
    ∃ last, Recorded ac variant fn data names.reverse last
      (addChannels variant (newCallback number fn data) { ac with isSubscribed := true }
        names) := by
  have start : Recorded ac variant fn data [] (newCallback number fn data)
      { ac with isSubscribed := true } := by
    refine ⟨rfl, rfl, rfl, fun _ member => absurd member List.not_mem_nil, fun other _ _ => ?_⟩
    cases other <;> rfl
  simpa using start.addChannels notSharded separate

/-! ## Runs -/

theorem Supplied.append {submitted : List (Submission Fn Data)} {variant : Variant} {name : Bytes}
    {cb : Callback Fn Data} (supplied : Supplied submitted variant name cb)
    (more : List (Submission Fn Data)) : Supplied (submitted ++ more) variant name cb := by
  obtain ⟨submission, member, rest⟩ := supplied
  exact ⟨submission, List.mem_append_left _ member, rest⟩

/-- The condition on a command that is accepted. -/
def SeparateCommand (state : AsyncState Fn Data) : AsyncEvent Fn Data → Prop
  | .command fn _ cmd =>
      AcceptsCommands state → ∀ variant names, subscribes cmd = some (variant, names) →
        variant ≠ .sharded → SeparateRecords (state.2.dict variant) fn names
  | _ => True

/-- A command that is accepted adds its names to the entries. -/
def CountsCommand (order : IterationOrder) (state : AsyncState Fn Data) :
    AsyncEvent Fn Data → Prop
  | .command fn data cmd =>
      AcceptsCommands state → ∀ variant names, subscribes cmd = some (variant, names) →
        variant ≠ .sharded → ∃ next, asyncStep order state (.command fn data cmd) = .ok next ∧
          CountsNames state.2 variant names next.2
  | _ => True

theorem writeCommand_dict (ac : ValkeyAsyncContext Fn Data) (submission : Submission Fn Data)
    (variant : Variant) : (ac.writeCommand submission).dict variant = ac.dict variant := by
  obtain ⟨count, same⟩ := ac.writeCommand_eq submission
  rw [same]
  cases variant <;> rfl

theorem writeCommand_submitted (ac : ValkeyAsyncContext Fn Data) (submission : Submission Fn Data) :
    (ac.writeCommand submission).submitted = ac.submitted ++ [submission] := by
  obtain ⟨count, same⟩ := ac.writeCommand_eq submission
  rw [same]

/-- What a call leaves behind: nothing if it is refused, and otherwise its bookkeeping. -/
theorem valkeyAsyncAppendCmdLen_cases (ac : ValkeyAsyncContext Fn Data) (fn : Option Fn)
    (data : Data) (cmd : Bytes) :
    (valkeyAsyncAppendCmdLen ac fn data cmd).2 = ac ∧
        (valkeyAsyncAppendCmdLen ac fn data cmd).1 = .err ∨
      ∃ first registered, nextArgument cmd = some first ∧
        registerCommand ac fn data cmd first = some registered ∧
        valkeyAsyncAppendCmdLen ac fn data cmd =
          (.ok, registered.writeCommand ⟨fn, data, cmd⟩) := by
  unfold valkeyAsyncAppendCmdLen
  split
  · exact .inl ⟨rfl, rfl⟩
  · split
    · exact .inl ⟨rfl, rfl⟩
    · rename_i first found
      split
      · exact .inl ⟨rfl, rfl⟩
      · rename_i registered accepted
        exact .inr ⟨first, registered, found, accepted, rfl⟩

theorem allSupplied_writeCommand {ac : ValkeyAsyncContext Fn Data} (supplied : AllSupplied ac)
    (submission : Submission Fn Data) : AllSupplied (ac.writeCommand submission) := by
  intro variant name cb notSharded found
  rw [writeCommand_dict] at found
  rw [writeCommand_submitted]
  exact (supplied variant name cb notSharded found).append _

theorem allSupplied_subscribe {ac added : ValkeyAsyncContext Fn Data} (supplied : AllSupplied ac)
    {variant : Variant} {fn : Option Fn} {data : Data} {cmd : Bytes} {names : List Bytes}
    {last : Callback Fn Data} (known : subscribes cmd = some (variant, names))
    (submitted : added.submitted = ac.submitted)
    (recorded : Recorded ac variant fn data names.reverse last added) :
    AllSupplied (added.writeCommand ⟨fn, data, cmd⟩) := by
  intro other name cb otherNotSharded found
  rw [writeCommand_dict] at found
  rw [writeCommand_submitted, submitted]
  by_cases named : other = variant ∧ name ∈ names
  · obtain ⟨rfl, member⟩ := named
    obtain ⟨entry, entryFound, entryFn, entryData, _⟩ :=
      recorded.named name (List.mem_reverse.mpr member)
    obtain rfl := Option.some.inj (found.symm.trans entryFound)
    exact ⟨_, List.mem_append_right _ (List.mem_singleton_self _), entryFn, entryData, names, known,
      member⟩
  · have same := recorded.others other name fun sameVariant member =>
      named ⟨sameVariant, List.mem_reverse.mp member⟩
    exact (supplied other name cb otherNotSharded (same.symm.trans found)).append _

theorem countsNames_of_recorded {ac added : ValkeyAsyncContext Fn Data} {variant : Variant}
    {fn : Option Fn} {data : Data} {names : List Bytes} {last : Callback Fn Data}
    (recorded : Recorded ac variant fn data names.reverse last added)
    (submission : Submission Fn Data) :
    CountsNames ac variant names (added.writeCommand submission) := by
  constructor
  · intro name member
    obtain ⟨entry, found, _, _, count⟩ := recorded.named name (List.mem_reverse.mpr member)
    rw [List.count_reverse] at count
    exact ⟨entry, by rw [writeCommand_dict]; exact found, count⟩
  · intro other name unnamed
    rw [writeCommand_dict]
    exact recorded.others other name fun same member => unnamed same (List.mem_reverse.mp member)

theorem addChannels_submitted (variant : Variant) (names : List Bytes) (cb : Callback Fn Data)
    (ac : ValkeyAsyncContext Fn Data) :
    (addChannels variant cb ac names).submitted = ac.submitted := by
  induction names generalizing cb ac with
  | nil => rfl
  | cons name rest induction =>
      rw [addChannels, induction]
      cases variant <;> rfl

/-- A subscribe command that is accepted. -/
theorem valkeyAsyncAppendCmdLen_subscribe {ac : ValkeyAsyncContext Fn Data} {variant : Variant}
    {fn : Option Fn} (data : Data) {cmd : Bytes} {names : List Bytes}
    (stays : ac.disconnecting = false ∧ ac.freeing = false)
    (known : subscribes cmd = some (variant, names)) (notSharded : variant ≠ .sharded)
    (separate : SeparateRecords (ac.dict variant) fn names) :
    ∃ added last, added.submitted = ac.submitted ∧
      Recorded ac variant fn data names.reverse last added ∧
      valkeyAsyncAppendCmdLen ac fn data cmd = (.ok, added.writeCommand ⟨fn, data, cmd⟩) := by
  unfold subscribes at known
  split at known
  · cases known
  · rename_i first found
    split at known
    · rename_i kind
      cases known
      obtain ⟨last, recorded⟩ :=
        addChannels_recorded ac notSharded ac.submitted.length data separate
      refine ⟨_, last, ?_, recorded, ?_⟩
      · exact addChannels_submitted _ _ _ { ac with isSubscribed := true }
      unfold valkeyAsyncAppendCmdLen
      rw [if_neg (by simp [stays]), found]
      dsimp only
      rw [registerCommand, kind]
      dsimp only
      rw [if_neg notSharded]
    · cases known

/-! ## Every run -/

theorem allSupplied_command {ac : ValkeyAsyncContext Fn Data} (supplied : AllSupplied ac)
    (fn : Option Fn) (data : Data) (cmd : Bytes)
    (separate : ac.disconnecting = false ∧ ac.freeing = false →
      ∀ variant names, subscribes cmd = some (variant, names) → variant ≠ .sharded →
        SeparateRecords (ac.dict variant) fn names) :
    AllSupplied (valkeyAsyncAppendCmdLen ac fn data cmd).2 := by
  rcases valkeyAsyncAppendCmdLen_cases ac fn data cmd with
    ⟨unchanged, _⟩ | ⟨first, registered, found, accepted, called⟩
  · rwa [unchanged]
  · rw [called]
    rcases registerCommand_cases found accepted with
      ⟨inherits, _⟩ | ⟨variant, names, notSharded, known, rfl⟩
    · exact allSupplied_writeCommand (inherits.allSupplied supplied) _
    · have stays : ac.disconnecting = false ∧ ac.freeing = false := by
        by_contra refused
        rw [valkeyAsyncAppendCmdLen,
          if_pos (by simpa [or_iff_not_imp_left] using refused)] at called
        cases called
      obtain ⟨last, recorded⟩ := addChannels_recorded ac notSharded ac.submitted.length data
        (separate stays variant names known notSharded)
      exact allSupplied_subscribe supplied known (addChannels_submitted _ _ _ _) recorded

theorem allSupplied_step {order : IterationOrder} {state next : AsyncState Fn Data}
    {event : AsyncEvent Fn Data} (supplied : AllSupplied state.2)
    (separate : SeparateCommand state event) (step : asyncStep order state event = .ok next) :
    AllSupplied next.2 := by
  obtain ⟨label, ac⟩ := state
  have inheriting {computation : Except AsyncFault (AsyncState Fn Data)}
      (inherits : Inheriting ac computation) (result : computation = .ok next) :
      AllSupplied next.2 := (inherits.of_ok result).allSupplied supplied
  unfold asyncStep at step
  dsimp only at step
  split at step
  · obtain rfl := Except.ok.inj step
    exact allSupplied_command supplied _ _ _ separate
  · obtain rfl := Except.ok.inj step
    exact allSupplied_command supplied _ _ _ separate
  · exact inheriting (inheriting_valkeyAsyncDisconnect order _ ac) step
  · exact inheriting (inheriting_valkeyAsyncDisconnect order _ ac) step
  · obtain rfl := Except.ok.inj step
    exact (inherits_valkeyAsyncFree order _ ac).allSupplied supplied
  · obtain rfl := Except.ok.inj step
    exact (inherits_valkeyAsyncFree order _ ac).allSupplied supplied
  · exact inheriting (inheriting_valkeyAsyncHandle order ac _ _) step
  · exact inheriting (inheriting_valkeyAsyncHandle order ac _ _) step
  · obtain rfl := Except.ok.inj step
    exact (inherits_valkeyAsyncHandleTimeout ac).allSupplied supplied
  · exact inheriting (inheriting_return order ac _) step
  · exact inheriting (inheriting_valkeyProcessCallbacks order ac) step
  · exact inheriting (inheriting_timeoutReplies order ac) step
  · exact inheriting (inheriting_freeCallbacks ac _) step
  · obtain rfl := Except.ok.inj step
    exact supplied

theorem countsCommand_of_separate (order : IterationOrder) {state : AsyncState Fn Data}
    {event : AsyncEvent Fn Data} (separate : SeparateCommand state event) :
    CountsCommand order state event := by
  cases event with
  | command fn data cmd =>
      intro accepts variant names known notSharded
      obtain ⟨label, ac⟩ := state
      have separate := separate accepts variant names known notSharded
      cases label with
      | idle =>
          obtain ⟨added, last, _, recorded, called⟩ :=
            valkeyAsyncAppendCmdLen_subscribe data accepts known notSharded separate
          refine ⟨_, rfl, ?_⟩
          rw [called]
          exact countsNames_of_recorded recorded _
      | callback resume =>
          obtain ⟨added, last, _, recorded, called⟩ :=
            valkeyAsyncAppendCmdLen_subscribe data accepts known notSharded separate
          refine ⟨_, rfl, ?_⟩
          rw [called]
          exact countsNames_of_recorded recorded _
      | processing => exact accepts.elim
      | timeout => exact accepts.elim
      | freeing subscriptions => exact accepts.elim
      | gone => exact accepts.elim
  | disconnect => trivial
  | free => trivial
  | readable outcome input => trivial
  | writable outcome output => trivial
  | timer => trivial
  | proceed => trivial

/-- In a run whose subscribe commands keep to the condition, every entry holds what one
command supplied, and every subscribe command counts its own names. -/
theorem asyncRun_suppliers (order : IterationOrder) (options : AsyncOptions)
    (events : List (AsyncEvent Fn Data))
    (separate : EveryStep order SeparateCommand (.idle, valkeyAsyncInitialize Fn Data options)
      events) :
    EveryStep order (CountsCommand order) (.idle, valkeyAsyncInitialize Fn Data options) events ∧
      ∀ state, asyncRun order (.idle, valkeyAsyncInitialize Fn Data options) events = .ok state →
        AllSupplied state.2 := by
  have empty : AllSupplied (valkeyAsyncInitialize Fn Data options) := by
    intro variant name cb _ found
    cases variant <;> cases found
  exact EveryStep.invariant order
    (fun _ _ _ condition => countsCommand_of_separate order condition)
    (fun _ _ _ supplied condition step => allSupplied_step supplied condition step)
    events empty separate

/-! ## Two subscriptions -/

/-- `SUBSCRIBE` with the names of some channels. -/
def subscribeCommand (names : List String) : Bytes :=
  valkeyFormatCommandArgv (literal "SUBSCRIBE" :: names.map literal)

/-- Two channels, both of them new. -/
def subscribeNew : List (AsyncEvent Nat Nat) := [.command (some 1) 1 (subscribeCommand ["a", "b"])]

theorem asyncRun_suppliers_new :
    EveryStep inOrder (CountsCommand inOrder)
        (.idle, valkeyAsyncInitialize Nat Nat defaultOptions) subscribeNew ∧
      ∃ state, asyncRun inOrder (.idle, valkeyAsyncInitialize Nat Nat defaultOptions) subscribeNew =
        .ok state ∧ AllSupplied state.2 := by
  suffices separate : EveryStep inOrder SeparateCommand
      (.idle, valkeyAsyncInitialize Nat Nat defaultOptions) subscribeNew by
    obtain ⟨counts, supplied⟩ :=
      asyncRun_suppliers inOrder defaultOptions subscribeNew separate
    refine ⟨counts, ?_⟩
    have finishes : (asyncRun inOrder (.idle, valkeyAsyncInitialize Nat Nat defaultOptions)
        subscribeNew).isOk = true := by decide +kernel
    cases run : asyncRun inOrder (.idle, valkeyAsyncInitialize Nat Nat defaultOptions)
        subscribeNew with
    | error fault => simp [run, Except.isOk, Except.toBool] at finishes
    | ok state => exact ⟨state, rfl, supplied state run⟩
  refine ⟨?_, fun _ _ => trivial⟩
  intro _ variant names known _
  have both : subscribes (subscribeCommand ["a", "b"]) =
      some (.channel, [literal "a", literal "b"]) := by decide +kernel
  obtain ⟨rfl, rfl⟩ := Prod.mk.inj (Option.some.inj (known.symm.trans both))
  refine ⟨fun name _ cb found => (nomatch found), fun before name after split _ new => ?_⟩
  rcases before with _ | ⟨first, _ | ⟨second, before⟩⟩
  · rfl
  · obtain ⟨rfl, rest⟩ := List.cons.inj split
    decide
  · simp at split

/-- A second subscription to a channel, together with a new one. -/
def subscribeAgain : List (AsyncEvent Nat Nat) :=
  [.command (some 1) 1 (subscribeCommand ["a"]), .command (some 2) 2 (subscribeCommand ["a", "b"])]

def subscribedOnce : ValkeyAsyncContext Nat Nat :=
  (valkeyAsyncAppendCmdLen (valkeyAsyncInitialize Nat Nat defaultOptions) (some 1) 1
    (subscribeCommand ["a"])).2

def subscribedTwice : ValkeyAsyncContext Nat Nat :=
  (valkeyAsyncAppendCmdLen subscribedOnce (some 2) 2 (subscribeCommand ["a", "b"])).2

/-- The function of the first call stays with the data of the second one, and the new
channel counts the subscriptions of the other. -/
theorem subscribeAgain_mixes :
    asyncRun inOrder (.idle, valkeyAsyncInitialize Nat Nat defaultOptions) subscribeAgain =
        .ok (.idle, subscribedTwice) ∧
      ¬AllSupplied subscribedTwice ∧
      ¬CountsCommand inOrder (.idle, subscribedOnce)
        (.command (some 2) 2 (subscribeCommand ["a", "b"])) := by
  have entries : (subscribedTwice.dict .channel).lookup (literal "a") =
        some ⟨some (.user 1), .user 2, 2, false, false, some 1⟩ ∧
      (subscribedTwice.dict .channel).lookup (literal "b") =
        some ⟨some (.user 1), .user 2, 2, false, false, some 1⟩ ∧
      subscribedTwice.submitted = [⟨some 1, 1, subscribeCommand ["a"]⟩,
        ⟨some 2, 2, subscribeCommand ["a", "b"]⟩] := by decide +kernel
  obtain ⟨first, second, submitted⟩ := entries
  refine ⟨rfl, fun supplied => ?_, fun counts => ?_⟩
  · obtain ⟨submission, member, fn, data, _⟩ :=
      supplied .channel (literal "a") _ (fun impossible => nomatch impossible) first
    rw [submitted] at member
    rcases List.mem_cons.mp member with rfl | member
    · cases data
    · obtain rfl := List.mem_singleton.mp member
      cases fn
  · have both : subscribes (subscribeCommand ["a", "b"]) =
        some (.channel, [literal "a", literal "b"]) := by decide +kernel
    have accepts : subscribedOnce.disconnecting = false ∧ subscribedOnce.freeing = false := by
      decide +kernel
    obtain ⟨next, step, named, _⟩ :=
      counts accepts .channel _ both fun impossible => nomatch impossible
    obtain rfl := Except.ok.inj step
    obtain ⟨entry, found, count⟩ := named (literal "b") (by simp)
    obtain rfl := Option.some.inj (second.symm.trans found)
    have one : pendingSubsOf (subscribedOnce.dict .channel) (literal "b") +
        ([literal "a", literal "b"].count (literal "b") : Nat) = 1 := by decide +kernel
    have two : (2 : Int) = 1 := count.trans one
    exact absurd two (by decide)

end Libvalkey
