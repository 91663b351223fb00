import Libvalkey.Format.Scanner

/-! # What is done with a format

The log of a run tells its arguments. Which events there are depends on the directives and
on the variadic arguments alone. -/

namespace Libvalkey.Format

open Checked

/-! ## Events -/

section Events

variable (printf : Printf)

/-- The events of a directive, and the variadic arguments that it leaves. There are none
where an argument has another type, points to NULL or is shorter than it is said to be. -/
def Directive.events : Directive → List VaArg → Option (List Event × List VaArg)
  | .literal byte, args => some ([.copied byte], args)
  | .space, args => some ([.separator], args)
  | .percent, args => some ([.appended (ascii "%")], args)
  | .string, .pointer (some memory) :: args =>
      some ([.consumed (.pointer (some memory)), .appended (cString memory)], args)
  | .string, _ => none
  | .binary, .pointer (some memory) :: .size size :: args =>
      if size ≤ memory.length then
        some ([.consumed (.pointer (some memory)), .consumed (.size size),
          .appended (memory.take size)], args)
      else none
  | .binary, _ => none
  | .printf type spec, .number given bits :: args =>
      if given = type then
        some (.consumed (.number given bits) ::
          if spec.length < formatRoom then [.appended (printf.text spec (.number given bits))]
          else [], args)
      else none
  | .printf _ _, _ => none
  | .invalid, _ => none

def eventsOf : List Directive → List VaArg → Option (List Event × List VaArg)
  | [], args => some ([], args)
  | directive :: directives, args =>
      (directive.events printf args).bind fun (events, args) =>
        (eventsOf directives args).map fun (more, args) => (events ++ more, args)

variable {printf : Printf}

section Inversion

variable {args left : List VaArg} {own : List Event}

/-- A `%s` takes a pointer. -/
theorem events_string (ran : Directive.string.events printf args = some (own, left)) :
    ∃ memory, args = .pointer (some memory) :: left ∧
      own = [.consumed (.pointer (some memory)), .appended (cString memory)] := by
  unfold Directive.events at ran
  cases args with
  | nil => cases ran
  | cons arg args =>
      cases arg with
      | pointer memory =>
          cases memory with
          | none => cases ran
          | some memory =>
              obtain ⟨rfl, rfl⟩ := Prod.mk.inj (Option.some.inj ran)
              exact ⟨memory, rfl, rfl⟩
      | size size => cases ran
      | number type bits => cases ran

/-- A `%b` takes a pointer and a size within its memory. -/
theorem events_binary (ran : Directive.binary.events printf args = some (own, left)) :
    ∃ memory size, args = .pointer (some memory) :: .size size :: left ∧ size ≤ memory.length ∧
      own = [.consumed (.pointer (some memory)), .consumed (.size size),
        .appended (memory.take size)] := by
  unfold Directive.events at ran
  cases args with
  | nil => cases ran
  | cons arg args =>
      cases arg with
      | pointer memory =>
          cases memory with
          | none => cases ran
          | some memory =>
              cases args with
              | nil => cases ran
              | cons arg args =>
                  cases arg with
                  | pointer other => cases ran
                  | number type bits => cases ran
                  | size size =>
                      by_cases inside : size ≤ memory.length
                      · obtain ⟨rfl, rfl⟩ :=
                          Prod.mk.inj (Option.some.inj ((if_pos inside).symm.trans ran))
                        exact ⟨memory, size, rfl, inside, rfl⟩
                      · cases (if_neg inside).symm.trans ran
      | size size => cases ran
      | number type bits => cases ran

/-- A number takes an argument of its type, and is put only if its specification fits. -/
theorem events_printf {type : ArgType} {spec : Bytes}
    (ran : (Directive.printf type spec).events printf args = some (own, left)) :
    ∃ bits, args = .number type bits :: left ∧
      own = .consumed (.number type bits) ::
        if spec.length < formatRoom then [.appended (printf.text spec (.number type bits))]
        else [] := by
  unfold Directive.events at ran
  cases args with
  | nil => cases ran
  | cons arg args =>
      cases arg with
      | pointer memory => cases ran
      | size size => cases ran
      | number given bits =>
          by_cases same : given = type
          · obtain ⟨rfl, rfl⟩ := Prod.mk.inj (Option.some.inj ((if_pos same).symm.trans ran))
            subst same
            exact ⟨bits, rfl, rfl⟩
          · cases (if_neg same).symm.trans ran

end Inversion

theorem eventsOf_cons {directive : Directive} {directives : List Directive} {args rest : List VaArg}
    {events : List Event}
    (ran : eventsOf printf (directive :: directives) args = some (events, rest)) :
    ∃ own middle more, directive.events printf args = some (own, middle) ∧
      eventsOf printf directives middle = some (more, rest) ∧ events = own ++ more := by
  obtain ⟨⟨own, middle⟩, first, later⟩ := Option.bind_eq_some_iff.mp ran
  obtain ⟨⟨more, last⟩, others, same⟩ := Option.map_eq_some_iff.mp later
  obtain ⟨rfl, rfl⟩ := Prod.mk.inj same
  exact ⟨own, middle, more, first, others, rfl⟩

end Events

/-- How many bytes an event puts into the current argument. -/
def Event.size : Event → Nat
  | .copied _ => 1
  | .appended text => text.length
  | _ => 0

def eventsSize (events : List Event) : Nat := (events.map Event.size).sum

@[simp] theorem eventsSize_nil : eventsSize [] = 0 := rfl

@[simp] theorem eventsSize_cons (event : Event) (events : List Event) :
    eventsSize (event :: events) = event.size + eventsSize events := by simp [eventsSize]

@[simp] theorem eventsSize_append (left right : List Event) :
    eventsSize (left ++ right) = eventsSize left + eventsSize right := by simp [eventsSize]

/-- The arguments of the command that events put together. `cur` is the current one. -/
def replay (cur : Bytes) (touched : Bool) : List Event → List Bytes
  | [] => if touched then [cur] else []
  | .copied byte :: events => replay (cur ++ [byte]) true events
  | .appended text :: events => replay (cur ++ text) true events
  | .consumed _ :: events => replay cur true events
  | .separator :: events =>
      if touched then cur :: replay [] false events else replay cur false events

/-! ## One round -/

/-- Numbers that agree in their last 32 bits are the same `int`. -/
theorem toInt32_congr {left right : Int} (same : left % 2 ^ 32 = right % 2 ^ 32) :
    toInt32 left = toInt32 right := by
  unfold toInt32 Int.bmod
  have low : left % 4294967296 = right % 4294967296 := same
  push_cast
  rw [low]

theorem toInt32_emod (value : Int) : toInt32 value % 2 ^ 32 = value % 2 ^ 32 := by
  unfold toInt32
  exact Int.bmod_emod

theorem bulklen_mod (arg : Bytes) : bulklen arg.length = (formatBulk arg).length % 2 ^ 64 := by
  have size := length_bulkHeader arg
  have header : (bulkHeader arg.length).length = (Decimal.ofNat arg.length).length + 3 := by
    simp [bulkHeader]
  rw [bulklen, countDigits_eq]
  congr 1
  omega

/-- The length of an argument is added in `size_t`, and the sum is cut to an `int`. -/
theorem toInt32_add_bulklen (total : Nat) (arg : Bytes) :
    toInt32 (toSize (toInt32 total) + bulklen arg.length) =
      toInt32 ((total + (formatBulk arg).length : Nat) : Int) := by
  have low := toInt32_emod total
  refine toInt32_congr ?_
  rw [bulklen_mod, toSize]
  generalize toInt32 total = cut at low ⊢
  omega

namespace ScanState

/-- A text has been put at the end of the current argument. -/
structure Appends (state : ScanState) (text : Bytes) (next : ScanState) : Prop where
  contents : next.curarg.contents = state.curarg.contents ++ text
  touched : next.touched = true
  curargv : next.curargv = state.curargv
  totlen : next.totlen = state.totlen
  args : next.args = state.args
  log : next.log = state.log

variable {state next : ScanState} {text : Bytes}

theorem withArg_eq_ok {newarg : Option Sds × Memory} (result : state.withArg newarg = .ok next) :
    ∃ curarg ∈ newarg.1, next =
      { state with curarg := curarg, memory := newarg.2, touched := true } := by
  obtain ⟨newarg, memory⟩ := newarg
  cases newarg with
  | none => cases result
  | some curarg => exact ⟨curarg, rfl, (Except.ok.inj result).symm⟩

theorem appends_of_withArg {newarg : Option Sds × Memory}
    (grows : ∀ curarg ∈ newarg.1, curarg.contents = state.curarg.contents ++ text)
    (result : state.withArg newarg = .ok next) : state.Appends text next := by
  obtain ⟨curarg, known, rfl⟩ := withArg_eq_ok result
  exact ⟨grows curarg known, rfl, rfl, rfl, rfl, rfl⟩

theorem appends_of_sdscatlen
    (result : state.withArg (sdscatlen state.memory state.curarg text) = .ok next) :
    state.Appends text next :=
  appends_of_withArg (fun _ => sdscatlen_contents) result

theorem appends_of_append (result : state.append text = .ok next) : state.Appends text next := by
  refine appends_of_withArg (fun curarg known => ?_) result
  split at known
  · rename_i empty
    obtain rfl := Option.some.inj known
    simp [empty]
  · exact sdscatlen_contents known

theorem appends_of_sdscatvprintf (noNul : NoNul text)
    (result : state.withArg (sdscatvprintf state.memory state.curarg text) = .ok next) :
    state.Appends text next := by
  refine appends_of_withArg (fun curarg known => ?_) result
  unfold sdscatvprintf at known
  split at known
  · cases known
  · rw [cString_of_clean noNul] at known
    exact sdscatlen_contents known

theorem consume_eq_ok {arg : VaArg} (result : state.consume = .ok (arg, next)) :
    ∃ args, state.args = arg :: args ∧
      next = { state with args := args, log := state.log ++ [.consumed arg] } := by
  unfold consume at result
  split at result
  · cases result
  · rename_i known
    obtain ⟨rfl, rfl⟩ := Prod.mk.inj (Except.ok.inj result)
    exact ⟨_, known, rfl⟩

theorem pushArgument_eq_ok (result : state.pushArgument = .ok next) :
    next.curargv = state.curargv ++ [state.curarg.contents] ∧
      next.totlen = toInt32 (toSize state.totlen + bulklen state.curarg.contents.length) ∧
      next.args = state.args ∧ next.log = state.log := by
  unfold pushArgument at result
  split at result
  · obtain rfl := Except.ok.inj result
    refine ⟨rfl, ?_, rfl, rfl⟩
    dsimp only
  · cases result

/-- The arguments that a run has if `events` are still to come. -/
def outlook (state : ScanState) (events : List Event) : List Bytes :=
  state.curargv ++ replay state.curarg.contents state.touched events

/-- `totlen` is the length of the arguments, as an `int`. -/
def Counted (state : ScanState) : Prop :=
  state.totlen = toInt32 (state.curargv.flatMap formatBulk).length

/-- What has happened between two states. -/
structure Advances (state : ScanState) (events : List Event) (next : ScanState) : Prop where
  log : next.log = state.log ++ events
  outlook : ∀ more, state.outlook (events ++ more) = next.outlook more
  counted : state.Counted → next.Counted
  size : next.curarg.contents.length ≤ state.curarg.contents.length + eventsSize events

/-- Events that put a text at the end of the current argument. -/
theorem advances_of_grown {events : List Event} (log : next.log = state.log ++ events)
    (curargv : next.curargv = state.curargv) (totlen : next.totlen = state.totlen)
    (contents : next.curarg.contents = state.curarg.contents ++ text)
    (touched : next.touched = true) (size : text.length ≤ eventsSize events)
    (replayed : ∀ cur touched more, replay cur touched (events ++ more) =
      replay (cur ++ text) true more) : state.Advances events next where
  log := log
  outlook := fun more => by rw [outlook, outlook, replayed, curargv, contents, touched]
  counted := fun counted => by rw [Counted, totlen, curargv, counted]
  size := by
    rw [contents, List.length_append]
    omega

theorem Appends.advances {event : Event} (appends : state.Appends text next)
    (size : text.length ≤ event.size)
    (replayed : ∀ cur touched more, replay cur touched (event :: more) =
      replay (cur ++ text) true more) : state.Advances [event] (next.logged event) :=
  advances_of_grown (by simp [logged, appends.log]) appends.curargv appends.totlen
    appends.contents appends.touched (by simpa using size) replayed

theorem Advances.trans {state middle next : ScanState} {events more : List Event}
    (first : state.Advances events middle) (second : middle.Advances more next) :
    state.Advances (events ++ more) next where
  log := by rw [second.log, first.log, List.append_assoc]
  outlook := fun later => by rw [List.append_assoc, first.outlook, second.outlook]
  counted := second.counted ∘ first.counted
  size := by
    have firstSize := first.size
    have secondSize := second.size
    rw [eventsSize_append]
    omega

theorem Advances.refl (state : ScanState) : state.Advances [] state where
  log := by simp
  outlook := fun _ => rfl
  counted := id
  size := Nat.le_refl _

/-- A variadic argument is taken, and its text is put at the end of the current argument. -/
theorem Appends.advances_consumed {arg : VaArg} {middle : ScanState}
    (consumed : state.consume = .ok (arg, middle)) (appends : middle.Appends text next) :
    state.Advances [.consumed arg, .appended text] (next.logged (.appended text)) := by
  obtain ⟨args, known, rfl⟩ := consume_eq_ok consumed
  refine advances_of_grown ?_ appends.curargv appends.totlen appends.contents appends.touched
    (by simp [Event.size]) fun cur touched more => rfl
  simp [logged, appends.log]

end ScanState

section Step

variable {printf : Printf} {state next : ScanState}

theorem step_space (result : step printf state .space = .ok next) :
    next.args = state.args ∧ state.Advances [.separator] next := by
  rw [step] at result
  split at result
  · rename_i touched
    obtain ⟨middle, pushed, result⟩ := bind_eq_ok result
    obtain ⟨curargv, totlen, args, log⟩ := ScanState.pushArgument_eq_ok pushed
    split at result
    · cases result
    · rename_i curarg memory fresh
      have empty : curarg.contents = [] := by
        unfold sdsempty at fresh
        split at fresh <;> simp_all
        rw [← fresh.1]
      obtain rfl := Except.ok.inj result
      refine ⟨args, ⟨by simp [ScanState.logged, log], fun more => ?_, fun counted => ?_,
        by simp [ScanState.logged, empty]⟩⟩
      · simp [ScanState.outlook, ScanState.logged, replay, touched, curargv, empty]
      · simp only [ScanState.Counted, ScanState.logged] at counted ⊢
        rw [totlen, counted, toInt32_add_bulklen, curargv]
        simp
  · rename_i untouched
    obtain rfl := Except.ok.inj result
    refine ⟨rfl, ⟨rfl, fun more => ?_, id, Nat.le_add_right _ _⟩⟩
    simp [ScanState.outlook, ScanState.logged, replay, untouched]

/-- A round of the loop does what the directive and the variadic arguments say. -/
theorem step_events {directive : Directive} (result : step printf state directive = .ok next) :
    ∃ events, directive.events printf state.args = some (events, next.args) ∧
      state.Advances events next := by
  cases directive with
  | space =>
      obtain ⟨args, advances⟩ := step_space result
      exact ⟨[.separator], by rw [Directive.events, args], advances⟩
  | invalid => cases result
  | literal byte =>
      rw [step] at result
      obtain ⟨middle, grown, result⟩ := bind_eq_ok result
      obtain rfl := Except.ok.inj result
      have appends := ScanState.appends_of_sdscatlen grown
      exact ⟨[.copied byte], by rw [Directive.events, ← appends.args]; rfl,
        appends.advances (Nat.le_refl _) fun _ _ _ => rfl⟩
  | percent =>
      rw [step] at result
      obtain ⟨middle, grown, result⟩ := bind_eq_ok result
      obtain rfl := Except.ok.inj result
      have appends := ScanState.appends_of_sdscatlen grown
      exact ⟨[.appended (ascii "%")], by rw [Directive.events, ← appends.args]; rfl,
        appends.advances (Nat.le_refl _) fun _ _ _ => rfl⟩
  | string =>
      rw [step] at result
      obtain ⟨⟨arg, middle⟩, consumed, result⟩ := bind_eq_ok result
      match arg, consumed, result with
      | .pointer none, _, result => cases result
      | .size _, _, result => cases result
      | .number _ _, _, result => cases result
      | .pointer (some memory), consumed, result =>
          obtain ⟨last, grown, result⟩ := bind_eq_ok result
          obtain rfl := Except.ok.inj result
          have appends := ScanState.appends_of_append grown
          obtain ⟨args, known, rfl⟩ := ScanState.consume_eq_ok consumed
          refine ⟨_, ?_, appends.advances_consumed consumed⟩
          rw [known, Directive.events, ScanState.logged, appends.args]
  | binary =>
      rw [step] at result
      obtain ⟨⟨arg, middle⟩, consumed, result⟩ := bind_eq_ok result
      match arg, consumed, result with
      | .pointer none, _, result => cases result
      | .size _, _, result => cases result
      | .number _ _, _, result => cases result
      | .pointer (some memory), consumed, result =>
          obtain ⟨⟨arg, later⟩, consumedToo, result⟩ := bind_eq_ok result
          match arg, consumedToo, result with
          | .pointer _, _, result => cases result
          | .number _ _, _, result => cases result
          | .size size, consumedToo, result =>
              dsimp only at result
              split at result
              · rename_i inside
                obtain ⟨last, grown, result⟩ := bind_eq_ok result
                obtain rfl := Except.ok.inj result
                have appends := ScanState.appends_of_append grown
                obtain ⟨args, known, rfl⟩ := ScanState.consume_eq_ok consumed
                obtain ⟨more, knownToo, rfl⟩ := ScanState.consume_eq_ok consumedToo
                dsimp only at knownToo
                refine ⟨[.consumed (.pointer (some memory)), .consumed (.size size),
                  .appended (memory.take size)], ?_, ScanState.advances_of_grown ?_
                  appends.curargv appends.totlen appends.contents appends.touched
                  (by simp [Event.size]) fun _ _ _ => rfl⟩
                · rw [known, knownToo, Directive.events, if_pos inside, ScanState.logged,
                    appends.args]
                · simp [ScanState.logged, appends.log]
              · cases result
  | printf type spec =>
      rw [step] at result
      obtain ⟨⟨arg, middle⟩, consumed, result⟩ := bind_eq_ok result
      match arg, consumed, result with
      | .pointer _, _, result => cases result
      | .size _, _, result => cases result
      | .number given bits, consumed, result =>
          dsimp only at result
          obtain ⟨args, known, rfl⟩ := ScanState.consume_eq_ok consumed
          split at result
          · cases result
          · rename_i same
            rw [not_not] at same
            split at result
            · rename_i short
              obtain ⟨last, grown, result⟩ := bind_eq_ok result
              obtain rfl := Except.ok.inj result
              have appends := ScanState.appends_of_sdscatvprintf (printf.noNul _ _) grown
              refine ⟨_, ?_, appends.advances_consumed consumed⟩
              rw [known, Directive.events, if_pos same, if_pos short, ScanState.logged,
                appends.args]
            · rename_i long
              obtain rfl := Except.ok.inj result
              refine ⟨[.consumed (.number given bits)], ?_, ScanState.advances_of_grown rfl rfl rfl
                (List.append_nil _).symm rfl (Nat.zero_le _) fun _ _ _ => ?_⟩
              · rw [known, Directive.events, if_pos same, if_neg long]
              · simp [replay]

end Step

/-! ## The run -/

section Run

variable {printf : Printf} {memory : Memory} {format : Bytes} {args : List VaArg}
  {state next : ScanState}

theorem foldlM_events {directives : List Directive}
    (result : directives.foldlM (step printf) state = .ok next) :
    ∃ events, eventsOf printf directives state.args = some (events, next.args) ∧
      state.Advances events next := by
  induction directives generalizing state with
  | nil =>
      obtain rfl := Except.ok.inj result
      exact ⟨[], rfl, .refl state⟩
  | cons directive directives induction =>
      rw [List.foldlM_cons] at result
      obtain ⟨middle, first, result⟩ := bind_eq_ok result
      obtain ⟨events, own, advances⟩ := step_events first
      obtain ⟨more, rest, advancesToo⟩ := induction result
      exact ⟨events ++ more, by simp [eventsOf, own, rest], advances.trans advancesToo⟩

/-- What a format and its variadic arguments make of a run: the arguments of the command
are those that the log tells, and so is their length. -/
structure Scanned (printf : Printf) (format : Bytes) (args : List VaArg) (state : ScanState) :
    Prop where
  events : eventsOf printf (directives (cString format)) args = some (state.log, state.args)
  curargv : state.curargv = replay [] false state.log
  counted : state.Counted

theorem scan_scanned (result : scan printf memory format args = .ok state) :
    Scanned printf format args state := by
  unfold scan at result
  split at result
  · cases result
  · rename_i curarg rest fresh
    have empty : curarg.contents = [] := by
      unfold sdsempty at fresh
      split at fresh <;> simp_all
      rw [← fresh.1]
    obtain ⟨middle, ran, result⟩ := bind_eq_ok result
    obtain ⟨events, known, advances⟩ := foldlM_events ran
    have log : middle.log = events := by simpa using advances.log
    have outlook := advances.outlook []
    have counted : middle.Counted := advances.counted (by simp [ScanState.Counted, toInt32])
    simp only [ScanState.outlook, List.append_nil, List.nil_append, empty] at outlook
    dsimp only at known
    split at result
    · rename_i touched
      obtain ⟨curargv, totlen, rest, same⟩ := ScanState.pushArgument_eq_ok result
      refine ⟨by rw [known, same, log, rest], ?_, ?_⟩
      · rw [curargv, same, log, outlook, touched]
        simp [replay]
      · rw [ScanState.Counted] at counted ⊢
        rw [totlen, counted, toInt32_add_bulklen, curargv]
        simp
    · rename_i untouched
      obtain rfl := Except.ok.inj result
      refine ⟨by rw [known, log], ?_, counted⟩
      rw [log, outlook]
      simp [replay, untouched]

end Run

end Libvalkey.Format
