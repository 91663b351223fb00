import Libvalkey.Reader.Acceptance

/-! # Streams of frames

The run of the consumer on frames puts out the values that were encoded, one for each frame. -/

namespace Libvalkey

open ValkeyReader Incremental

variable {Double : Type}

section Steps

variable {Heap Obj : Type} {ffc : DoubleParser Double} {fn : ReplyObjectFunctions Heap Obj Double}
  {r next last : ValkeyReader Heap Obj}

/-- A reader is ready for what follows an item. -/
theorem ready_of_item (ready : Ready r) (busy : r.task ≠ []) (short : overlongLine r = false)
    (item : processItem ffc fn r = (.ok, next)) : Ready next ∧ next.reply.isSome = true := by
  have leaves := leaves_processItem ffc fn ready.started busy
  rcases processItem_cases ffc fn ready.self_aligned busy short with ⟨continues, _⟩ |
    ⟨waiting, _, waits, _⟩
  · rw [item] at leaves continues
    cases continues with
    | ok aligned consumed alive =>
        exact ⟨⟨alive.trans ready.alive, aligned.inside, fun _ => leaves.2⟩, leaves.2⟩
  · rw [item] at waits
    cases waits

theorem step_of_item (ready : Ready r) (busy : r.task ≠ []) (short : overlongLine r = false)
    (item : processItem ffc fn r = (.ok, next)) :
    (readerConsumer ffc fn).step r.park r.unread = itemVerdict (.ok, next) := by
  have started := streamStep_of_ready ffc fn ready
  rw [startReply_of_busy busy, nextItem, short, item] at started
  exact started

/-- The consumer puts out the reply that the items come to. -/
theorem Steps.run (steps : Steps ffc fn r last) (ready : Ready r) (busy : r.task ≠ [])
    (done : last.task = []) :
    ∃ reply, last.reply = some reply ∧ Ready { last with reply := none } ∧
      (readerConsumer ffc fn).run r.park r.unread =
        (emitted (reply, last.heap) ::
            ((readerConsumer ffc fn).run { last with reply := none }.park last.unread).1,
          ((readerConsumer ffc fn).run { last with reply := none }.park last.unread).2) := by
  induction steps with
  | refl => exact absurd done busy
  | @step r next last item short shorter steps induction =>
      obtain ⟨nextReady, replied⟩ := ready_of_item ready busy short item
      have step := step_of_item ready busy short item
      by_cases complete : next.task = []
      · cases steps with
        | refl =>
            obtain ⟨reply, replied⟩ := Option.isSome_iff_exists.mp replied
            rw [itemVerdict_of_done done] at step
            refine ⟨reply, replied, ⟨nextReady.alive, nextReady.inside, ?_⟩, ?_⟩
            · intro two
              simp [done] at two
            · rw [Consumer.run_of_progress _ step, replied]
              rfl
        | step further => simp [processItem, complete] at further
      · obtain ⟨reply, same, lastReady, run⟩ := induction nextReady complete done
        have progress : (readerConsumer ffc fn).step r.park r.unread =
            .progress [] next.park next.unread := by
          rw [step, itemVerdict, if_neg complete]
        refine ⟨reply, same, lastReady, ?_⟩
        rw [Consumer.run_of_progress _ progress, List.nil_append, run]

end Steps

/-! ## Frames -/

/-- A reply that the consumer puts out is a tree. -/
def Decodes (ffc : DoubleParser Double) (output : Option Nat × ReplyHeap Double)
    (tree : ReplyTree) : Prop :=
  ∃ reply, output.1 = some reply ∧ Holds ffc output.2 reply tree

section Frames

variable {ffc : DoubleParser Double} {maxelements : Int}

/-- The consumer after one frame. -/
theorem run_frame {tree : ReplyTree} {bytes more : Bytes}
    (accepted : Accepted ffc maxelements tree bytes) {r : ValkeyReader (ReplyHeap Double) Nat}
    (ready : Ready r) (idle : r.task = []) (limit : r.maxelements = maxelements)
    (split : r.unread = bytes ++ more) :
    ∃ output last, Decodes ffc output tree ∧ Ready last ∧ last.task = [] ∧
      last.maxelements = maxelements ∧ last.unread = more ∧
      (readerConsumer ffc (defaultFunctions Double)).run r.park r.unread =
        (output :: ((readerConsumer ffc (defaultFunctions Double)).run last.park last.unread).1,
          ((readerConsumer ffc (defaultFunctions Double)).run last.park last.unread).2) := by
  have atValue := atValue_startReply ready idle
  rw [split] at atValue
  have sameLimit : (startReply r).maxelements = maxelements := by
    rw [startReply, if_pos idle]
    exact limit
  obtain ⟨obj, tasks, steps⟩ :=
    accepted.frame.steps accepted.shortLines accepted.countable _ _ _ _ sameLimit atValue
  obtain ⟨reply, replied, lastReady, run⟩ :=
    steps.run ready.startReply (startReply_task_ne_nil r) rfl
  rw [run_startReply ffc (defaultFunctions Double) ready] at run
  have unread := (atValue.room bytes).2
  refine ⟨_, _, ?_, lastReady, rfl, sameLimit, unread, run⟩
  have held := tree.holds_layout ffc (startReply r).heap []
  rw [List.append_nil] at held
  obtain rfl : (startReply r).heap.length = reply := by
    have root : (if ([] : List (ReadTask Nat)) = [] then some (startReply r).heap.length
      else (startReply r).reply) = some reply := replied
    rw [if_pos rfl] at root
    exact Option.some.inj root
  exact ⟨_, rfl, held⟩

/-- The consumer after frames. -/
theorem run_frames {trees : List ReplyTree} {bytes more : Bytes}
    (frames : Frames ffc maxelements trees bytes) (short : ReplyTree.AllShortLines trees)
    (countable : ReplyTree.AllCountable trees) {r : ValkeyReader (ReplyHeap Double) Nat}
    (ready : Ready r) (idle : r.task = []) (limit : r.maxelements = maxelements)
    (split : r.unread = bytes ++ more) :
    ∃ outputs last, List.Forall₂ (Decodes ffc) outputs trees ∧ Ready last ∧ last.task = [] ∧
      last.maxelements = maxelements ∧ last.unread = more ∧
      (readerConsumer ffc (defaultFunctions Double)).run r.park r.unread =
        (outputs ++ ((readerConsumer ffc (defaultFunctions Double)).run last.park last.unread).1,
          ((readerConsumer ffc (defaultFunctions Double)).run last.park last.unread).2) := by
  induction trees generalizing bytes r with
  | nil =>
      cases frames
      exact ⟨[], r, .nil, ready, idle, limit, split, rfl⟩
  | cons tree trees induction =>
      cases frames with
      | @cons _ _ first others frame frames =>
          rw [List.append_assoc] at split
          obtain ⟨output, next, decodes, nextReady, nextIdle, nextLimit, unread, run⟩ :=
            run_frame ⟨frame, short.1, countable.1⟩ ready idle limit split
          obtain ⟨outputs, last, all, lastReady, lastIdle, lastLimit, left, rest⟩ :=
            induction frames short.2 countable.2 nextReady nextIdle nextLimit unread
          refine ⟨output :: outputs, last, .cons decodes all, lastReady, lastIdle,
            lastLimit, left, ?_⟩
          rw [run, rest]
          rfl

end Frames

end Libvalkey
