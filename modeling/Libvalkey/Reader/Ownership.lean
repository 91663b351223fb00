import Libvalkey.Reader.Allocations

/-! # The owners of reply objects

The functions of `valkey.c` that make objects, when their allocations fail. Every object is
below the partial reply of the reader or a reply that was handed to its caller, or it has been
freed once. -/

namespace Libvalkey

open ValkeyReader

variable {Double : Type}

/-! ## Memory -/

/-- The objects, the addresses that have been freed, in order, and the number of attempts to
allocate something. -/
structure Memory (Double : Type) where
  objects : ReplyHeap Double
  freed : List Nat
  attempts : Nat

section Memory

variable (allocates : Nat → Bool)

def Memory.malloc (memory : Memory Double) : Bool × Memory Double :=
  (allocates memory.attempts, { memory with attempts := memory.attempts + 1 })

/-- A function that makes an object with a number of allocations. What it has allocated when one
of them fails it frees again. -/
def allocating (create : ReplyHeap Double → Option Nat × ReplyHeap Double) :
    Nat → Memory Double → Option Nat × Memory Double
  | 0, memory =>
      let (obj, objects) := create memory.objects
      (obj, { memory with objects := objects })
  | count + 1, memory =>
      match memory.malloc allocates with
      | (false, memory) => (none, memory)
      | (true, memory) => allocating create count memory

/-- `freeReplyObject`, up to a depth. -/
def Memory.freeTo : Nat → Memory Double → Nat → Memory Double
  | 0, memory, _ => memory
  | depth + 1, memory, reply =>
      match memory.objects[reply]?.join with
      | none => { memory with freed := memory.freed ++ [reply] }
      | some r =>
          let memory :=
            if r.type.isAggregate then
              r.element.foldl
                (fun memory child =>
                  match child with
                  | none => memory
                  | some child => Memory.freeTo depth memory child)
                memory
            else memory
          { memory with
            objects := memory.objects.set reply none
            freed := memory.freed ++ [reply] }

/-- An object is at most as deep as there are objects. -/
def Memory.freeReplyObject (memory : Memory Double) (reply : Nat) : Memory Double :=
  memory.freeTo memory.objects.length reply

/-- `defaultFunctions`: the object itself is allocated first, then its text or its slots. -/
def allocatingFunctions : ReplyObjectFunctions (Memory Double) Nat Double where
  createString memory task parent str len :=
    allocating allocates (createStringObject · task parent str len) 2 memory
  createArray memory task parent elements :=
    allocating allocates (createArrayObject · task parent elements) (if elements > 0 then 2 else 1)
      memory
  createInteger memory task parent value :=
    allocating allocates (createIntegerObject · task parent value) 1 memory
  createDouble memory task parent value str len :=
    allocating allocates (createDoubleObject · task parent value str len) 2 memory
  createNil memory task parent := allocating allocates (createNilObject · task parent) 1 memory
  createBool memory task parent bval :=
    allocating allocates (createBoolObject · task parent bval) 1 memory
  freeObject := Memory.freeReplyObject

end Memory

/-! ## Forests -/

/-- The addresses of the objects in and below some slots, with each as often as it is reached. -/
inductive Forest (objects : ReplyHeap Double) : List (Option Nat) → List Nat → Prop
  | nil : Forest objects [] []
  | hole {slots : List (Option Nat)} {beside : List Nat} (rest : Forest objects slots beside) :
      Forest objects (none :: slots) beside
  | tree {a : Nat} {obj : ReplyObject Double} {slots : List (Option Nat)} {below beside : List Nat}
      (found : objects[a]? = some (some obj))
      (aggregate : obj.element ≠ [] → obj.type.isAggregate = true)
      (children : Forest objects obj.element below) (rest : Forest objects slots beside) :
      Forest objects (some a :: slots) (a :: (below ++ beside))

section Forests

variable {objects changed : ReplyHeap Double} {slots : List (Option Nat)} {addresses : List Nat}

/-- Objects that are not in a forest do not matter. -/
theorem Forest.congr (forest : Forest objects slots addresses)
    (same : ∀ a ∈ addresses, changed[a]? = objects[a]?) : Forest changed slots addresses := by
  induction forest with
  | nil => exact .nil
  | hole rest induction => exact .hole (induction same)
  | tree found aggregate children rest below beside =>
      apply Forest.tree
      · rw [same _ List.mem_cons_self, found]
      · exact aggregate
      · exact below fun a member => same a (List.mem_cons_of_mem _ (List.mem_append_left _ member))
      · exact beside fun a member =>
          same a (List.mem_cons_of_mem _ (List.mem_append_right _ member))

theorem Forest.inside (forest : Forest objects slots addresses) :
    ∀ a ∈ addresses, ∃ obj, objects[a]? = some (some obj) := by
  induction forest with
  | nil => exact fun _ impossible => nomatch impossible
  | hole rest induction => exact induction
  | tree found aggregate children rest below beside =>
      intro a member
      rcases List.mem_cons.mp member with rfl | member
      · exact ⟨_, found⟩
      · rcases List.mem_append.mp member with member | member
        · exact below a member
        · exact beside a member

theorem Forest.append {more : List (Option Nat)} {others : List Nat}
    (forest : Forest objects slots addresses) (further : Forest objects more others) :
    Forest objects (slots ++ more) (addresses ++ others) := by
  induction forest with
  | nil => exact further
  | hole rest induction => exact .hole induction
  | tree found aggregate children rest below beside =>
      rw [List.cons_append, List.cons_append, List.append_assoc]
      exact .tree found aggregate children beside

/-- An empty slot is filled. -/
theorem Forest.fill (forest : Forest objects slots addresses) {k : Nat}
    (empty : slots[k]? = some none) {a : Nat} {tree : List Nat}
    (filled : Forest objects [some a] tree) :
    ∃ all, Forest objects (slots.set k (some a)) all ∧ all.Perm (tree ++ addresses) := by
  induction forest generalizing k with
  | nil => cases empty
  | @hole slots beside rest induction =>
      cases k with
      | zero => exact ⟨tree ++ beside, filled.append rest, .rfl⟩
      | succ k =>
          obtain ⟨all, forest, perm⟩ := induction empty
          exact ⟨all, .hole forest, perm⟩
  | @tree b obj slots below beside found aggregate children rest _ induction =>
      cases k with
      | zero => cases empty
      | succ k =>
          obtain ⟨all, forest, perm⟩ := induction empty
          refine ⟨_, .tree found aggregate children forest, ?_⟩
          apply List.perm_iff_count.mpr
          intro x
          have counts := perm.count_eq x
          simp only [List.count_append, List.count_cons] at counts ⊢
          omega

/-- An object is put below one of a forest. -/
theorem Forest.attach (forest : Forest objects slots addresses) (distinct : addresses.Nodup)
    {p k a : Nat} {parent : ReplyObject Double} {tree : List Nat} (member : p ∈ addresses)
    (found : objects[p]? = some (some parent)) (aggregate : parent.type.isAggregate = true)
    (empty : parent.element[k]? = some none)
    (stored : changed[p]? = some (some { parent with element := parent.element.set k (some a) }))
    (others : ∀ x ∈ addresses, x ≠ p → changed[x]? = objects[x]?)
    (filled : Forest changed [some a] tree) :
    ∃ all, Forest changed slots all ∧ all.Perm (tree ++ addresses) := by
  induction forest with
  | nil => cases member
  | hole rest induction =>
      obtain ⟨all, forest, perm⟩ := induction distinct member others
      exact ⟨all, .hole forest, perm⟩
  | @tree b obj slots below beside here aggregateHere children rest inner outer =>
      obtain ⟨fresh, apart⟩ := List.nodup_cons.mp distinct
      obtain ⟨belowDistinct, besideDistinct, disjoint⟩ := List.nodup_append.mp apart
      have belowOthers (x : Nat) (inside : x ∈ below) : x ∈ b :: (below ++ beside) :=
        List.mem_cons_of_mem _ (List.mem_append_left _ inside)
      have besideOthers (x : Nat) (inside : x ∈ beside) : x ∈ b :: (below ++ beside) :=
        List.mem_cons_of_mem _ (List.mem_append_right _ inside)
      have unequal {x : Nat} {list : List Nat} (inside : x ∈ list) (outside : p ∉ list) : x ≠ p :=
        fun same => outside (same ▸ inside)
      by_cases atRoot : b = p
      · subst atRoot
        obtain rfl : obj = parent := Option.some.inj (Option.some.inj (here.symm.trans found))
        have outBelow : b ∉ below := fun inside => fresh (List.mem_append_left _ inside)
        have outBeside : b ∉ beside := fun inside => fresh (List.mem_append_right _ inside)
        have childrenLater : Forest changed obj.element below :=
          children.congr fun x inside => others x (belowOthers x inside) (unequal inside outBelow)
        have restLater : Forest changed slots beside :=
          rest.congr fun x inside => others x (besideOthers x inside) (unequal inside outBeside)
        obtain ⟨all, forest, perm⟩ := childrenLater.fill empty filled
        refine ⟨_, .tree stored (fun _ => aggregate) forest restLater, ?_⟩
        apply List.perm_iff_count.mpr
        intro x
        have counts := perm.count_eq x
        simp only [List.count_append, List.count_cons] at counts ⊢
        omega
      have kept : changed[b]? = some (some obj) := by
        rw [others b List.mem_cons_self atRoot, here]
      rcases List.mem_append.mp ((List.mem_cons.mp member).resolve_left (Ne.symm atRoot)) with
        inBelow | inBeside
      · have outBeside : p ∉ beside := fun inside => disjoint p inBelow p inside rfl
        have restLater : Forest changed slots beside :=
          rest.congr fun x inside => others x (besideOthers x inside) (unequal inside outBeside)
        obtain ⟨all, forest, perm⟩ := inner belowDistinct inBelow fun x inside =>
          others x (belowOthers x inside)
        refine ⟨_, .tree kept aggregateHere forest restLater, ?_⟩
        apply List.perm_iff_count.mpr
        intro x
        have counts := perm.count_eq x
        simp only [List.count_append, List.count_cons] at counts ⊢
        omega
      · have outBelow : p ∉ below := fun inside => disjoint p inside p inBeside rfl
        have childrenLater : Forest changed obj.element below :=
          children.congr fun x inside => others x (belowOthers x inside) (unequal inside outBelow)
        obtain ⟨all, forest, perm⟩ := outer besideDistinct inBeside fun x inside =>
          others x (besideOthers x inside)
        refine ⟨_, .tree kept aggregateHere childrenLater forest, ?_⟩
        apply List.perm_iff_count.mpr
        intro x
        have counts := perm.count_eq x
        simp only [List.count_append, List.count_cons] at counts ⊢
        omega

/-! ## Freeing -/

/-- The objects at some addresses have been freed, each once, and nothing else. -/
structure Frees (before : Memory Double) (addresses : List Nat) (after : Memory Double) : Prop where
  gone : ∀ a ∈ addresses, after.objects[a]? = some none
  others : ∀ a, a ∉ addresses → after.objects[a]? = before.objects[a]?
  length : after.objects.length = before.objects.length
  freed : ∃ order, order.Perm addresses ∧ after.freed = before.freed ++ order

theorem Frees.trans {first second third : Memory Double} {left right : List Nat}
    (before : Frees first left second) (after : Frees second right third) :
    Frees first (left ++ right) third where
  gone a member := by
    by_cases late : a ∈ right
    · exact after.gone a late
    · rw [after.others a late]
      exact before.gone a ((List.mem_append.mp member).resolve_right late)
  others a outside := by
    rw [List.mem_append, not_or] at outside
    rw [after.others a outside.2, before.others a outside.1]
  length := after.length.trans before.length
  freed := by
    obtain ⟨early, earlyPerm, earlyFreed⟩ := before.freed
    obtain ⟨late, latePerm, lateFreed⟩ := after.freed
    exact ⟨early ++ late, earlyPerm.append latePerm, by rw [lateFreed, earlyFreed,
      List.append_assoc]⟩

/-- An object is freed after the ones below it. -/
theorem Frees.node {before after : Memory Double} {below : List Nat}
    (frees : Frees before below after) {a : Nat} (outside : a ∉ below)
    (inside : a < before.objects.length) :
    Frees before (a :: below)
      { after with objects := after.objects.set a none, freed := after.freed ++ [a] } where
  gone x member := by
    by_cases here : x = a
    · subst here
      exact List.getElem?_set_self (frees.length ▸ inside)
    · dsimp only
      rw [List.getElem?_set_ne (Ne.symm here)]
      exact frees.gone x ((List.mem_cons.mp member).resolve_left here)
  others x apart := by
    rw [List.mem_cons, not_or] at apart
    dsimp only
    rw [List.getElem?_set_ne (Ne.symm apart.1)]
    exact frees.others x apart.2
  length := by
    dsimp only
    rw [List.length_set, frees.length]
  freed := by
    obtain ⟨order, perm, freed⟩ := frees.freed
    exact ⟨order ++ [a], (perm.append_right [a]).trans (List.perm_append_singleton a below),
      by rw [freed, List.append_assoc]⟩

/-- The free of the objects in and below some slots. -/
def Memory.freeSlots (depth : Nat) (memory : Memory Double) (slots : List (Option Nat)) :
    Memory Double :=
  slots.foldl
    (fun memory child =>
      match child with
      | none => memory
      | some child => memory.freeTo depth child)
    memory

theorem freeTo_of_found {memory : Memory Double} {depth a : Nat} {obj : ReplyObject Double}
    (found : memory.objects[a]? = some (some obj))
    (aggregate : obj.element ≠ [] → obj.type.isAggregate = true) :
    memory.freeTo (depth + 1) a =
      { memory.freeSlots depth obj.element with
        objects := (memory.freeSlots depth obj.element).objects.set a none
        freed := (memory.freeSlots depth obj.element).freed ++ [a] } := by
  rw [Memory.freeTo, found]
  dsimp only [Option.join_some]
  by_cases leaf : obj.element = []
  · rw [leaf]
    split <;> rfl
  · rw [if_pos (aggregate leaf)]
    rfl

theorem frees_freeSlots {memory : Memory Double} (forest : Forest objects slots addresses)
    (distinct : addresses.Nodup) {depth : Nat} (deep : addresses.length ≤ depth)
    (same : ∀ a ∈ addresses, memory.objects[a]? = objects[a]?) :
    Frees memory addresses (memory.freeSlots depth slots) := by
  induction forest generalizing memory depth with
  | nil => exact ⟨nofun, fun _ _ => rfl, rfl, [], .rfl, (List.append_nil _).symm⟩
  | hole rest induction => exact induction distinct deep same
  | @tree b obj slots below beside found aggregate children rest inner outer =>
      obtain ⟨fresh, apart⟩ := List.nodup_cons.mp distinct
      obtain ⟨belowDistinct, besideDistinct, disjoint⟩ := List.nodup_append.mp apart
      rw [List.length_cons, List.length_append] at deep
      obtain ⟨depth, rfl⟩ : ∃ less, depth = less + 1 := ⟨depth - 1, by omega⟩
      have first : memory.objects[b]? = some (some obj) := by
        rw [same b List.mem_cons_self, found]
      have children : Frees memory below (memory.freeSlots depth obj.element) :=
        inner belowDistinct (by omega) fun a member =>
          same a (List.mem_cons_of_mem _ (List.mem_append_left _ member))
      have node : Frees memory (b :: below) (memory.freeTo (depth + 1) b) := by
        rw [freeTo_of_found first aggregate]
        apply children.node (fun member => fresh (List.mem_append_left _ member))
        exact (List.getElem?_eq_some_iff.mp first).1
      have rest : Frees (memory.freeTo (depth + 1) b) beside
          ((memory.freeTo (depth + 1) b).freeSlots (depth + 1) slots) := by
        apply outer besideDistinct (by omega)
        intro a member
        rw [node.others a, same a (List.mem_cons_of_mem _ (List.mem_append_right _ member))]
        rintro inside
        rcases List.mem_cons.mp inside with rfl | inside
        · exact fresh (List.mem_append_right _ member)
        · exact disjoint a inside a member rfl
      have both := node.trans rest
      rw [List.cons_append] at both
      exact both

end Forests

/-! ## Making objects -/

/-- What a function that makes an object comes to: nothing, or a new object in the slot of its
task. -/
inductive Makes (memory : Memory Double) (task : ReadTask Nat) (parent : Option (ReadTask Nat))
    (size : Nat) : Option Nat × Memory Double → Prop
  | none (attempts : Nat) : Makes memory task parent size
      (none, { memory with attempts := attempts })
  | some (attempts : Nat) {new : ReplyObject Double}
      (slots : new.element = List.replicate size none)
      (type : size ≠ 0 → new.type = task.type.getD .array) :
      Makes memory task parent size
        (some memory.objects.length,
          { memory with
            objects := setElement (memory.objects ++ [some new]) task parent memory.objects.length
            attempts := attempts })

section Making

variable {allocates : Nat → Bool} {memory : Memory Double} {task : ReadTask Nat}
  {parent : Option (ReadTask Nat)} {size : Nat}

theorem makes_allocating {create : ReplyHeap Double → Option Nat × ReplyHeap Double}
    (creates : create memory.objects = (none, memory.objects) ∨
      ∃ new, new.element = List.replicate size none ∧
        (size ≠ 0 → new.type = task.type.getD .array) ∧
        create memory.objects = addObject memory.objects task parent new) (count : Nat) :
    Makes memory task parent size (allocating allocates create count memory) := by
  suffices drawn : ∀ attempts, Makes memory task parent size
      (allocating allocates create count { memory with attempts := attempts }) from drawn memory.attempts
  intro attempts
  induction count generalizing attempts with
  | zero =>
      unfold allocating
      rcases creates with failed | ⟨new, slots, type, made⟩
      · rw [failed]
        exact .none attempts
      · rw [made]
        exact .some attempts slots type
  | succ count induction =>
      unfold allocating Memory.malloc
      cases allocates attempts with
      | false => exact .none (attempts + 1)
      | true => exact induction (attempts + 1)

theorem makes_creates {result : Option Nat × Memory Double}
    (created : Creates (allocatingFunctions allocates) memory task parent size result) :
    Makes memory task parent size result := by
  cases created with
  | string str len =>
      apply makes_allocating
      unfold createStringObject
      dsimp only
      split
      · exact .inl rfl
      · split
        · exact .inr ⟨_, rfl, nofun, rfl⟩
        · exact .inr ⟨_, rfl, nofun, rfl⟩
  | array => exact makes_allocating (.inr ⟨_, rfl, fun _ => rfl, rfl⟩) _
  | integer value => exact makes_allocating (.inr ⟨_, rfl, nofun, rfl⟩) _
  | double value str len =>
      apply makes_allocating
      unfold createDoubleObject
      split
      · exact .inl rfl
      · exact .inr ⟨_, rfl, nofun, rfl⟩
  | nil => exact makes_allocating (.inr ⟨_, rfl, nofun, rfl⟩) _
  | bool value => exact makes_allocating (.inr ⟨_, rfl, nofun, rfl⟩) _

theorem draws_memory {after : Memory Double}
    (draws : Draws (Memory.malloc allocates) memory after) :
    ∃ attempts, after = { memory with attempts := attempts } := by
  induction draws with
  | refl => exact ⟨memory.attempts, rfl⟩
  | tail _ drawn induction =>
      obtain ⟨attempts, rfl⟩ := induction
      exact ⟨attempts + 1, drawn⟩

end Making

/-! ## The stack -/

/-- The tasks above the innermost open aggregate fill its slots in order. `made` is zero for a
current task, whose object is still to be made. -/
inductive Nesting (objects : ReplyHeap Double) : Nat → Nat → List (ReadTask Nat) → Prop
  | root {made bound : Nat} {task : ReadTask Nat} : Nesting objects made bound [task]
  | child {made bound k p : Nat} {cur prv : ReadTask Nat} {rest : List (ReadTask Nat)}
      {obj : ReplyObject Double} {type : ReplyType} (held : prv.obj = some p) (newer : p < bound)
      (found : objects[p]? = some (some obj)) (aggregate : obj.type.isAggregate = true)
      (typed : prv.type = some type) (opens : type.isAggregate = true)
      (elements : prv.elements = obj.element.length) (small : obj.element.length ≤ 2 ^ 31)
      (idx : cur.idx = (k : Int)) (inside : k < obj.element.length)
      (empty : ∀ j, k + made ≤ j → j < obj.element.length → obj.element[j]? = some none)
      (below : Nesting objects 1 p (prv :: rest)) : Nesting objects made bound (cur :: prv :: rest)

section Stack

variable {objects changed : ReplyHeap Double} {made bound : Nat} {stack : List (ReadTask Nat)}

theorem Nesting.congr (nesting : Nesting objects made bound stack)
    (same : ∀ a < bound, changed[a]? = objects[a]?) : Nesting changed made bound stack := by
  induction nesting with
  | root => exact .root
  | child held newer found aggregate typed opens elements small idx inside empty below induction =>
      refine .child held newer ?_ aggregate typed opens elements small idx inside empty ?_
      · rw [same _ newer, found]
      · exact induction fun a before => same a (before.trans newer)

theorem Nesting.weaken {later : Nat} (nesting : Nesting objects made bound stack)
    (before : bound ≤ later) : Nesting objects made later stack := by
  cases nesting with
  | root => exact .root
  | child held newer found aggregate typed opens elements small idx inside empty below =>
      exact .child held (newer.trans_le before) found aggregate typed opens elements
        small idx inside
        empty below

theorem Nesting.retype {cur other : ReadTask Nat} {rest : List (ReadTask Nat)}
    (nesting : Nesting objects made bound (cur :: rest)) (same : other.idx = cur.idx) :
    Nesting objects made bound (other :: rest) := by
  cases nesting with
  | root => exact .root
  | child held newer found aggregate typed opens elements small idx inside empty below =>
      exact .child held newer found aggregate typed opens elements small (same.trans idx) inside
        empty below

/-- The next task after the object of the current one has been made is never a root. -/
theorem Nesting.move (nesting : Nesting objects 1 bound stack) :
    moveToNextTask stack = [] ∨
      (Nesting objects 0 bound (moveToNextTask stack) ∧ (moveToNextTask stack).length ≠ 1) := by
  generalize one : 1 = made at nesting
  induction nesting with
  | root => exact .inl rfl
  | @child made bound k p cur prv rest obj type held newer found aggregate typed opens
      elements small
      idx inside empty below induction =>
      subst one
      unfold moveToNextTask
      split
      · exact (induction rfl).imp_right fun later => ⟨later.1.weaken newer.le, later.2⟩
      rename_i more
      refine .inr ⟨?_, by simp⟩
      refine .child (k := k + 1) held newer found aggregate typed opens elements small ?_ ?_
        (fun j after => empty j (by omega)) below
      · have next : toInt32 ((k : Int) + 1) = ((k + 1 : Nat) : Int) := by
          have whole := @toInt32_of_small (k + 1) (by omega)
          push_cast at whole ⊢
          exact whole
        rw [idx, next]
      · omega

end Stack

/-! ## Accounts -/

/-- Every object is below one of the owners, once, or it has been freed, once. -/
structure Accounted (memory : Memory Double) (owners : List Nat) : Prop where
  once : ∃ owned, Forest memory.objects (owners.map some) owned ∧
    (owned ++ memory.freed).Perm (List.range memory.objects.length)
  gone : ∀ a ∈ memory.freed, memory.objects[a]? = some none

section Accounts

variable {memory : Memory Double} {owners : List Nat} {a : Nat}

theorem Accounted.attempts (accounted : Accounted memory owners) (attempts : Nat) :
    Accounted { memory with attempts := attempts } owners :=
  ⟨accounted.once, accounted.gone⟩

/-- An owner is freed with everything below it. -/
theorem Accounted.free (accounted : Accounted memory (a :: owners)) :
    Accounted (memory.freeReplyObject a) owners := by
  obtain ⟨⟨owned, forest, perm⟩, gone⟩ := accounted
  have distinct : (owned ++ memory.freed).Nodup := perm.nodup_iff.mpr List.nodup_range
  have sized := perm.length_eq
  rw [List.length_append, List.length_range] at sized
  obtain ⟨apart, _, disjoint⟩ := List.nodup_append.mp distinct
  rw [List.map_cons] at forest
  cases forest with
  | @tree _ obj _ below beside found aggregate children rest =>
      have tree : Forest memory.objects [some a] (a :: below) := by
        have alone := Forest.tree found aggregate children .nil
        rwa [List.append_nil] at alone
      rw [← List.cons_append] at apart sized disjoint perm
      obtain ⟨treeDistinct, _, away⟩ := List.nodup_append.mp apart
      rw [List.length_append] at sized
      have frees : Frees memory (a :: below) (memory.freeReplyObject a) :=
        frees_freeSlots tree treeDistinct (by omega) fun _ _ => rfl
      obtain ⟨order, same, freed⟩ := frees.freed
      refine ⟨⟨beside, ?_, ?_⟩, ?_⟩
      · apply rest.congr
        intro x member
        exact frees.others x fun inside => away x inside x member rfl
      · rw [frees.length, freed]
        refine List.Perm.trans ?_ perm
        apply List.perm_iff_count.mpr
        intro x
        have counts := same.count_eq x
        simp only [List.count_append] at counts ⊢
        omega
      · intro x member
        rw [freed] at member
        rcases List.mem_append.mp member with early | late
        · by_cases inside : x ∈ a :: below
          · exact frees.gone x inside
          · rw [frees.others x inside]
            exact gone x early
        · exact frees.gone x (same.mem_iff.mp late)

/-- The first owner becomes the last one. -/
theorem Accounted.hand (accounted : Accounted memory (a :: owners)) :
    Accounted memory (owners ++ [a]) := by
  obtain ⟨⟨owned, forest, perm⟩, gone⟩ := accounted
  rw [List.map_cons] at forest
  cases forest with
  | @tree _ obj _ below beside found aggregate children rest =>
      refine ⟨⟨beside ++ (a :: (below ++ [])), ?_, ?_⟩, gone⟩
      · rw [List.map_append]
        exact rest.append (.tree found aggregate children .nil)
      · refine List.Perm.trans ?_ perm
        apply List.perm_iff_count.mpr
        intro x
        simp only [List.count_append, List.count_cons, List.append_nil]
        omega

theorem forest_holes (objects : ReplyHeap Double) (size : Nat) :
    Forest objects (List.replicate size none) [] := by
  induction size with
  | zero => exact .nil
  | succ size induction => exact .hole induction

/-- A new object that the reader owns. -/
theorem Accounted.root (accounted : Accounted memory owners) {new : ReplyObject Double} {size : Nat}
    (slots : new.element = List.replicate size none)
    (aggregate : size ≠ 0 → new.type.isAggregate = true) (attempts : Nat) :
    Accounted { memory with objects := memory.objects ++ [some new], attempts := attempts }
      (memory.objects.length :: owners) := by
  obtain ⟨⟨owned, forest, perm⟩, gone⟩ := accounted
  have kept (x : Nat) (inside : x < memory.objects.length) :
      (memory.objects ++ [some new])[x]? = memory.objects[x]? := List.getElem?_append_left inside
  have later : Forest (memory.objects ++ [some new]) (owners.map some) owned := by
    apply forest.congr
    intro x member
    obtain ⟨obj, found⟩ := forest.inside x member
    exact kept x (List.getElem?_eq_some_iff.mp found).1
  have holes : Forest (memory.objects ++ [some new]) new.element [] :=
    slots ▸ forest_holes _ size
  refine ⟨⟨memory.objects.length :: ([] ++ owned), ?_, ?_⟩, ?_⟩
  · rw [List.map_cons]
    apply Forest.tree List.getElem?_concat_length _ holes later
    rintro children
    apply aggregate
    rintro rfl
    exact children slots
  · rw [List.length_append, List.length_singleton, List.range_succ, List.nil_append,
      List.cons_append]
    exact (perm.cons _).trans (List.perm_append_singleton _ _).symm
  · intro x member
    have freed := gone x member
    dsimp only
    rw [kept x (List.getElem?_eq_some_iff.mp freed).1, freed]

/-- A new object in a slot of one that is there. -/
theorem Accounted.child (accounted : Accounted memory owners) {new parent : ReplyObject Double}
    {size p k : Nat} (slots : new.element = List.replicate size none)
    (aggregate : size ≠ 0 → new.type.isAggregate = true) (attempts : Nat)
    (found : memory.objects[p]? = some (some parent)) (holds : parent.type.isAggregate = true)
    (empty : parent.element[k]? = some none) {objects : ReplyHeap Double}
    (stored : objects[p]? =
      some (some { parent with element := parent.element.set k (some memory.objects.length) }))
    (made : objects[memory.objects.length]? = some (some new))
    (others : ∀ x, x ≠ p → x < memory.objects.length → objects[x]? = memory.objects[x]?)
    (length : objects.length = memory.objects.length + 1) :
    Accounted { memory with objects := objects, attempts := attempts } owners := by
  obtain ⟨⟨owned, forest, perm⟩, gone⟩ := accounted
  have distinct : (owned ++ memory.freed).Nodup := perm.nodup_iff.mpr List.nodup_range
  have inside : p < memory.objects.length := (List.getElem?_eq_some_iff.mp found).1
  have notFreed : p ∉ memory.freed := by
    rintro freed
    rw [gone p freed] at found
    cases found
  have member : p ∈ owned := by
    have either := perm.mem_iff.mpr (List.mem_range.mpr inside)
    exact (List.mem_append.mp either).resolve_right notFreed
  have tree : Forest objects [some memory.objects.length] [memory.objects.length] := by
    have holes : Forest objects new.element [] := slots ▸ forest_holes _ size
    refine .tree made ?_ holes .nil
    rintro children
    apply aggregate
    rintro rfl
    exact children slots
  have kept (x : Nat) (live : x ∈ owned) (other : x ≠ p) : objects[x]? = memory.objects[x]? := by
    obtain ⟨obj, found⟩ := forest.inside x live
    exact others x other (List.getElem?_eq_some_iff.mp found).1
  obtain ⟨all, later, same⟩ :=
    forest.attach (List.nodup_append.mp distinct).1 member found holds empty stored kept tree
  refine ⟨⟨all, later, ?_⟩, ?_⟩
  · rw [length, List.range_succ]
    apply (same.append_right memory.freed).trans
    rw [List.append_assoc, List.singleton_append]
    exact (perm.cons _).trans (List.perm_append_singleton _ _).symm
  · intro x freed
    have nothing := gone x freed
    dsimp only
    rw [others x (fun same => notFreed (same ▸ freed)) (List.getElem?_eq_some_iff.mp nothing).1,
      nothing]

end Accounts

/-! ## The invariant -/

/-- The reply that a reader has begun, with the object of its current task at `obj`. -/
def rootReply (reply : Option Nat) (rest : List (ReadTask Nat)) (obj : Nat) : Option Nat :=
  if rest = [] then some obj else reply

theorem rootReply_of_task {r : ValkeyReader (Memory Double) Nat} {cur : ReadTask Nat}
    {rest : List (ReadTask Nat)} (busy : r.task = cur :: rest) (obj : Nat) :
    (if r.ridx = 0 then some obj else r.reply) = rootReply r.reply rest obj := by
  unfold rootReply ridx
  rw [busy]
  cases rest with
  | nil => rfl
  | cons prv rest =>
      rw [if_neg, if_neg (List.cons_ne_nil _ _)]
      simp only [List.length_cons]
      omega

/-- What the creation of the object of a current task comes to. -/
structure Made (memory after : Memory Double) (reply : Option Nat) (handed : List Nat)
    (cur : ReadTask Nat) (rest : List (ReadTask Nat)) (size : Nat) : Prop where
  length : after.objects.length = memory.objects.length + 1
  object : ∃ new : ReplyObject Double, after.objects[memory.objects.length]? = some (some new) ∧
    new.element = List.replicate size none ∧ (size ≠ 0 → new.type = cur.type.getD .array)
  nesting : Nesting after.objects 1 memory.objects.length (cur :: rest)
  accounted : Accounted after ((rootReply reply rest memory.objects.length).toList ++ handed)

theorem made_of_makes {memory after : Memory Double} {reply : Option Nat} {handed : List Nat}
    {cur : ReadTask Nat} {rest : List (ReadTask Nat)} {size obj : Nat}
    (nesting : Nesting memory.objects 0 memory.objects.length (cur :: rest))
    (accounted : Accounted memory (reply.toList ++ handed)) (pending : rest = [] → reply = none)
    (aggregate : size ≠ 0 → (cur.type.getD .array).isAggregate = true)
    (makes : Makes memory cur rest.head? size (some obj, after)) :
    obj = memory.objects.length ∧ Made memory after reply handed cur rest size := by
  cases makes with
  | @some attempts new slots type =>
      refine ⟨rfl, ?_⟩
      have typed : size ≠ 0 → new.type.isAggregate = true := by
        intro positive
        rw [type positive]
        exact aggregate positive
      cases nesting with
      | root =>
          rw [pending rfl] at accounted
          refine ⟨?_, ⟨new, ?_, slots, type⟩, .root, ?_⟩
          · simp [setElement]
          · simp [setElement]
          · exact accounted.root slots typed attempts
      | @child _ _ k p _ prv rest parent parentType held newer found holds opened opens
          elements small
          idx inside empty below =>
          dsimp only [List.head?_cons] at *
          have attached : setElement (memory.objects ++ [some new]) cur (some prv)
              memory.objects.length = (memory.objects ++ [some new]).modify p
                (Option.map fun parent =>
                { parent with element := parent.element.set k (some memory.objects.length) }) := by
            rw [setElement, Option.bind_some, held, idx]
            rfl
          rw [attached]
          generalize changed : (memory.objects ++ [some new]).modify p (Option.map fun parent =>
            { parent with element := parent.element.set k (some memory.objects.length) }) = objects
          have length : objects.length = memory.objects.length + 1 := by
            rw [← changed, List.length_modify, List.length_append, List.length_singleton]
          have stored : objects[p]? = some (some { parent with
              element := parent.element.set k (some memory.objects.length) }) := by
            rw [← changed, List.getElem?_modify_eq, List.getElem?_append_left newer, found]
            rfl
          have kept (x : Nat) (other : x ≠ p) :
              objects[x]? = (memory.objects ++ [some new])[x]? := by
            rw [← changed, List.getElem?_modify_ne _ _ (Ne.symm other)]
          have others (x : Nat) (other : x ≠ p) (before : x < memory.objects.length) :
              objects[x]? = memory.objects[x]? := by
            rw [kept x other, List.getElem?_append_left before]
          have made : objects[memory.objects.length]? = some (some new) := by
            rw [kept _ newer.ne', List.getElem?_concat_length]
          refine ⟨length, ⟨new, made, slots, type⟩, ?_, ?_⟩
          · refine .child held newer stored holds opened opens ?_ ?_ idx ?_ ?_ ?_
            · rw [elements, List.length_set]
            · rwa [List.length_set]
            · rwa [List.length_set]
            · intro j after before
              rw [List.length_set] at before
              rw [List.getElem?_set_ne (by omega)]
              exact empty j (by omega) before
            · exact below.congr fun a before => others a before.ne (before.trans newer)
          · exact accounted.child slots typed attempts found holds
              (empty k le_rfl inside) stored made
              others length

/-- A reader, and the replies that have been handed over, while it processes items. -/
structure Owns (r : ValkeyReader (Memory Double) Nat) (handed : List Nat) : Prop where
  room : r.task.length ≤ r.tasks
  spare : 0 < r.tasks
  nesting : r.task = [] ∨ Nesting r.heap.objects 0 r.heap.objects.length r.task
  pending : r.task.length = 1 → r.reply = none
  accounted : Accounted r.heap (r.reply.toList ++ handed)
  limited : r.err = none → 0 < r.maxelements ∧ r.maxelements < 2 ^ 30
  dead : r.err ≠ none → r.reply = none ∧ r.task = []

section Steps

variable {allocates : Nat → Bool} {ffc : DoubleParser Double}
  {r : ValkeyReader (Memory Double) Nat} {handed : List Nat}

theorem owns_setError {next : ValkeyReader (Memory Double) Nat} (spare : 0 < next.tasks)
    (accounted : Accounted next.heap (next.reply.toList ++ handed)) (type : ErrorType)
    (str : String) :
    Owns (valkeyReaderSetError (allocatingFunctions allocates) next type str) handed where
  room := Nat.zero_le _
  spare := spare
  nesting := .inl rfl
  pending := nofun
  accounted := by
    unfold valkeyReaderSetError
    dsimp only
    cases reply : next.reply with
    | none =>
        rw [reply] at accounted
        exact accounted
    | some obj =>
        rw [reply] at accounted
        exact accounted.free
  limited := nofun
  dead _ := ⟨rfl, rfl⟩

theorem Owns.outcome {cur : ReadTask Nat} {rest : List (ReadTask Nat)} (owns : Owns r handed)
    (busy : r.task = cur :: rest) {result : Status × ValkeyReader (Memory Double) Nat}
    (outcome : ItemOutcome (Memory.malloc allocates) (allocatingFunctions allocates) r cur rest
      result) :
    Owns result.2 handed := by
  obtain ⟨room, spare, nesting, pending, accounted, limited, dead⟩ := owns
  rw [busy] at room nesting pending
  have nesting := nesting.resolve_left (List.cons_ne_nil _ _)
  have alive : r.err = none := by
    by_contra failed
    have stopped := (dead failed).2
    rw [busy] at stopped
    cases stopped
  rw [List.length_cons] at room
  have heapOf {heap : Memory Double} (draws : Draws (Memory.malloc allocates) r.heap heap) :
      heap.objects = r.heap.objects ∧ Accounted heap (r.reply.toList ++ handed) := by
    obtain ⟨attempts, rfl⟩ := draws_memory draws
    exact ⟨rfl, accounted.attempts attempts⟩
  have pendingRoot (root : rest = []) : r.reply = none := pending (by rw [root]; rfl)
  cases outcome with
  | @waits type next reading =>
      obtain ⟨same, accounts⟩ := heapOf reading.draws
      refine ⟨?_, spare.trans_le reading.tasks, .inr ?_, ?_, reading.reply ▸ accounts, ?_, ?_⟩
      · rw [reading.task]
        exact room.trans reading.tasks
      · rw [reading.task, same]
        exact nesting.retype rfl
      · rw [reading.task, reading.reply]
        exact pending
      · rw [reading.err, reading.maxelements]
        exact limited
      · rw [reading.err]
        exact fun failed => absurd alive failed
  | fails draws reply tasks type str =>
      exact owns_setError (spare.trans_le tasks) (reply ▸ (heapOf draws).2) type str
  | @refused type next size heap reading created =>
      obtain ⟨same, accounts⟩ := heapOf reading.draws
      rw [← reading.reply] at accounts
      cases makes_creates created with
      | none attempts =>
          exact @owns_setError _ _ handed
            { next with heap := { next.heap with attempts := attempts } }
            (spare.trans_le reading.tasks) (accounts.attempts attempts) _ _
  | @completes type next obj heap reading created =>
      obtain ⟨same, accounts⟩ := heapOf reading.draws
      obtain ⟨rfl, length, object, stack, owned⟩ :=
        made_of_makes (same ▸ nesting.retype rfl) accounts
        pendingRoot (fun impossible => absurd rfl impossible) (makes_creates created)
      refine ⟨?_, spare.trans_le reading.tasks, ?_, ?_, ?_, ?_, ?_⟩
      · dsimp only [completeItem]
        have shorter := moveToNextTask_length next.task
        rw [reading.task, List.length_cons, ← reading.task] at shorter
        exact (shorter.trans room).trans reading.tasks
      · dsimp only [completeItem]
        rw [reading.task]
        apply stack.move.imp_right
        intro moved
        exact moved.1.weaken (by omega)
      · dsimp only [completeItem]
        rw [reading.task]
        rintro single
        rcases stack.move with done | moved
        · rw [done] at single
          cases single
        · exact absurd single moved.2
      · rw [← reading.reply, ← rootReply_of_task reading.task] at owned
        exact owned
      · dsimp only [completeItem]
        rw [reading.err, reading.maxelements]
        exact limited
      · dsimp only [completeItem]
        rw [reading.err]
        exact fun failed => absurd alive failed
  | @opens type next elements obj heap reading aggregate positive admitted child created =>
      obtain ⟨same, accounts⟩ := heapOf reading.draws
      have makes := @Creates.array _ _ _ (allocatingFunctions allocates) next.heap
        { cur with type := some type } rest.head? elements.toNat
      rw [created] at makes
      have current : Nesting next.heap.objects 0 next.heap.objects.length
          ({ cur with type := some type } :: rest) := same ▸ nesting.retype rfl
      obtain ⟨rfl, length, ⟨new, made, slots, typed⟩, stack, owned⟩ :=
        made_of_makes current accounts pendingRoot (fun _ => aggregate) (makes_creates makes)
      have whole : (elements.toNat : Int) = elements := Int.toNat_of_nonneg positive.le
      have count : new.element.length = elements.toNat := by rw [slots, List.length_replicate]
      have few : elements ≤ r.maxelements * 2 := admitted (limited alive).1
      have bound := (limited alive).2
      have holds : new.type.isAggregate = true := by
        rw [typed (by omega)]
        exact aggregate
      refine ⟨child, spare.trans_le reading.tasks, .inr ?_, ?_, ?_, ?_, ?_⟩
      · refine @Nesting.child _ _ 0 _ 0 next.heap.objects.length _ _ _ new type rfl ?_
          made holds rfl
          aggregate ?_ ?_ rfl ?_ ?_ ?_
        · dsimp only [openAggregate]
          omega
        · rw [count, whole]
        · omega
        · omega
        · intro j _ before
          rw [slots] at before ⊢
          rw [List.length_replicate] at before
          exact List.getElem?_replicate_of_lt before
        · exact stack.retype rfl
      · intro single
        cases single
      · rw [← reading.reply, ← rootReply_of_task reading.task] at owned
        exact owned
      · dsimp only [openAggregate]
        rw [reading.err, reading.maxelements]
        exact limited
      · dsimp only [openAggregate]
        rw [reading.err]
        exact fun failed => absurd alive failed

/-! ## Calls -/

/-- A reader between two calls: a reply that is complete has been handed over. -/
structure Rests (state : Handling (Memory Double) Nat) : Prop where
  owns : Owns state.1 state.2
  idle : state.1.task = [] → state.1.reply = none

theorem owns_startReply (rests : Rests (r, handed)) (alive : r.err = none) :
    Owns (startReply r) handed := by
  obtain ⟨owns, idle⟩ := rests
  unfold startReply
  split
  · rename_i none
    exact ⟨owns.spare, owns.spare, .inr .root, fun _ => idle none, owns.accounted, owns.limited,
      fun failed => absurd alive failed⟩
  · exact owns

theorem owns_processItems (owns : Owns r handed) (fuel : Nat) :
    Owns (processItemsWith (Memory.malloc allocates) ffc (allocatingFunctions allocates) fuel r)
      handed :=
  @processItemsWith_invariant _ _ _ _ _ _ _ (Owns · handed) (fun _ owns => owns.room)
    (fun _ _ _ _ owns busy outcome => owns.outcome busy outcome) fuel owns

/-- What a call for a reply comes to: there is none, or one for the caller. -/
inductive Replied (handed : List Nat) :
    Status × Option Nat × ValkeyReader (Memory Double) Nat → Prop
  | nothing {status : Status} {r : ValkeyReader (Memory Double) Nat} (rests : Rests (r, handed)) :
      Replied handed (status, none, r)
  | reply {status : Status} {reply : Nat} {r : ValkeyReader (Memory Double) Nat}
      (accounted : Accounted r.heap (reply :: handed))
      (rests : ∀ (heap : Memory Double) (others : List Nat), Accounted heap others →
        Rests ({ r with heap := heap }, others)) :
      Replied handed (status, some reply, r)

theorem replied_getReply (rests : Rests (r, handed)) :
    Replied handed (valkeyReaderGetReplyWith (Memory.malloc allocates) ffc
      (allocatingFunctions allocates) r) := by
  unfold valkeyReaderGetReplyWith
  split
  · exact .nothing rests
  rename_i alive
  split
  · exact .nothing rests
  have processed := @owns_processItems Double allocates ffc _ _
    (owns_startReply rests (not_not.mp alive)) (r.unread.length + 1)
  generalize processItemsWith _ ffc _ (r.unread.length + 1) (startReply r) = last at processed ⊢
  obtain ⟨room, spare, nesting, pending, accounted, limited, dead⟩ := processed
  dsimp only
  split
  · rename_i failed
    exact .nothing ⟨⟨room, spare, nesting, pending, accounted, limited, dead⟩,
      fun _ => (dead failed).1⟩
  rename_i going
  have going : last.err = none := not_not.mp going
  split
  · rename_i complete
    have taken (heap : Memory Double) (others : List Nat) (accounted : Accounted heap others) :
        Rests ({ last with reply := none, heap := heap }, others) :=
      ⟨⟨room, spare, .inl complete, fun _ => rfl, accounted, limited,
        fun failed => absurd going failed⟩, fun _ => rfl⟩
    cases reply : last.reply with
    | none =>
        rw [reply] at accounted
        exact .nothing (taken last.heap handed accounted)
    | some obj =>
        rw [reply] at accounted
        exact .reply accounted taken
  · rename_i busy
    exact .nothing ⟨⟨room, spare, nesting, pending, accounted, limited, dead⟩,
      fun done => absurd done busy⟩

theorem rests_call {state : Handling (Memory Double) Nat} (rests : Rests state)
    (call : ReaderCall) :
    Rests
      (readerCall (Memory.malloc allocates) ffc (allocatingFunctions allocates) state call).2 := by
  obtain ⟨r, handed⟩ := state
  have replied := @replied_getReply Double allocates ffc r handed rests
  cases call with
  | receive chunk =>
      have received := @received_receiveWith _ _ _ (Memory.malloc allocates)
        (allocatingFunctions allocates) r chunk
      unfold readerCall
      dsimp only
      generalize receiveWith (Memory.malloc allocates) (allocatingFunctions allocates) r
        chunk = result
        at received
      obtain ⟨⟨room, spare, nesting, pending, accounted, limited, dead⟩, idle⟩ := rests
      cases received with
      | dead failed => exact ⟨⟨room, spare, nesting, pending, accounted, limited, dead⟩, idle⟩
      | @fails next draws reply tasks type str =>
          obtain ⟨attempts, same⟩ := draws_memory draws
          have accounts : Accounted next.heap (next.reply.toList ++ handed) := by
            rw [reply, same]
            exact accounted.attempts attempts
          exact ⟨owns_setError (spare.trans_le tasks) accounts type str, fun _ => rfl⟩
      | takes buf pos alive draws =>
          obtain ⟨attempts, rfl⟩ := draws_memory draws
          exact ⟨⟨room, spare, nesting, pending, accounted.attempts attempts, limited, dead⟩, idle⟩
  | getReply =>
      unfold readerCall
      generalize valkeyReaderGetReplyWith (Memory.malloc allocates) ffc
        (allocatingFunctions allocates) r = result at replied
      cases replied with
      | nothing rests =>
          dsimp only
          rwa [Option.toList_none, List.append_nil]
      | @reply status reply r accounted rests => exact rests r.heap _ accounted.hand
  | discardReply =>
      unfold readerCall
      generalize valkeyReaderGetReplyWith (Memory.malloc allocates) ffc
        (allocatingFunctions allocates) r = result at replied
      cases replied with
      | nothing rests => exact rests
      | reply accounted rests => exact rests _ _ accounted.free

theorem rests_run {state : Handling (Memory Double) Nat} (rests : Rests state)
    (calls : List ReaderCall) :
    Rests
      (readerRun (Memory.malloc allocates) ffc (allocatingFunctions allocates) state calls) := by
  induction calls generalizing state with
  | nil => exact rests
  | cons call calls induction => exact induction (rests_call rests call)

end Steps

/-! ## What holds of every reader -/

/-- The parent of an open task is an aggregate with a slot for it. -/
def OpenTasks (objects : ReplyHeap Double) : List (ReadTask Nat) → Prop
  | [] => True
  | [_] => True
  | cur :: prv :: rest =>
      (∃ type, prv.type = some type ∧ type.isAggregate = true) ∧
        0 ≤ cur.idx ∧ cur.idx < prv.elements ∧
          (∃ (p : Nat) (parent : ReplyObject Double), prv.obj = some p ∧
            objects[p]? = some (some parent) ∧ parent.type.isAggregate = true ∧
              prv.elements = parent.element.length) ∧
            OpenTasks objects (prv :: rest)

/-- The assertions that `moveToNextTask` comes to. -/
def moveToNextTaskAsserts : List (ReadTask Nat) → Prop
  | [] => True
  | [_] => True
  | cur :: prv :: rest =>
      (∃ type, prv.type = some type ∧ type.isAggregate = true) ∧
        if cur.idx = prv.elements - 1 then moveToNextTaskAsserts (prv :: rest)
        else cur.idx < prv.elements

theorem Nesting.openTasks {objects : ReplyHeap Double} {made bound : Nat}
    {stack : List (ReadTask Nat)} (nesting : Nesting objects made bound stack) :
    OpenTasks objects stack := by
  induction nesting with
  | root => trivial
  | @child made bound k p cur prv rest obj type held newer found aggregate typed opens
      elements small
      idx inside empty below induction =>
      refine ⟨⟨type, typed, opens⟩, ?_, ?_, ⟨p, obj, held, found, aggregate, elements⟩, induction⟩
      · omega
      · omega

theorem OpenTasks.asserts {objects : ReplyHeap Double} {cur : ReadTask Nat}
    {rest : List (ReadTask Nat)} (tasks : OpenTasks objects (cur :: rest)) :
    moveToNextTaskAsserts (cur :: rest) := by
  induction rest generalizing cur with
  | nil => trivial
  | cons prv rest induction =>
      obtain ⟨aggregate, _, inside, _, below⟩ := tasks
      refine ⟨aggregate, ?_⟩
      split
      · exact induction below
      · exact inside

section Readers

variable (allocates : Nat → Bool) (ffc : DoubleParser Double)

/-- A reader and the replies that its caller got, after some calls. -/
def readerAfter (maxelements : Int) (calls : List ReaderCall) : Handling (Memory Double) Nat :=
  readerRun (Memory.malloc allocates) ffc (allocatingFunctions allocates)
    (newReader Nat ⟨[], [], 0⟩ maxelements, []) calls

/-- A reader between two calls, and between two items in a call for a reply. -/
inductive ReaderState (state : Handling (Memory Double) Nat) :
    ValkeyReader (Memory Double) Nat → Prop
  | resting : ReaderState state state.1
  | working (items : Nat) (alive : state.1.err = none) (filled : state.1.buf.length ≠ 0) :
      ReaderState state
        (processItemsWith (Memory.malloc allocates) ffc (allocatingFunctions allocates) items
          (startReply state.1))

variable {allocates ffc}

/-- A reader with an error does nothing. -/
theorem readerCall_of_err {state : Handling (Memory Double) Nat} (failed : state.1.err ≠ none)
    (call : ReaderCall) :
    readerCall (Memory.malloc allocates) ffc (allocatingFunctions allocates) state call =
      (.err, state) := by
  have replied : valkeyReaderGetReplyWith (Memory.malloc allocates) ffc
      (allocatingFunctions allocates) state.1 = (.err, none, state.1) := if_pos failed
  cases call with
  | receive chunk =>
      have received : receiveWith (Memory.malloc allocates) (allocatingFunctions allocates) state.1
          chunk = (.err, state.1) := by
        cases chunk with
        | feed buf => exact if_pos failed
        | read minbytes bytes =>
            have refused : valkeyReaderGetReadBuf (allocatingFunctions allocates) state.1 minbytes =
                (.err, state.1) := if_pos failed
            rw [receiveWith, valkeyReaderGetReadBufWith, refused]
      rw [readerCall, received]
  | getReply =>
      rw [readerCall, replied]
      dsimp only
      rw [Option.toList_none, List.append_nil]
  | discardReply => rw [readerCall, replied]

theorem readerRun_of_err {state : Handling (Memory Double) Nat} (failed : state.1.err ≠ none)
    (calls : List ReaderCall) :
    readerRun (Memory.malloc allocates) ffc
      (allocatingFunctions allocates) state calls = state := by
  induction calls with
  | nil => rfl
  | cons call calls induction =>
      rw [readerRun, List.foldl_cons, readerCall_of_err failed]
      exact induction

theorem rests_readerAfter {maxelements : Int} (positive : 0 < maxelements)
    (limited : maxelements < 2 ^ 30) (calls : List ReaderCall) :
    Rests (readerAfter allocates ffc maxelements calls) := by
  apply rests_run
  refine ⟨⟨Nat.zero_le _, Nat.succ_pos 8, .inl rfl, fun _ => rfl, ?_, fun _ => ⟨positive, limited⟩,
    fun failed => absurd rfl failed⟩, fun _ => rfl⟩
  exact ⟨⟨[], .nil, .rfl⟩, nofun⟩

end Readers

/-- A child for which there is no memory. -/
def scarce : Nat → Bool := fun attempt => attempt != 4

end Libvalkey
