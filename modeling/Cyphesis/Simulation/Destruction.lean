import Cyphesis.Simulation.Movement

/-!
# Destroying entities

An entity that is destroyed first sends each of its children a Move operation to its own parent.
-/

namespace Cyphesis.Simulation

open Cyphesis.Foundation List

/-- Without an amount all is moved. -/
def Entity.Movable (entity : Entity) : Prop :=
  entity.stackable = true → entity.requireAmount = 1

instance (entity : Entity) : Decidable entity.Movable :=
  inferInstanceAs (Decidable (_ → _))

namespace World

variable {rules : Ruleset} {delEntity : World → Nat → World} {world start current : World}
  {id loc child : Nat} {rest : List Nat}

/-- Every child can be moved out. -/
def AllMovable (world : World) (id : Nat) : Prop :=
  ∀ child ∈ world.childrenOf id, (world.entity child).Movable

instance (world : World) (id : Nat) : Decidable (world.AllMovable id) :=
  inferInstanceAs (Decidable (∀ child ∈ world.childrenOf id, (world.entity child).Movable))

theorem movedAmount_none_of_one : movedAmount 1 none = 1 := by decide

theorem moveOurselves_of_relocatable {argument : MoveArgument} (isLoc : argument.loc = some loc)
    (elsewhere : world.parentOf id ≠ some loc) (registered : loc ∈ world.eobjects)
    (notBelow : ¬ Reaches world.parentOf loc id) :
    moveOurselves delEntity rules world id argument =
      changeContainer delEntity rules (setMoveAttributes world id argument) id loc := by
  have outside : meets world.parentOf world.eobjects.card loc id = false := by
    rw [← Bool.not_eq_true]
    exact fun found => notBelow (reaches_of_meets found)
  simp only [moveOurselves, isLoc]
  rw [if_neg elsewhere, if_neg (not_not.mpr registered), outside]
  rfl

/-- A child changes its container. -/
def prepare (world : World) (id child : Nat) : World :=
  setMoveAttributes
    (if (world.entity child).stackable then
      world.setAmount child (world.entity child).requireAmount
    else world) child (rehomeArgument world id child)

theorem prepare_sameShape (world : World) (id child : Nat) :
    SameShape world (world.prepare id child) := by
  have attributes := setMoveAttributes_sameShape
    (if (world.entity child).stackable then
      world.setAmount child (world.entity child).requireAmount
    else world) child (rehomeArgument world id child)
  refine SameShape.trans ?_ attributes
  split
  · exact setAmount_sameShape world child _
  · exact SameShape.refl world

theorem Keeps.prepare (world : World) {id child other : Nat} (different : other ≠ child) :
    Keeps world (world.prepare id child) other := by
  unfold World.prepare setMoveAttributes
  refine Keeps.trans ?_ (Keeps.modify _ child _ different)
  split
  · exact Keeps.modify world child _ different
  · exact Keeps.refl world other

section Rehome

variable (forest : Forest world) (inside : world.parentOf child = some id)

include forest inside

theorem Forest.child_notBase : child ≠ baseId := by
  rintro rfl
  rw [forest.baseTop] at inside
  contradiction

variable (above : world.parentOf id = some loc)

include above

theorem Forest.not_reaches_child : ¬ Reaches world.parentOf loc child := by
  intro reaches
  exact (forest.grounded child).not_reaches_of_parent inside (reaches.of_parent above)

variable (registered : loc ∈ world.eobjects)

include registered

theorem Forest.relocatable_child : Relocatable world child loc :=
  ⟨forest.child_notBase inside, forest.not_reaches_child inside above, fun _ => registered,
    (forest.lt_nextId_of_parent inside).1, forest.lt_nextId_of_registered registered⟩

theorem Forest.relocate_prepare :
    Forest (World.relocate rules (world.prepare id child) child loc) := by
  have shape := prepare_sameShape world id child
  exact (forest.of_sameShape shape).relocate
    ((forest.relocatable_child inside above registered).of_sameShape shape)

theorem rehome_of_movable (movable : (world.entity child).Movable) :
    rehome delEntity rules id world child =
      changeContainer delEntity rules (world.prepare id child) child loc := by
  have elsewhere : world.parentOf child ≠ some loc := by
    rw [inside, Ne, Option.some.injEq]
    exact (forest.parent_ne above).symm
  have notBelow := forest.not_reaches_child inside above
  unfold rehome moveSelf prepare
  by_cases stackable : (world.entity child).stackable = true
  · have one := movable stackable
    have all : movedAmount (world.entity child).requireAmount
        (rehomeArgument world id child).amount = 1 := by
      rw [one]
      exact movedAmount_none_of_one
    have shape := setAmount_sameShape world child (world.entity child).requireAmount
    rw [moveOperationWith_of_all stackable (by rw [all]; decide) (all.trans one.symm),
      if_pos stackable]
    refine moveOurselves_of_relocatable above ?_ ?_ ?_
    · rw [shape.parent]
      exact elsewhere
    · rw [shape.eobjects]
      exact registered
    · rw [shape.parent]
      exact notBelow
  · rw [if_neg stackable]
    rw [Bool.not_eq_true] at stackable
    rw [moveOperationWith_of_not_stackable stackable]
    exact moveOurselves_of_relocatable above elsewhere registered notBelow

end Rehome

/-- Children to come are as they were. -/
structure Pending (start : World) (id : Nat) (rest : List Nat) (current : World) : Prop where
  forest : Forest current
  notBase : id ≠ baseId
  nodup : rest.Nodup
  inside : ∀ child ∈ rest, start.parentOf child = some id
  keeps : ∀ child ∈ rest, Keeps start current child

theorem Pending.parentOf (pending : Pending start id rest current) (member : child ∈ rest) :
    current.parentOf child = some id :=
  (pending.keeps child member).parent.trans (pending.inside child member)

theorem Pending.unrelated (pending : Pending start id rest current) {other : Nat}
    (inside : current.parentOf other = some id) (different : other ≠ child) :
    Unrelated current child other (rehomeArgument current id child) := by
  refine ⟨different, (pending.forest.lt_nextId_of_parent inside).1, ?_, ?_⟩
  · rw [inside, Ne, Option.some.injEq]
    exact pending.notBase
  · intro newLoc isLoc
    have above : current.parentOf id = some newLoc := isLoc
    rw [inside, Ne, Option.some.injEq]
    exact (pending.forest.parent_ne above).symm

section

variable (removes : RemovesLeaves rules delEntity)

include removes

theorem Pending.keeps_other (pending : Pending start id (child :: rest) current) {other : Nat}
    (inside : current.parentOf other = some id) (different : other ≠ child) :
    Keeps current (rehome delEntity rules id current child) other := by
  have childInside := pending.parentOf mem_cons_self
  exact Keeps.moveSelf removes pending.forest (pending.forest.child_notBase childInside)
    (pending.forest.lt_nextId_of_parent childInside).1 (pending.unrelated inside different)

theorem Pending.rehome (pending : Pending start id (child :: rest) current) :
    Pending start id rest (rehome delEntity rules id current child) := by
  have childInside := pending.parentOf mem_cons_self
  obtain ⟨notAgain, nodup⟩ := List.nodup_cons.mp pending.nodup
  refine ⟨?_, pending.notBase, nodup, ?_, ?_⟩
  · exact pending.forest.moveSelf removes (pending.forest.child_notBase childInside)
      (pending.forest.lt_nextId_of_parent childInside).1 _
  · intro other member
    exact pending.inside other (mem_cons_of_mem child member)
  · intro other member
    have later := mem_cons_of_mem child member
    refine (pending.keeps other later).trans
      (pending.keeps_other removes (pending.parentOf later) ?_)
    rintro rfl
    exact notAgain member

theorem rehome_foldl (motive : List Nat → World → Prop)
    (step : ∀ child rest current, Pending start id (child :: rest) current →
      motive (child :: rest) current → motive rest (rehome delEntity rules id current child))
    (pending : Pending start id rest current) (holds : motive rest current) :
    Pending start id [] (rest.foldl (rehome delEntity rules id) current) ∧
      motive [] (rest.foldl (rehome delEntity rules id) current) := by
  induction rest generalizing current with
  | nil => exact ⟨pending, holds⟩
  | cons child rest ih =>
    exact ih (pending.rehome removes) (step child rest current pending holds)

end

theorem Forest.pending (forest : Forest world) (notBase : id ≠ baseId) :
    Pending (world.markDestroyed id) id ((world.markDestroyed id).childrenOf id)
      (world.markDestroyed id) := by
  have marked := forest.of_sameShape (markDestroyed_sameShape world id)
  refine ⟨marked, notBase, marked.nodup id, ?_, fun child _ => Keeps.refl _ child⟩
  intro child member
  exact (marked.memChildren child id).mp member

/-- Only children to come are left. -/
structure Emptying (id loc : Nat) (rest : List Nat) (current : World) : Prop where
  only : ∀ child, current.parentOf child = some id → child ∈ rest
  holder : rest ≠ [] → current.parentOf id = some loc ∧ loc ∈ current.eobjects

section

variable (removes : RemovesLeaves rules delEntity)

include removes

theorem Emptying.rehome (pending : Pending start id (child :: rest) current)
    (emptying : Emptying id loc (child :: rest) current)
    (movable : (current.entity child).Movable) :
    Emptying id loc rest (rehome delEntity rules id current child) := by
  obtain ⟨above, registered⟩ := emptying.holder (cons_ne_nil child rest)
  have inside := pending.parentOf mem_cons_self
  have locNotId := pending.forest.parent_ne above
  have relocated : Forest (relocate rules (current.prepare id child) child loc) :=
    pending.forest.relocate_prepare inside above registered
  have shape := prepare_sameShape current id child
  have idNotChild := pending.forest.parent_ne inside
  rw [rehome_of_movable pending.forest inside above registered movable]
  constructor
  · intro other stillInside
    have notChild : other ≠ child := by
      rintro rfl
      rcases changeContainer_parentOf_self removes relocated with isLoc | gone
      · rw [isLoc, Option.some.injEq] at stillInside
        exact locNotId stillInside
      · rw [gone] at stillInside
        contradiction
    rcases changeContainer_parentOf_of_ne removes relocated notChild with same | gone
    · rw [same, shape.parent] at stillInside
      exact (List.mem_cons.mp (emptying.only other stillInside)).resolve_left notChild
    · rw [gone] at stillInside
      contradiction
  · intro remaining
    obtain ⟨next, member⟩ := exists_mem_of_ne_nil rest remaining
    have nextInside := pending.parentOf (mem_cons_of_mem child member)
    have nextNotChild : next ≠ child := by
      rintro rfl
      exact (List.nodup_cons.mp pending.nodup).1 member
    -- The entity still contains something, so it is no stack for the child to join.
    have notJoinable :
        ¬ Joinable (relocate rules (current.prepare id child) child loc) child id := by
      intro joinable
      refine relocated.parentOf_ne_of_leaf joinable.stackLeaf next ?_
      rw [relocate_parentOf, Function.update_of_ne nextNotChild, shape.parent]
      exact nextInside
    have idKept := (Keeps.prepare current idNotChild).trans
      (Keeps.changeContainer_of_not_joinable removes relocated idNotChild notJoinable)
    have notBelow : ¬ Reaches (current.prepare id child).parentOf loc child := by
      rw [shape.parent]
      exact pending.forest.not_reaches_child inside above
    have locKept := KeepsAbove.changeContainer removes
      (pending.forest.of_sameShape shape).grounded relocated notBelow loc (Reaches.refl _ loc)
    refine ⟨idKept.parent.trans above, locKept.registered ?_⟩
    rw [shape.eobjects]
    exact registered

theorem rehome_foldl_of_movable (motive : List Nat → World → Prop)
    (step : ∀ child rest current, Pending start id (child :: rest) current →
      Emptying id loc (child :: rest) current → (current.entity child).Movable →
      motive (child :: rest) current → motive rest (rehome delEntity rules id current child))
    (pending : Pending start id rest current) (emptying : Emptying id loc rest current)
    (movable : ∀ child ∈ rest, (current.entity child).Movable) (holds : motive rest current) :
    Pending start id [] (rest.foldl (rehome delEntity rules id) current) ∧
      Emptying id loc [] (rest.foldl (rehome delEntity rules id) current) ∧
      motive [] (rest.foldl (rehome delEntity rules id) current) := by
  have everywhere := rehome_foldl removes
    (fun rest current => Emptying id loc rest current ∧
      (∀ child ∈ rest, (current.entity child).Movable) ∧ motive rest current) ?_
    pending ⟨emptying, movable, holds⟩
  · exact ⟨everywhere.1, everywhere.2.1, everywhere.2.2.2⟩
  · rintro child rest current pending ⟨emptying, movable, holds⟩
    have childMovable := movable child mem_cons_self
    refine ⟨emptying.rehome removes pending childMovable, ?_,
      step child rest current pending emptying childMovable holds⟩
    intro other member stackable
    have later := mem_cons_of_mem child member
    have different : other ≠ child := by
      rintro rfl
      exact (List.nodup_cons.mp pending.nodup).1 member
    have stack := (pending.keeps_other removes (pending.parentOf later) different).stack
    rw [stack.stackable] at stackable
    rw [Entity.requireAmount, stack.amount]
    exact movable other later stackable

theorem destroy_of_movable (forest : Forest world) (notBase : id ≠ baseId)
    (above : world.parentOf id = some loc) (registered : loc ∈ world.eobjects)
    (movable : world.AllMovable id) (motive : List Nat → World → Prop)
    (step : ∀ child rest current, Pending (world.markDestroyed id) id (child :: rest) current →
      Emptying id loc (child :: rest) current → (current.entity child).Movable →
      motive (child :: rest) current → motive rest (rehome delEntity rules id current child))
    (holds : motive (world.childrenOf id) (world.markDestroyed id)) :
    ∃ emptied, destroy delEntity rules world id = locatedEntityDestroy rules emptied id ∧
      Forest emptied ∧ emptied.childrenOf id = [] ∧ motive [] emptied := by
  have shape := markDestroyed_sameShape world id
  have marked := forest.of_sameShape shape
  have emptying : Emptying id loc ((world.markDestroyed id).childrenOf id)
      (world.markDestroyed id) := by
    refine ⟨fun child => (marked.memChildren child id).mpr, fun _ => ?_⟩
    rw [shape.parent, shape.eobjects]
    exact ⟨above, registered⟩
  have stillMovable : ∀ child ∈ (world.markDestroyed id).childrenOf id,
      ((world.markDestroyed id).entity child).Movable := by
    intro child member
    have different := marked.child_ne member
    rw [shape.children] at member
    rw [markDestroyed, modify_entity, if_neg different]
    exact movable child member
  obtain ⟨pending, empty, final⟩ := rehome_foldl_of_movable removes motive step
    (forest.pending notBase) emptying stillMovable (shape.children ▸ holds)
  refine ⟨_, rfl, pending.forest, ?_, final⟩
  refine List.eq_nil_iff_forall_not_mem.mpr ?_
  intro child member
  exact not_mem_nil (empty.only child ((pending.forest.memChildren child id).mp member))

end

end World

end Cyphesis.Simulation
