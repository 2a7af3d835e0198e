import Cyphesis.Simulation.WorldRouter

/-!
# Putting one stack into another

A stack that is moved into another is offered to the domain of that stack after it has become its
child.
-/

namespace Cyphesis.Simulation

open Cyphesis.Atlas
open Cyphesis.Foundation

namespace World

variable {rules : Ruleset} {delEntity : World → Nat → World} {world : World} {id stack : Nat}
  {argument : MoveArgument} {depth : Nat}

/-- Alike but for place, amount, contents. -/
def AlikeStacks (first second : Entity) : Prop :=
  first.type = second.type ∧ first.domainProperty = second.domainProperty ∧
    Element.equalEntries (stackProperties first) (stackProperties second) = true

instance (first second : Entity) : Decidable (AlikeStacks first second) :=
  inferInstanceAs (Decidable (_ ∧ _ ∧ _))

/-- While the moved entity is in no place. -/
def departed (rules : Ruleset) (world : World) (id : Nat) (argument : MoveArgument) : World :=
  detach rules (setMoveAttributes world id argument) id

/-- After the entity was moved to a place. -/
def movedTo (rules : Ruleset) (depth : Nat) (world : World) (id : Nat) (argument : MoveArgument)
    (loc : Nat) : World :=
  moveOurselves (World.delEntity rules (depth + 1)) rules world id { argument with loc := some loc }

/-- An entity that is a stack. -/
def IsStack (world : World) (id : Nat) : Prop :=
  id ∈ world.eobjects ∧ (world.entity id).stackable = true ∧
    (world.entity id).domain = some .stackable

instance (world : World) (id : Nat) : Decidable (IsStack world id) :=
  inferInstanceAs (Decidable (_ ∧ _ ∧ _))

/-- The moved stack is gone, and its amount went to the other. -/
def Joined (world after : World) (id stack : Nat) : Prop :=
  id ∉ after.eobjects ∧ stack ∈ after.eobjects ∧
    (after.entity stack).requireAmount =
      (world.entity stack).requireAmount + (world.entity id).requireAmount

/-- The stack is as large as before. -/
def Untouched (world after : World) (stack : Nat) : Prop :=
  stack ∈ after.eobjects ∧ (after.entity stack).amount = (world.entity stack).amount

/-- Does the domain at the new place look for stacks? -/
def Stacking (world : World) (loc : Nat) : Prop :=
  (world.entity loc).domain = some .inventory ∨ (world.entity loc).domain = some .container

/-- Stacks join just if they are alike. -/
def CombinesStacks (rules : Ruleset) (depth : Nat) (world : World) (id stack : Nat)
    (argument : MoveArgument) : Prop :=
  (AlikeStacks ((departed rules world id argument).entity stack)
      ((departed rules world id argument).entity id) →
    Joined world (movedTo rules depth world id argument stack) id stack ∧
      ∀ loc, world.parentOf stack = some loc → Stacking world loc →
        Joined world (movedTo rules depth world id argument loc) id stack) ∧
  (¬ AlikeStacks ((departed rules world id argument).entity stack)
      ((departed rules world id argument).entity id) →
    Untouched world (movedTo rules depth world id argument stack) stack ∧
      ∀ loc, world.parentOf stack = some loc →
        Untouched world (movedTo rules depth world id argument loc) stack)

theorem alikeStacks_linkChild (rules : Ruleset) (world : World) (parent child first second : Nat) :
    AlikeStacks ((linkChild rules world parent child).entity first)
        ((linkChild rules world parent child).entity second) ↔
      AlikeStacks (world.entity first) (world.entity second) := by
  have unlinked : ∀ other,
      ((linkChild rules world parent child).entity other).type = (world.entity other).type ∧
      ((linkChild rules world parent child).entity other).domainProperty =
        (world.entity other).domainProperty ∧
      stackProperties ((linkChild rules world parent child).entity other) =
        stackProperties (world.entity other) := by
    intro other
    rw [linkChild, modify_entity]
    split
    · next isChild =>
        subst isChild
        rw [modify_entity]
        split
        · next isParent =>
            subst isParent
            exact ⟨rfl, rfl, rfl⟩
        · exact ⟨rfl, rfl, rfl⟩
    · rw [modify_entity]
      split
      · next isParent =>
          subst isParent
          exact ⟨rfl, rfl, rfl⟩
      · exact ⟨rfl, rfl, rfl⟩
  have isFirst := unlinked first
  have isSecond := unlinked second
  simp only [AlikeStacks, isFirst.1, isFirst.2.1, isFirst.2.2, isSecond.1, isSecond.2.1,
    isSecond.2.2]

theorem alikeStacks_of_joins (joins : world.joins id stack = true) :
    AlikeStacks (world.entity stack) (world.entity id) := by
  simp only [World.joins, checkEntitiesStackable, Bool.and_eq_true, decide_eq_true_eq] at joins
  exact ⟨joins.1.1.2, joins.2.1.2, joins.2.2⟩

theorem stackIfPossible_joins {loc : Nat} {after : World}
    (stacked : stackIfPossible delEntity world loc id = some after) :
    (world.entity id).stackable = true ∧
      ∃ other, world.joins id other = true ∧ after = merge delEntity world other id := by
  rw [stackIfPossible] at stacked
  split at stacked
  · next stackable =>
      cases found : (world.childrenOf loc).find? (world.joins id) with
      | none =>
        rw [found] at stacked
        contradiction
      | some other =>
        rw [found] at stacked
        exact ⟨stackable, other, List.find?_some found, (Option.some.inj stacked).symm⟩
  · contradiction

section Arrival

variable (removes : RemovesLeaves rules delEntity) (forest : Forest world)

include removes forest

theorem untouched_domainAddEntity {loc : Nat} (isParent : world.parentOf id = some loc)
    (different : stack ≠ id) (registered : stack ∈ world.eobjects)
    (unlike : ¬ AlikeStacks (world.entity stack) (world.entity id)) :
    Untouched world (domainAddEntity delEntity rules world loc id) stack := by
  have received : ∀ kind, Untouched world (receive rules world kind id) stack := by
    intro kind
    refine ⟨?_, (receive_sameStack rules world kind id stack).amount⟩
    rw [(receive_sameShape rules world kind id).eobjects]
    exact registered
  have stacked : ∀ kind, Untouched world
      ((stackIfPossible delEntity world loc id).getD (receive rules world kind id)) stack := by
    intro kind
    cases found : stackIfPossible delEntity world loc id with
    | none => exact received kind
    | some after =>
      obtain ⟨stackable, other, joins, rfl⟩ := stackIfPossible_joins found
      have joinable := forest.joinable isParent stackable joins
      have notStack : stack ≠ other := by
        rintro rfl
        exact unlike (alikeStacks_of_joins joins)
      have keeps := Keeps.merge removes forest joinable different notStack
      exact ⟨keeps.registered registered, keeps.stack.amount⟩
  rw [domainAddEntity]
  split
  · exact ⟨registered, rfl⟩
  · exact received .physical
  · exact received .void
  · rw [forest.not_stackable_with_parent isParent, Bool.and_false]
    exact received .stackable
  · exact stacked .inventory
  · exact stacked .container

omit removes in
theorem domainAddEntity_of_stack (isParent : world.parentOf id = some stack)
    (isStackable : (world.entity stack).domain = some .stackable) :
    domainAddEntity delEntity rules world stack id = receive rules world .stackable id := by
  rw [domainAddEntity, isStackable]
  dsimp only
  rw [forest.not_stackable_with_parent isParent, Bool.and_false]
  rfl

end Arrival

section Move

variable (forest : Forest world) (notBase : id ≠ baseId) (isStack : IsStack world stack)

include forest notBase

theorem movedTo_cases (rules : Ruleset) (depth : Nat) (argument : MoveArgument)
    (registered : id ∈ world.eobjects) (loc : Nat) :
    movedTo rules depth world id argument loc = world ∨
      movedTo rules depth world id argument loc = setMoveAttributes world id argument ∨
      Forest (relocate rules (setMoveAttributes world id argument) id loc) ∧
        movedTo rules depth world id argument loc =
          domainAddEntity (World.delEntity rules (depth + 1)) rules
            (relocate rules (setMoveAttributes world id argument) id loc) loc id := by
  have shape := setMoveAttributes_sameShape world id argument
  rw [movedTo, moveOurselves]
  simp only
  split
  · exact .inr (.inl rfl)
  split
  · exact .inl rfl
  split
  · exact .inl rfl
  · next found outside =>
      have relocatable := forest.relocatable_of_not_meets notBase
        (forest.lt_nextId_of_registered registered) (not_not.mp found)
        (Bool.eq_false_iff.mpr outside)
      have relocated : Forest (relocate rules (setMoveAttributes world id argument) id loc) :=
        (forest.of_sameShape shape).relocate (relocatable.of_sameShape shape)
      exact .inr (.inr ⟨relocated, rfl⟩)

include isStack in
theorem movedTo_stack (rules : Ruleset) (depth : Nat) (argument : MoveArgument)
    (registered : id ∈ world.eobjects) :
    id ∈ (movedTo rules depth world id argument stack).eobjects ∧
      Untouched world (movedTo rules depth world id argument stack) stack := by
  have shape := setMoveAttributes_sameShape world id argument
  have attributes := setMoveAttributes_sameStack world id argument stack
  rcases movedTo_cases forest notBase rules depth argument registered stack with
    same | set | ⟨relocated, added⟩
  · rw [same]
    exact ⟨registered, isStack.1, rfl⟩
  · rw [set, Untouched, shape.eobjects]
    exact ⟨registered, isStack.1, attributes.amount⟩
  · have moved := attributes.trans
      (relocate_sameStack rules (setMoveAttributes world id argument) id stack stack)
    rw [added, domainAddEntity_of_stack relocated (relocate_parentOf_self rules _ id stack)
      (moved.domain.trans isStack.2.2), Untouched,
      (receive_sameShape rules _ .stackable id).eobjects, relocate_eobjects, shape.eobjects]
    exact ⟨registered, isStack.1, (moved.trans (receive_sameStack rules _ .stackable id _)).amount⟩

include isStack in
theorem movedTo_untouched (rules : Ruleset) (depth : Nat) (argument : MoveArgument)
    (registered : id ∈ world.eobjects)
    (unlike : ¬ AlikeStacks ((departed rules world id argument).entity stack)
      ((departed rules world id argument).entity id)) (different : stack ≠ id) (loc : Nat) :
    Untouched world (movedTo rules depth world id argument loc) stack := by
  have shape := setMoveAttributes_sameShape world id argument
  have attributes := setMoveAttributes_sameStack world id argument stack
  rcases movedTo_cases forest notBase rules depth argument registered loc with
    same | set | ⟨relocated, added⟩
  · rw [same]
    exact ⟨isStack.1, rfl⟩
  · rw [set, Untouched, shape.eobjects]
    exact ⟨isStack.1, attributes.amount⟩
  · have moved := attributes.trans
      (relocate_sameStack rules (setMoveAttributes world id argument) id loc stack)
    have arrived : stack ∈
        (relocate rules (setMoveAttributes world id argument) id loc).eobjects := by
      rw [relocate_eobjects, shape.eobjects]
      exact isStack.1
    have left := untouched_domainAddEntity (delEntity_removesLeaves rules depth) relocated
      (relocate_parentOf_self rules _ id loc) different arrived
      (fun alike => unlike ((alikeStacks_linkChild rules _ loc id stack id).mp alike))
    rw [added]
    exact ⟨left.1, left.2.trans moved.amount⟩

end Move

/-- Two stacks are combined as they should be exactly if they are not alike. -/
theorem combinesStacks_iff (rules : Ruleset) (depth : Nat) (argument : MoveArgument)
    (forest : Forest world) (notBase : id ≠ baseId) (different : stack ≠ id)
    (isStack : IsStack world stack) (isMoved : IsStack world id) :
    CombinesStacks rules depth world id stack argument ↔
      ¬ AlikeStacks ((departed rules world id argument).entity stack)
        ((departed rules world id argument).entity id) := by
  constructor
  · intro combines alike
    have stays := (movedTo_stack forest notBase isStack rules depth argument isMoved.1).1
    exact (combines.1 alike).1.1 stays
  · intro unlike
    refine ⟨fun alike => absurd alike unlike, fun _ => ⟨?_, ?_⟩⟩
    · exact movedTo_untouched forest notBase isStack rules depth argument isMoved.1 unlike different
        stack
    · intro loc _
      exact movedTo_untouched forest notBase isStack rules depth argument isMoved.1 unlike different
        loc

/-- Heaps of coins and pebbles. -/
def heaps : World :=
  run (perform chestRules 2) (initial chestRules (plainAttributes "world"))
    [.addNewEntity (.node ⟨"coin", none, some 3, []⟩ []) baseId,
      .addNewEntity (.node ⟨"coin", none, some 4, []⟩ []) baseId,
      .addNewEntity (.node ⟨"coin", none, some 5, [("bent", .int 1)]⟩ []) baseId]

/-- Three coins moved into four do not become seven. -/
theorem heaps_not_combined :
    IsStack heaps 1 ∧ IsStack heaps 2 ∧
      ¬ CombinesStacks chestRules 1 heaps 1 2 ⟨1, none, some 3, []⟩ := by
  refine ⟨by decide +kernel, by decide +kernel, ?_⟩
  intro combines
  have alike : AlikeStacks ((departed chestRules heaps 1 ⟨1, none, some 3, []⟩).entity 2)
      ((departed chestRules heaps 1 ⟨1, none, some 3, []⟩).entity 1) := by decide +kernel
  have stays : 1 ∈ (movedTo chestRules 1 heaps 1 ⟨1, none, some 3, []⟩ 2).eobjects := by
    decide +kernel
  exact (combines.1 alike).1.1 stays

/-- They are not meant to join bent coins. -/
theorem heaps_kept_apart :
    CombinesStacks chestRules 1 heaps 1 3 ⟨1, none, some 3, []⟩ ↔
      ¬ AlikeStacks ((departed chestRules heaps 1 ⟨1, none, some 3, []⟩).entity 3)
        ((departed chestRules heaps 1 ⟨1, none, some 3, []⟩).entity 1) := by
  have forest : Forest heaps :=
    run_invariant Forest (fun _ _ forest guarded => forest.perform guarded)
      (Forest.initial chestRules (plainAttributes "world")) (by decide +kernel)
  exact combinesStacks_iff chestRules 1 ⟨1, none, some 3, []⟩ forest (by decide) (by decide)
    (by decide +kernel) (by decide +kernel)

end World

end Cyphesis.Simulation
