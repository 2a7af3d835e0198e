import Cyphesis.Simulation.Containment

/-!
# Joining a stack

The domain of the new parent adds the amount of the entity to a stack it can join.
-/

namespace Cyphesis.Simulation

open Cyphesis.Foundation
open Function

namespace World

variable {rules : Ruleset} {delEntity : World → Nat → World} {world : World} {id stack : Nat}

section

variable (world) (id) (amount : Int)

theorem setAmount_sameShape : SameShape world (world.setAmount id amount) :=
  SameShape.modify world id (fun _ => rfl) (fun _ => rfl)

theorem setAmount_entity (other : Nat) :
    (world.setAmount id amount).entity other =
      if other = id then { world.entity id with amount := some amount } else world.entity other :=
  modify_entity world id _ other

end

theorem setAmount_eq_self {amount : Int} (same : (world.entity id).amount = some amount) :
    world.setAmount id amount = world := by
  have unchanged : { world.entity id with amount := some amount } = world.entity id := by
    rw [← same]
  simp only [setAmount, modify, unchanged, update_eq_self]

/-- An entity can join a stack beside it; neither of them has children. -/
structure Joinable (world : World) (id stack : Nat) : Prop where
  different : stack ≠ id
  sameType : (world.entity stack).type = (world.entity id).type
  stackable : (world.entity id).stackable = true
  stackStackable : (world.entity stack).stackable = true
  sameParent : world.parentOf stack = world.parentOf id
  hasParent : ∃ parent, world.parentOf id = some parent
  leaf : world.childrenOf id = []
  stackLeaf : world.childrenOf stack = []

theorem Forest.joinable (forest : Forest world) {parent : Nat}
    (isParent : world.parentOf id = some parent) (stackable : (world.entity id).stackable = true)
    (canJoin : world.joins id stack = true) : Joinable world id stack := by
  simp only [joins, checkEntitiesStackable, Bool.and_eq_true, decide_eq_true_eq] at canJoin
  obtain ⟨⟨⟨different, sameType⟩, stackStackable⟩, ⟨⟨sameParent, sameContains⟩, _⟩, _⟩ := canJoin
  have sameChildren : world.childrenOf stack = world.childrenOf id := by
    simp only [childrenOf, Entity.children, sameContains]
  have leaf : world.childrenOf id = [] := by
    refine List.eq_nil_iff_forall_not_mem.mpr ?_
    intro child member
    exact different (forest.eq_of_common_child (sameChildren ▸ member) member)
  exact ⟨different, sameType, stackable, stackStackable, sameParent, ⟨parent, isParent⟩, leaf,
    sameChildren.trans leaf⟩

namespace Joinable

theorem notBase (joinable : Joinable world id stack) (forest : Forest world) : id ≠ baseId := by
  rintro rfl
  obtain ⟨parent, isParent⟩ := joinable.hasParent
  rw [forest.baseTop] at isParent
  contradiction

theorem stackNotBase (joinable : Joinable world id stack) (forest : Forest world) :
    stack ≠ baseId := by
  rintro rfl
  obtain ⟨parent, isParent⟩ := joinable.hasParent
  rw [← joinable.sameParent, forest.baseTop] at isParent
  contradiction

end Joinable

theorem toInt32_one : toInt32 1 = 1 := by decide

section

variable (removes : RemovesLeaves rules delEntity) {parent : Nat}

include removes

theorem applyAmount_of_zero
    (isParent : world.parentOf id = some parent) (notBase : id ≠ baseId)
    (leaf : world.childrenOf id = []) (stackable : (world.entity id).stackable = true)
    (zero : (world.entity id).amount = some 0) :
    applyAmount delEntity world id = removeLeaf rules world id := by
  have none : (world.entity id).requireAmount = 0 := by simp [Entity.requireAmount, zero]
  have nothingLeft : ¬ 0 < toInt32 (0 - 1) := by decide
  simp only [applyAmount, stackable, if_true, none, le_refl, deleteOperation, Option.getD_none,
    toInt32_one, nothingLeft, if_false, setAmount_eq_self zero, thingDeleteOperation, isParent]
  rw [if_neg (by decide), removes world id notBase leaf]

theorem applyAmount_cases (world : World) (id : Nat) {total : Int}
    (isParent : world.parentOf id = some parent) (notBase : id ≠ baseId)
    (leaf : world.childrenOf id = []) (stackable : (world.entity id).stackable = true)
    (amount : (world.entity id).amount = some total) :
    0 < total ∧ applyAmount delEntity world id = world ∨
      total ≤ 0 ∧ ((∃ other, applyAmount delEntity world id = world.setAmount id other) ∨
        applyAmount delEntity world id = removeLeaf rules world id) := by
  have isTotal : (world.entity id).requireAmount = total := by simp [Entity.requireAmount, amount]
  by_cases positive : 0 < total
  · left
    refine ⟨positive, ?_⟩
    simp only [applyAmount, stackable, if_true, isTotal]
    rw [if_neg (by omega)]
  · right
    refine ⟨by omega, ?_⟩
    simp only [applyAmount, stackable, if_true, isTotal, deleteOperation, Option.getD_none,
      toInt32_one, setAmount_eq_self amount, thingDeleteOperation, isParent]
    rw [if_pos (by omega), if_neg (by decide)]
    split
    · exact .inl ⟨_, rfl⟩
    · exact .inr (removes world id notBase leaf)

end

section Merge

variable (removes : RemovesLeaves rules delEntity) (forest : Forest world)
  (joinable : Joinable world id stack)

include removes forest joinable

/-- In every case the entity is removed last. -/
theorem merge_eq_removeLeaf :
    ∃ applied, merge delEntity world stack id = removeLeaf rules (applied.setAmount id 0) id ∧
      (0 < world.mergedAmount stack id ∧
          applied = world.setAmount stack (world.mergedAmount stack id) ∨
        world.mergedAmount stack id ≤ 0 ∧
          ((∃ amount, applied = world.setAmount stack amount) ∨
            applied = removeLeaf rules
              (world.setAmount stack (world.mergedAmount stack id)) stack)) := by
  obtain ⟨parent, isParent⟩ := joinable.hasParent
  have idDifferent : id ≠ stack := joinable.different.symm
  have added := setAmount_sameShape world stack (world.mergedAmount stack id)
  have addedForest := forest.of_sameShape added
  have stackApplied := applyAmount_cases removes
    (world.setAmount stack (world.mergedAmount stack id)) stack
    (by rw [added.parent, joinable.sameParent, isParent]) (joinable.stackNotBase forest)
    (by rw [added.children, joinable.stackLeaf])
    (by simpa [setAmount_entity] using joinable.stackStackable)
    (by rw [setAmount_entity, if_pos rfl])
  have kept : Keeps world
        (applyAmount delEntity (world.setAmount stack (world.mergedAmount stack id)) stack) id ∧
      (applyAmount delEntity (world.setAmount stack (world.mergedAmount stack id))
        stack).childrenOf id = [] := by
    have keepsAdded : Keeps world (world.setAmount stack (world.mergedAmount stack id)) id :=
      Keeps.modify world stack _ idDifferent
    have addedLeaf : (world.setAmount stack (world.mergedAmount stack id)).childrenOf id = [] := by
      rw [added.children, joinable.leaf]
    rcases stackApplied with ⟨_, same⟩ | ⟨_, ⟨amount, changed⟩ | removed⟩
    · rw [same]
      exact ⟨keepsAdded, addedLeaf⟩
    · rw [changed, (setAmount_sameShape _ stack amount).children]
      exact ⟨keepsAdded.trans (Keeps.modify _ stack _ idDifferent), addedLeaf⟩
    · rw [removed, removeLeaf_childrenOf rules addedForest, addedLeaf]
      exact ⟨keepsAdded.trans (Keeps.removeLeaf rules _ idDifferent), rfl⟩
  obtain ⟨keeps, leaf⟩ := kept
  refine ⟨applyAmount delEntity (world.setAmount stack (world.mergedAmount stack id)) stack, ?_, ?_⟩
  · have zeroed := setAmount_sameShape
      (applyAmount delEntity (world.setAmount stack (world.mergedAmount stack id)) stack) id 0
    refine applyAmount_of_zero removes (?_ : _ = some parent) (joinable.notBase forest) ?_ ?_ ?_
    · rw [zeroed.parent, keeps.parent, isParent]
    · rw [zeroed.children, leaf]
    · rw [setAmount_entity, if_pos rfl]
      exact keeps.stack.stackable.trans joinable.stackable
    · rw [setAmount_entity, if_pos rfl]
  · rcases stackApplied with ⟨positive, same⟩ | ⟨notPositive, ⟨amount, changed⟩ | removed⟩
    · exact .inl ⟨positive, same⟩
    · refine .inr ⟨notPositive, .inl ⟨amount, ?_⟩⟩
      rw [changed]
      simp [setAmount, modify]
    · exact .inr ⟨notPositive, .inr removed⟩

theorem merge_of_positive (positive : 0 < world.mergedAmount stack id) :
    merge delEntity world stack id = removeLeaf rules
      ((world.setAmount stack (world.mergedAmount stack id)).setAmount id 0) id := by
  obtain ⟨applied, isRemoved, ⟨_, same⟩ | ⟨notPositive, _⟩⟩ :=
    merge_eq_removeLeaf removes forest joinable
  · rw [isRemoved, same]
  · omega

theorem merge_eq_removeLeaf_of_forest :
    ∃ applied, merge delEntity world stack id = removeLeaf rules applied id ∧ Forest applied ∧
      applied.childrenOf id = [] ∧ applied.eobjects ⊆ world.eobjects ∧
      applied.nextId = world.nextId ∧
      ∀ other, other ≠ id → other ≠ stack → Keeps world applied other := by
  obtain ⟨applied, isRemoved, how⟩ := merge_eq_removeLeaf removes forest joinable
  have setForest : ∀ amount, Forest (world.setAmount stack amount) :=
    fun amount => forest.of_sameShape (setAmount_sameShape world stack amount)
  have stackCase : Forest applied ∧ applied.childrenOf id = [] ∧
      applied.eobjects ⊆ world.eobjects ∧ applied.nextId = world.nextId ∧
      ∀ other, other ≠ stack → Keeps world applied other := by
    have ofSet : ∀ amount, applied = world.setAmount stack amount → Forest applied ∧
        applied.childrenOf id = [] ∧ applied.eobjects ⊆ world.eobjects ∧
        applied.nextId = world.nextId ∧ ∀ other, other ≠ stack → Keeps world applied other := by
      rintro amount rfl
      have same := setAmount_sameShape world stack amount
      refine ⟨setForest amount, ?_, ?_, same.nextId, fun other => Keeps.modify world stack _⟩
      · rw [same.children, joinable.leaf]
      · rw [same.eobjects]
    rcases how with ⟨_, same⟩ | ⟨_, ⟨amount, same⟩ | rfl⟩
    · exact ofSet _ same
    · exact ofSet amount same
    · have same := setAmount_sameShape world stack (world.mergedAmount stack id)
      refine ⟨(setForest _).removeLeaf ?_ (joinable.stackNotBase forest), ?_, ?_, ?_, ?_⟩
      · rw [same.children, joinable.stackLeaf]
      · rw [removeLeaf_childrenOf rules (setForest _), same.children, joinable.leaf]
        rfl
      · rw [removeLeaf_eobjects, same.eobjects]
        exact Finset.erase_subset _ _
      · rw [removeLeaf_nextId, same.nextId]
      · intro other different
        exact (Keeps.modify world stack _ different).trans (Keeps.removeLeaf rules _ different)
  obtain ⟨appliedForest, leaf, subset, nextId, keeps⟩ := stackCase
  have zeroed := setAmount_sameShape applied id 0
  refine ⟨applied.setAmount id 0, isRemoved, appliedForest.of_sameShape zeroed, ?_, ?_, ?_, ?_⟩
  · rw [zeroed.children, leaf]
  · rw [zeroed.eobjects]
    exact subset
  · rw [zeroed.nextId, nextId]
  · intro other notId notStack
    exact (keeps other notStack).trans (Keeps.modify applied id _ notId)

theorem Forest.merge : Forest (World.merge delEntity world stack id) := by
  obtain ⟨applied, isRemoved, appliedForest, leaf, _⟩ :=
    merge_eq_removeLeaf_of_forest removes forest joinable
  rw [isRemoved]
  exact appliedForest.removeLeaf leaf (joinable.notBase forest)

theorem Keeps.merge {other : Nat} (notId : other ≠ id) (notStack : other ≠ stack) :
    Keeps world (World.merge delEntity world stack id) other := by
  obtain ⟨applied, isRemoved, _, _, _, _, keeps⟩ :=
    merge_eq_removeLeaf_of_forest removes forest joinable
  rw [isRemoved]
  exact (keeps other notId notStack).trans (Keeps.removeLeaf rules applied notId)

theorem merge_parentOf_self : (merge delEntity world stack id).parentOf id = none := by
  obtain ⟨applied, isRemoved, _⟩ := merge_eq_removeLeaf_of_forest removes forest joinable
  rw [isRemoved, removeLeaf_parentOf, update_self]

theorem merge_childrenOf_self : (merge delEntity world stack id).childrenOf id = [] := by
  obtain ⟨applied, isRemoved, appliedForest, leaf, _⟩ :=
    merge_eq_removeLeaf_of_forest removes forest joinable
  rw [isRemoved, removeLeaf_childrenOf rules appliedForest, leaf]
  rfl

theorem merge_parentOf_of_ne {other : Nat} (notId : other ≠ id) :
    (merge delEntity world stack id).parentOf other = world.parentOf other ∨
      (merge delEntity world stack id).parentOf other = none := by
  obtain ⟨applied, isRemoved, how⟩ := merge_eq_removeLeaf removes forest joinable
  have zeroed := setAmount_sameShape applied id 0
  rw [isRemoved, removeLeaf_parentOf, update_of_ne notId, zeroed.parent]
  rcases how with ⟨_, rfl⟩ | ⟨_, ⟨amount, rfl⟩ | rfl⟩
  · rw [(setAmount_sameShape world stack _).parent]
    exact .inl rfl
  · rw [(setAmount_sameShape world stack amount).parent]
    exact .inl rfl
  · rw [removeLeaf_parentOf, (setAmount_sameShape world stack _).parent, update_apply]
    split
    · exact .inr rfl
    · exact .inl rfl

theorem merge_eobjects_subset : (merge delEntity world stack id).eobjects ⊆ world.eobjects := by
  obtain ⟨applied, isRemoved, _, _, subset, _⟩ :=
    merge_eq_removeLeaf_of_forest removes forest joinable
  rw [isRemoved, removeLeaf_eobjects]
  exact (Finset.erase_subset _ _).trans subset

theorem merge_nextId : (merge delEntity world stack id).nextId = world.nextId := by
  obtain ⟨applied, isRemoved, _, _, _, nextId, _⟩ :=
    merge_eq_removeLeaf_of_forest removes forest joinable
  rw [isRemoved, removeLeaf_nextId, nextId]

end Merge

section

variable (rules) (world) (kind : DomainKind)

theorem receive_sameShape (id : Nat) : SameShape world (receive rules world kind id) :=
  SameShape.modify world id (fun _ => rfl) (fun _ => rfl)

theorem receive_sameStack (id other : Nat) :
    SameStack (world.entity other) ((receive rules world kind id).entity other) := by
  refine SameStack.modify world id ?_ other
  exact fun _ => ⟨rfl, rfl, rfl, rfl, rfl, rfl⟩

end

variable {loc : Nat}

theorem stackIfPossible_cases (delEntity : World → Nat → World) (forest : Forest world)
    (isParent : world.parentOf id = some loc) :
    stackIfPossible delEntity world loc id = none ∨
      ∃ stack ∈ world.childrenOf loc, Joinable world id stack ∧
        stackIfPossible delEntity world loc id = some (merge delEntity world stack id) := by
  unfold stackIfPossible
  split
  · next stackable =>
      cases found : (world.childrenOf loc).find? (world.joins id) with
      | none => exact .inl rfl
      | some stack =>
        exact .inr ⟨stack, List.mem_of_find?_eq_some found,
          forest.joinable isParent stackable (List.find?_some found), rfl⟩
  · exact .inl rfl

theorem Forest.not_stackable_with_parent (forest : Forest world)
    (isParent : world.parentOf id = some loc) :
    checkEntitiesStackable (world.entity loc) (world.entity id) = false := by
  rw [← Bool.not_eq_true]
  intro alike
  simp only [checkEntitiesStackable, Bool.and_eq_true, decide_eq_true_eq] at alike
  have ownParent : world.parentOf loc = some loc := alike.1.1.1.trans isParent
  exact forest.parent_ne ownParent rfl

section

variable (delEntity) (forest : Forest world) (isParent : world.parentOf id = some loc)

include forest isParent

theorem domainAddEntity_of_not_stacking
    (notInventory : (world.entity loc).domain ≠ some .inventory)
    (notContainer : (world.entity loc).domain ≠ some .container) :
    domainAddEntity delEntity rules world loc id = world ∨
      ∃ kind, domainAddEntity delEntity rules world loc id = receive rules world kind id := by
  unfold domainAddEntity
  split
  · exact .inl rfl
  · exact .inr ⟨.physical, rfl⟩
  · exact .inr ⟨.void, rfl⟩
  · rw [forest.not_stackable_with_parent isParent, Bool.and_false]
    exact .inr ⟨.stackable, rfl⟩
  · next isInventory => exact absurd isInventory notInventory
  · next isContainer => exact absurd isContainer notContainer

theorem domainAddEntity_cases :
    domainAddEntity delEntity rules world loc id = world ∨
      (∃ kind, domainAddEntity delEntity rules world loc id = receive rules world kind id) ∨
      ∃ stack ∈ world.childrenOf loc, Joinable world id stack ∧
        domainAddEntity delEntity rules world loc id = merge delEntity world stack id := by
  have stacking : ∀ kind, domainAddEntity delEntity rules world loc id =
      (stackIfPossible delEntity world loc id).getD (receive rules world kind id) →
      (∃ kind, domainAddEntity delEntity rules world loc id = receive rules world kind id) ∨
        ∃ stack ∈ world.childrenOf loc, Joinable world id stack ∧
          domainAddEntity delEntity rules world loc id = merge delEntity world stack id := by
    intro kind isStacked
    rcases stackIfPossible_cases delEntity forest isParent with
      none | ⟨stack, member, joinable, merged⟩
    · exact .inl ⟨kind, by rw [isStacked, none]; rfl⟩
    · exact .inr ⟨stack, member, joinable, by rw [isStacked, merged]; rfl⟩
  by_cases isInventory : (world.entity loc).domain = some .inventory
  · exact .inr (stacking .inventory (by simp only [domainAddEntity, isInventory]))
  · by_cases isContainer : (world.entity loc).domain = some .container
    · exact .inr (stacking .container (by simp only [domainAddEntity, isContainer]))
    · rcases domainAddEntity_of_not_stacking delEntity forest isParent isInventory isContainer with
        same | received
      · exact .inl same
      · exact .inr (.inl received)

end

section ChangeContainer

variable {newLoc other : Nat} (removes : RemovesLeaves rules delEntity)
  (relocated : Forest (World.relocate rules world id newLoc))

theorem relocate_parentOf_self (rules : Ruleset) (world : World) (id newLoc : Nat) :
    (relocate rules world id newLoc).parentOf id = some newLoc := by
  rw [relocate_parentOf, update_self]

include relocated in
theorem changeContainer_cases (delEntity : World → Nat → World) :
    changeContainer delEntity rules world id newLoc = relocate rules world id newLoc ∨
      (∃ kind, changeContainer delEntity rules world id newLoc =
        receive rules (relocate rules world id newLoc) kind id) ∨
      ∃ stack ∈ (relocate rules world id newLoc).childrenOf newLoc,
        Joinable (relocate rules world id newLoc) id stack ∧
        changeContainer delEntity rules world id newLoc =
          merge delEntity (relocate rules world id newLoc) stack id :=
  domainAddEntity_cases delEntity relocated (relocate_parentOf_self rules world id newLoc)

include removes relocated

theorem Forest.changeContainer :
    Forest (World.changeContainer delEntity rules world id newLoc) := by
  rcases changeContainer_cases relocated delEntity with
    same | ⟨kind, received⟩ | ⟨stack, _, joinable, merged⟩
  · rw [same]
    exact relocated
  · rw [received]
    exact relocated.of_sameShape (receive_sameShape rules _ kind id)
  · rw [merged]
    exact Forest.merge removes relocated joinable

theorem Keeps.changeContainer_of_not_joinable (notId : other ≠ id)
    (notJoinable : ¬ Joinable (World.relocate rules world id newLoc) id other) :
    Keeps world (World.changeContainer delEntity rules world id newLoc) other := by
  have moved : Keeps world (World.relocate rules world id newLoc) other :=
    Keeps.relocate rules world notId
  rcases changeContainer_cases relocated delEntity with
    same | ⟨kind, received⟩ | ⟨stack, _, joinable, merged⟩
  · rw [same]
    exact moved
  · rw [received]
    exact moved.trans (Keeps.modify _ id _ notId)
  · rw [merged]
    refine moved.trans (Keeps.merge removes relocated joinable notId ?_)
    rintro rfl
    exact notJoinable joinable

theorem Keeps.changeContainer (notId : other ≠ id)
    (elsewhere : world.parentOf other ≠ some newLoc) :
    Keeps world (World.changeContainer delEntity rules world id newLoc) other := by
  refine Keeps.changeContainer_of_not_joinable removes relocated notId ?_
  intro joinable
  refine elsewhere ?_
  have sameParent := joinable.sameParent
  rw [relocate_parentOf_self, relocate_parentOf, update_of_ne notId] at sameParent
  exact sameParent

theorem changeContainer_parentOf_self :
    (changeContainer delEntity rules world id newLoc).parentOf id = some newLoc ∨
      (changeContainer delEntity rules world id newLoc).parentOf id = none := by
  rcases changeContainer_cases relocated delEntity with
    same | ⟨kind, received⟩ | ⟨stack, _, joinable, merged⟩
  · rw [same]
    exact .inl (relocate_parentOf_self rules world id newLoc)
  · rw [received, (receive_sameShape rules _ kind id).parent]
    exact .inl (relocate_parentOf_self rules world id newLoc)
  · rw [merged]
    exact .inr (merge_parentOf_self removes relocated joinable)

theorem changeContainer_parentOf_of_ne (notId : other ≠ id) :
    (changeContainer delEntity rules world id newLoc).parentOf other = world.parentOf other ∨
      (changeContainer delEntity rules world id newLoc).parentOf other = none := by
  have moved : Keeps world (World.relocate rules world id newLoc) other :=
    Keeps.relocate rules world notId
  rcases changeContainer_cases relocated delEntity with
    same | ⟨kind, received⟩ | ⟨stack, _, joinable, merged⟩
  · rw [same]
    exact .inl moved.parent
  · rw [received]
    exact .inl (moved.trans (Keeps.modify _ id _ notId)).parent
  · rw [merged, ← moved.parent]
    exact merge_parentOf_of_ne removes relocated joinable notId

theorem changeContainer_eobjects_subset :
    (changeContainer delEntity rules world id newLoc).eobjects ⊆ world.eobjects := by
  have sameObjects := relocate_eobjects rules world id newLoc
  rcases changeContainer_cases relocated delEntity with
    same | ⟨kind, received⟩ | ⟨stack, _, joinable, merged⟩
  · rw [same, sameObjects]
  · rw [received, (receive_sameShape rules _ kind id).eobjects, sameObjects]
  · rw [merged, ← sameObjects]
    exact merge_eobjects_subset removes relocated joinable

theorem changeContainer_nextId :
    (changeContainer delEntity rules world id newLoc).nextId = world.nextId := by
  have sameNextId := relocate_nextId rules world id newLoc
  rcases changeContainer_cases relocated delEntity with
    same | ⟨kind, received⟩ | ⟨stack, _, joinable, merged⟩
  · rw [same, sameNextId]
  · rw [received, (receive_sameShape rules _ kind id).nextId, sameNextId]
  · rw [merged, merge_nextId removes relocated joinable, sameNextId]

theorem changeContainer_registered_of_child
    (contains : (changeContainer delEntity rules world id newLoc).childrenOf id ≠ []) :
    (changeContainer delEntity rules world id newLoc).parentOf id = some newLoc ∧
      (changeContainer delEntity rules world id newLoc).eobjects = world.eobjects := by
  have sameObjects := relocate_eobjects rules world id newLoc
  have selfParent := relocate_parentOf_self rules world id newLoc
  rcases changeContainer_cases relocated delEntity with
    same | ⟨kind, received⟩ | ⟨stack, _, joinable, merged⟩
  · rw [same]
    exact ⟨selfParent, sameObjects⟩
  · have shape := receive_sameShape rules (relocate rules world id newLoc) kind id
    rw [received, shape.parent, shape.eobjects]
    exact ⟨selfParent, sameObjects⟩
  · rw [merged, merge_childrenOf_self removes relocated joinable] at contains
    exact absurd rfl contains

end ChangeContainer

end World

end Cyphesis.Simulation
