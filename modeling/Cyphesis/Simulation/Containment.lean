import Cyphesis.Simulation.World
import Mathlib.Data.List.TakeWhile

/-!
# The containment forest

`Forest` says that parents and children agree, and that everything registered hangs under the base
entity.
-/

namespace Cyphesis.Simulation

open Cyphesis.Foundation List
open Function

namespace World

variable {rules : Ruleset} {world changed : World} {id other : Nat}

section

variable (world) (id) (change : Entity → Entity)

theorem modify_entity (other : Nat) :
    (world.modify id change).entity other =
      if other = id then change (world.entity id) else world.entity other := by
  simp [modify, update_apply]

@[simp]
theorem modify_entity_self : (world.modify id change).entity id = change (world.entity id) := by
  simp [modify_entity]

theorem modify_parentOf (other : Nat) :
    (world.modify id change).parentOf other =
      if other = id then (change (world.entity id)).parent else world.parentOf other := by
  rw [parentOf, modify_entity]
  split <;> rfl

theorem modify_childrenOf (other : Nat) :
    (world.modify id change).childrenOf other =
      if other = id then (change (world.entity id)).children else world.childrenOf other := by
  rw [childrenOf, modify_entity]
  split <;> rfl

@[simp]
theorem modify_eobjects : (world.modify id change).eobjects = world.eobjects :=
  rfl

@[simp]
theorem modify_nextId : (world.modify id change).nextId = world.nextId :=
  rfl

end

/-- Two worlds with the same parents, contents and registered entities. -/
structure SameShape (world changed : World) : Prop where
  parent : changed.parentOf = world.parentOf
  children : changed.childrenOf = world.childrenOf
  eobjects : changed.eobjects = world.eobjects
  nextId : changed.nextId = world.nextId

theorem SameShape.refl (world : World) : SameShape world world :=
  ⟨rfl, rfl, rfl, rfl⟩

theorem SameShape.trans {last : World} (first : SameShape world changed)
    (second : SameShape changed last) : SameShape world last :=
  ⟨second.parent.trans first.parent, second.children.trans first.children,
    second.eobjects.trans first.eobjects, second.nextId.trans first.nextId⟩

theorem SameShape.modify (world : World) (id : Nat) {change : Entity → Entity}
    (keepsParent : ∀ entity, (change entity).parent = entity.parent)
    (keepsContains : ∀ entity, (change entity).contains = entity.contains) :
    SameShape world (world.modify id change) where
  parent := by
    funext other
    simp only [parentOf, modify_entity]
    split
    · next same => rw [keepsParent, same]
    · rfl
  children := by
    funext other
    simp only [childrenOf, Entity.children, modify_entity]
    split
    · next same => rw [keepsContains, same]
    · rfl
  eobjects := rfl
  nextId := rfl

/-- Links agree, and lead to the base. -/
structure Forest (world : World) : Prop where
  baseRegistered : baseId ∈ world.eobjects
  baseTop : world.parentOf baseId = none
  parentRegistered : ∀ id ∈ world.eobjects, id ≠ baseId →
    ∃ parent ∈ world.eobjects, world.parentOf id = some parent
  memChildren : ∀ id parent, id ∈ world.childrenOf parent ↔ world.parentOf id = some parent
  nodup : ∀ id, (world.childrenOf id).Nodup
  grounded : ∀ id, Grounded world.parentOf id
  fresh : ∀ id, world.nextId ≤ id →
    id ∉ world.eobjects ∧ world.parentOf id = none ∧ ∀ child, world.parentOf child ≠ some id

namespace Forest

section

variable (forest : Forest world)

include forest

theorem of_sameShape (same : SameShape world changed) : Forest changed where
  baseRegistered := same.eobjects ▸ forest.baseRegistered
  baseTop := same.parent ▸ forest.baseTop
  parentRegistered := by
    rw [same.eobjects, same.parent]
    exact forest.parentRegistered
  memChildren := by
    rw [same.children, same.parent]
    exact forest.memChildren
  nodup := by
    rw [same.children]
    exact forest.nodup
  grounded := by
    rw [same.parent]
    exact forest.grounded
  fresh := by
    rw [same.nextId, same.eobjects, same.parent]
    exact forest.fresh

theorem eq_of_common_child {child : Nat}
    (inFirst : child ∈ world.childrenOf id) (inSecond : child ∈ world.childrenOf other) :
    id = other := by
  rw [forest.memChildren] at inFirst inSecond
  exact Option.some.inj (inFirst.symm.trans inSecond)

theorem closed :
    ∀ id ∈ world.eobjects, ∀ parent, world.parentOf id = some parent → parent ∈ world.eobjects := by
  intro id registered parent isParent
  have notBase : id ≠ baseId := by
    rintro rfl
    rw [forest.baseTop] at isParent
    contradiction
  obtain ⟨other, otherRegistered, isOther⟩ := forest.parentRegistered id registered notBase
  rw [isParent, Option.some.injEq] at isOther
  exact isOther ▸ otherRegistered

section

variable (registered : id ∈ world.eobjects)

include registered

theorem reaches_base : Reaches world.parentOf id baseId := by
  obtain ⟨top, isTop, steps, climbs⟩ := forest.grounded id
  induction steps generalizing id with
  | zero =>
    obtain rfl : id = top := Option.some.inj climbs
    by_cases isBase : id = baseId
    · rw [isBase]
      exact Reaches.refl _ _
    · obtain ⟨parent, _, isParent⟩ := forest.parentRegistered id registered isBase
      rw [isTop] at isParent
      contradiction
  | succ steps ih =>
    obtain ⟨parent, isParent, rest⟩ := Option.bind_eq_some_iff.mp climbs
    exact (ih (forest.closed id registered parent isParent) rest).of_parent isParent

theorem not_reaches_of_not_meets
    (missing : meets world.parentOf world.eobjects.card id other = false) :
    ¬ Reaches world.parentOf id other :=
  Foundation.not_reaches_of_not_meets forest.baseTop registered forest.closed
    (forest.reaches_base registered) missing

theorem lt_nextId_of_registered : id < world.nextId := by
  by_contra notBelow
  exact (forest.fresh id (by omega)).1 registered

end

section

variable {parent : Nat} (isParent : world.parentOf id = some parent)

include isParent

theorem lt_nextId_of_parent : id < world.nextId ∧ parent < world.nextId := by
  constructor
  · by_contra notBelow
    rw [(forest.fresh id (by omega)).2.1] at isParent
    contradiction
  · by_contra notBelow
    exact (forest.fresh parent (by omega)).2.2 id isParent

theorem parent_ne : parent ≠ id := by
  rintro rfl
  exact (forest.grounded parent).not_reaches_of_parent isParent (Reaches.refl _ parent)

end

theorem child_ne {child : Nat} (member : child ∈ world.childrenOf id) : child ≠ id :=
  (forest.parent_ne ((forest.memChildren child id).mp member)).symm

theorem parentOf_ne_of_leaf (leaf : world.childrenOf id = []) (child : Nat) :
    world.parentOf child ≠ some id := by
  intro isParent
  have member := (forest.memChildren child id).mpr isParent
  rw [leaf] at member
  cases member

/-- Hang it under what is not below it. -/
theorem hang {loc : Nat}
    (parents : changed.parentOf = update world.parentOf id (some loc))
    (members : ∀ child parent, child ∈ changed.childrenOf parent ↔
      changed.parentOf child = some parent)
    (nodup : ∀ parent, (changed.childrenOf parent).Nodup)
    (registered : ∀ node, node ∈ changed.eobjects → node = id ∨ node ∈ world.eobjects)
    (stillRegistered : world.eobjects ⊆ changed.eobjects)
    (sameNextId : changed.nextId = world.nextId)
    (notBase : id ≠ baseId) (notBelow : ¬ Reaches world.parentOf loc id)
    (locRegistered : id ∈ changed.eobjects → loc ∈ world.eobjects)
    (idBound : id < world.nextId) (locBound : loc < world.nextId) : Forest changed where
  baseRegistered := stillRegistered forest.baseRegistered
  baseTop := by
    rw [parents, update_of_ne notBase.symm]
    exact forest.baseTop
  parentRegistered := by
    intro child isRegistered childNotBase
    rw [parents]
    by_cases isId : child = id
    · subst isId
      exact ⟨loc, stillRegistered (locRegistered isRegistered), update_self ..⟩
    · rw [update_of_ne isId]
      obtain ⟨parent, parentRegistered, isParent⟩ := forest.parentRegistered child
        ((registered child isRegistered).resolve_left isId) childNotBase
      exact ⟨parent, stillRegistered parentRegistered, isParent⟩
  memChildren := members
  nodup := nodup
  grounded := by
    intro node
    rw [parents]
    exact (forest.grounded loc).hang notBelow (forest.grounded node)
  fresh := by
    intro node isFresh
    rw [sameNextId] at isFresh
    obtain ⟨unregistered, noParent, noChild⟩ := forest.fresh node isFresh
    refine ⟨?_, ?_, ?_⟩
    · intro isRegistered
      rcases registered node isRegistered with rfl | already
      · omega
      · exact unregistered already
    · rw [parents, update_of_ne (by omega), noParent]
    · intro child
      rw [parents]
      by_cases isId : child = id
      · rw [isId, update_self]
        intro same
        have : loc = node := Option.some.inj same
        omega
      · rw [update_of_ne isId]
        exact noChild child

/-- Cutting off an entity without children. -/
theorem cut
    (parents : changed.parentOf = update world.parentOf id none)
    (members : ∀ child parent, child ∈ changed.childrenOf parent ↔
      changed.parentOf child = some parent)
    (nodup : ∀ parent, (changed.childrenOf parent).Nodup)
    (erased : changed.eobjects = world.eobjects.erase id)
    (sameNextId : changed.nextId = world.nextId)
    (leaf : world.childrenOf id = []) (notBase : id ≠ baseId) : Forest changed where
  baseRegistered := by
    rw [erased]
    exact Finset.mem_erase.mpr ⟨notBase.symm, forest.baseRegistered⟩
  baseTop := by
    rw [parents, update_of_ne notBase.symm]
    exact forest.baseTop
  parentRegistered := by
    intro child registered childNotBase
    rw [erased, Finset.mem_erase] at registered
    obtain ⟨parent, parentRegistered, isParent⟩ :=
      forest.parentRegistered child registered.2 childNotBase
    refine ⟨parent, ?_, ?_⟩
    · rw [erased, Finset.mem_erase]
      refine ⟨?_, parentRegistered⟩
      rintro rfl
      exact forest.parentOf_ne_of_leaf leaf child isParent
    · rw [parents, update_of_ne registered.1, isParent]
  memChildren := members
  nodup := nodup
  grounded := by
    intro node
    rw [parents]
    exact (forest.grounded node).cut
  fresh := by
    intro node isFresh
    rw [sameNextId] at isFresh
    obtain ⟨unregistered, noParent, noChild⟩ := forest.fresh node isFresh
    refine ⟨?_, ?_, ?_⟩
    · rw [erased]
      exact fun member => unregistered (Finset.mem_of_mem_erase member)
    · rw [parents]
      by_cases isId : node = id
      · rw [isId, update_self]
      · rw [update_of_ne isId, noParent]
    · intro child
      rw [parents]
      by_cases isId : child = id
      · rw [isId, update_self]
        exact nofun
      · rw [update_of_ne isId]
        exact noChild child

end

end Forest

/-- The entity is the same stack, but for its place and its properties. -/
structure SameStack (before after : Entity) : Prop where
  type : after.type = before.type
  destroyed : after.destroyed = before.destroyed
  domainProperty : after.domainProperty = before.domainProperty
  domain : after.domain = before.domain
  stackable : after.stackable = before.stackable
  amount : after.amount = before.amount

theorem SameStack.refl (entity : Entity) : SameStack entity entity :=
  ⟨rfl, rfl, rfl, rfl, rfl, rfl⟩

theorem SameStack.trans {before between after : Entity} (first : SameStack before between)
    (second : SameStack between after) : SameStack before after :=
  ⟨second.type.trans first.type, second.destroyed.trans first.destroyed,
    second.domainProperty.trans first.domainProperty, second.domain.trans first.domain,
    second.stackable.trans first.stackable, second.amount.trans first.amount⟩

theorem SameStack.modify (world : World) (id : Nat) {change : Entity → Entity}
    (keeps : ∀ entity, SameStack entity (change entity)) (other : Nat) :
    SameStack (world.entity other) ((world.modify id change).entity other) := by
  rw [modify_entity]
  split
  · next same =>
      subst same
      exact keeps _
  · exact SameStack.refl _

section

variable (rules) (world)

theorem domainRemoveEntity_sameShape (domainEntity id : Nat) :
    SameShape world (domainRemoveEntity rules world domainEntity id) := by
  unfold domainRemoveEntity
  split
  · exact SameShape.refl world
  · exact SameShape.modify world id (fun _ => rfl) (fun _ => rfl)

theorem removeChild_sameStack (parent child other : Nat) :
    SameStack (world.entity other) ((removeChild rules world parent child).entity other) := by
  have released : SameStack (world.entity other)
      ((domainRemoveEntity rules world parent child).entity other) := by
    unfold domainRemoveEntity
    split
    · exact SameStack.refl _
    · refine SameStack.modify world child ?_ other
      exact fun _ => ⟨rfl, rfl, rfl, rfl, rfl, rfl⟩
  refine released.trans (SameStack.modify _ parent ?_ other)
  exact fun _ => ⟨rfl, rfl, rfl, rfl, rfl, rfl⟩

variable (parent child : Nat)

theorem removeChild_parentOf :
    (removeChild rules world parent child).parentOf = world.parentOf := by
  rw [← (domainRemoveEntity_sameShape rules world parent child).parent]
  funext other
  simp only [removeChild, parentOf, modify_entity]
  split
  · next same => rw [same]
  · rfl

theorem removeChild_childrenOf (parent child other : Nat) :
    (removeChild rules world parent child).childrenOf other =
      if other = parent then (world.childrenOf other).filter (· ≠ child)
      else world.childrenOf other := by
  rw [← (domainRemoveEntity_sameShape rules world parent child).children]
  simp only [removeChild, childrenOf, modify_entity]
  split
  · next same =>
      rw [same, Entity.children, Entity.children]
      cases (domainRemoveEntity rules world parent child).entity parent |>.contains <;> rfl
  · rfl

theorem removeChild_eobjects : (removeChild rules world parent child).eobjects = world.eobjects :=
  (domainRemoveEntity_sameShape rules world parent child).eobjects

theorem removeChild_nextId : (removeChild rules world parent child).nextId = world.nextId :=
  (domainRemoveEntity_sameShape rules world parent child).nextId

theorem detach_sameStack (id other : Nat) :
    SameStack (world.entity other) ((detach rules world id).entity other) := by
  unfold detach
  split
  · exact SameStack.refl _
  · exact removeChild_sameStack rules world _ id other

theorem detach_parentOf (id : Nat) : (detach rules world id).parentOf = world.parentOf := by
  unfold detach
  split
  · rfl
  · exact removeChild_parentOf rules world _ id

theorem detach_eobjects (id : Nat) : (detach rules world id).eobjects = world.eobjects := by
  unfold detach
  split
  · rfl
  · exact removeChild_eobjects rules world _ id

theorem detach_nextId (id : Nat) : (detach rules world id).nextId = world.nextId := by
  unfold detach
  split
  · rfl
  · exact removeChild_nextId rules world _ id

end

theorem detach_childrenOf (rules : Ruleset) (forest : Forest world) (id other : Nat) :
    (detach rules world id).childrenOf other = (world.childrenOf other).filter (· ≠ id) := by
  have elsewhere : world.parentOf id ≠ some other →
      (world.childrenOf other).filter (· ≠ id) = world.childrenOf other := by
    intro notParent
    refine List.filter_eq_self.mpr ?_
    intro child member
    refine decide_eq_true ?_
    rintro rfl
    exact notParent ((forest.memChildren _ other).mp member)
  unfold detach
  split
  · next noParent =>
      rw [elsewhere]
      simp [noParent]
  · next parent isParent =>
      rw [removeChild_childrenOf]
      split
      · rfl
      · next different =>
          rw [elsewhere]
          rw [isParent, Ne, Option.some.injEq]
          exact fun same => different same.symm

variable {children : List Nat}

theorem mem_insertChild {child other : Nat} :
    other ∈ insertChild rules child children ↔ other = child ∨ other ∈ children := by
  unfold insertChild
  split
  · next member =>
      constructor
      · exact Or.inr
      · rintro (rfl | already)
        · exact member
        · exact already
  · rw [mem_append, mem_cons, or_left_comm, ← mem_append, takeWhile_append_dropWhile]

theorem nodup_insertChild {child : Nat}
    (nodup : children.Nodup) : (insertChild rules child children).Nodup := by
  unfold insertChild
  split
  · exact nodup
  · next missing =>
      rw [nodup_middle, takeWhile_append_dropWhile]
      exact List.nodup_cons.mpr ⟨missing, nodup⟩

/-- `changeContainer`, up to the new domain. -/
def relocate (rules : Ruleset) (world : World) (id newLoc : Nat) : World :=
  linkChild rules (detach rules world id) newLoc id

section

variable (rules) (world)

theorem relocate_sameStack (id newLoc other : Nat) :
    SameStack (world.entity other) ((relocate rules world id newLoc).entity other) := by
  refine (detach_sameStack rules world id other).trans ?_
  unfold relocate linkChild
  refine SameStack.trans (SameStack.modify _ newLoc ?_ other) (SameStack.modify _ id ?_ other)
  · exact fun _ => ⟨rfl, rfl, rfl, rfl, rfl, rfl⟩
  · exact fun _ => ⟨rfl, rfl, rfl, rfl, rfl, rfl⟩

theorem linkChild_parentOf (parent child : Nat) :
    (linkChild rules world parent child).parentOf = update world.parentOf child (some parent) := by
  funext other
  rw [linkChild, modify_parentOf, update_apply, modify_parentOf]
  split
  · rfl
  · split
    · next same => rw [same]; rfl
    · rfl

theorem linkChild_childrenOf (parent child other : Nat) :
    (linkChild rules world parent child).childrenOf other =
      if other = parent then insertChild rules child (world.childrenOf other)
      else world.childrenOf other := by
  have kept : (linkChild rules world parent child).childrenOf other =
      (world.modify parent fun entity =>
        { entity with contains := some (insertChild rules child entity.children) }).childrenOf
          other := by
    unfold linkChild
    rw [modify_childrenOf]
    split
    · next same => rw [same]; rfl
    · rfl
  rw [kept, modify_childrenOf]
  split
  · next same => rw [same]; rfl
  · rfl

theorem relocate_parentOf (id newLoc : Nat) :
    (relocate rules world id newLoc).parentOf = update world.parentOf id (some newLoc) := by
  rw [relocate, linkChild_parentOf, detach_parentOf]

end

theorem relocate_childrenOf (rules : Ruleset) (forest : Forest world) (id newLoc other : Nat) :
    (relocate rules world id newLoc).childrenOf other =
      if other = newLoc then insertChild rules id ((world.childrenOf other).filter (· ≠ id))
      else (world.childrenOf other).filter (· ≠ id) := by
  rw [relocate, linkChild_childrenOf, detach_childrenOf rules forest]

section

variable (rules) (world)

theorem relocate_eobjects (id newLoc : Nat) :
    (relocate rules world id newLoc).eobjects = world.eobjects :=
  detach_eobjects rules world id

theorem relocate_nextId (id newLoc : Nat) :
    (relocate rules world id newLoc).nextId = world.nextId :=
  detach_nextId rules world id

end

/-- An entity may be moved into a new container. -/
structure Relocatable (world : World) (id newLoc : Nat) : Prop where
  notBase : id ≠ baseId
  notBelow : ¬ Reaches world.parentOf newLoc id
  locRegistered : id ∈ world.eobjects → newLoc ∈ world.eobjects
  idBound : id < world.nextId
  locBound : newLoc < world.nextId

theorem relocate_memChildren (rules : Ruleset) (forest : Forest world) (id newLoc : Nat)
    (child parent : Nat) :
    child ∈ (relocate rules world id newLoc).childrenOf parent ↔
      (relocate rules world id newLoc).parentOf child = some parent := by
  rw [relocate_childrenOf rules forest, relocate_parentOf, update_apply]
  by_cases isId : child = id
  · subst isId
    by_cases isLoc : parent = newLoc
    · simp [isLoc, mem_insertChild]
    · simp [isLoc, Ne.symm isLoc]
  · rw [if_neg isId, ← forest.memChildren child parent]
    by_cases isLoc : parent = newLoc
    · simp [isLoc, isId, mem_insertChild]
    · simp [isLoc, isId]

theorem relocate_nodup (rules : Ruleset) (forest : Forest world) (id newLoc parent : Nat) :
    ((relocate rules world id newLoc).childrenOf parent).Nodup := by
  rw [relocate_childrenOf rules forest]
  have filtered := (forest.nodup parent).filter (· ≠ id)
  split
  · exact nodup_insertChild filtered
  · exact filtered

theorem Forest.relocate (forest : Forest world) {newLoc : Nat}
    (relocatable : Relocatable world id newLoc) :
    Forest (relocate rules world id newLoc) := by
  have sameObjects := relocate_eobjects rules world id newLoc
  refine forest.hang (relocate_parentOf rules world id newLoc)
    (relocate_memChildren rules forest id newLoc) (relocate_nodup rules forest id newLoc) ?_ ?_
    (relocate_nextId rules world id newLoc) relocatable.notBase relocatable.notBelow ?_
    relocatable.idBound relocatable.locBound
  · intro node isRegistered
    exact .inr (sameObjects ▸ isRegistered)
  · rw [sameObjects]
  · rw [sameObjects]
    exact relocatable.locRegistered

/-- The last part of destroying an entity, once its children have been moved. -/
def dismiss (rules : Ruleset) (world : World) (id : Nat) : World :=
  (locatedEntityDestroy rules world id).unregister id

section Dismiss

variable (rules)

theorem dismiss_entity (world : World) (id other : Nat) :
    (dismiss rules world id).entity other =
      if other = id then
        { (detach rules world id).entity id with parent := none, domain := none, destroyed := true }
      else (detach rules world id).entity other :=
  modify_entity (detach rules world id) id
    (fun entity => { entity with parent := none, domain := none, destroyed := true }) other

theorem dismiss_parentOf (world : World) (id : Nat) :
    (dismiss rules world id).parentOf = update world.parentOf id none := by
  rw [← detach_parentOf rules world id]
  funext other
  rw [parentOf, dismiss_entity, update_apply]
  split <;> rfl

theorem dismiss_childrenOf (forest : Forest world) (id other : Nat) :
    (dismiss rules world id).childrenOf other = (world.childrenOf other).filter (· ≠ id) := by
  rw [← detach_childrenOf rules forest id other, childrenOf, dismiss_entity]
  split
  · next same => rw [same]; rfl
  · rfl

section

variable (world) (id)

theorem dismiss_eobjects : (dismiss rules world id).eobjects = world.eobjects.erase id := by
  simp only [dismiss, unregister, locatedEntityDestroy, modify_eobjects, detach_eobjects]

theorem dismiss_nextId : (dismiss rules world id).nextId = world.nextId := by
  simp only [dismiss, unregister, locatedEntityDestroy, modify_nextId, detach_nextId]

end

theorem dismiss_sameStack (world : World) {id other : Nat} (different : other ≠ id) :
    SameStack (world.entity other) ((dismiss rules world id).entity other) := by
  rw [dismiss_entity, if_neg different]
  exact detach_sameStack rules world id other

end Dismiss

theorem Forest.dismiss (forest : Forest world) (leaf : world.childrenOf id = [])
    (notBase : id ≠ baseId) : Forest (dismiss rules world id) := by
  refine forest.cut (dismiss_parentOf rules world id) ?_ ?_ (dismiss_eobjects rules world id)
    (dismiss_nextId rules world id) leaf notBase
  · intro child parent
    rw [dismiss_childrenOf rules forest, dismiss_parentOf, update_apply,
      mem_filter, forest.memChildren]
    split
    · next same => simp [same]
    · next different => simp [different]
  · intro parent
    rw [dismiss_childrenOf rules forest]
    exact (forest.nodup parent).filter _

/-- A deletion without children. -/
def removeLeaf (rules : Ruleset) (world : World) (id : Nat) : World :=
  dismiss rules (world.markDestroyed id) id

/-- Deleting does this to every entity without children. -/
def RemovesLeaves (rules : Ruleset) (delEntity : World → Nat → World) : Prop :=
  ∀ world id, id ≠ baseId → world.childrenOf id = [] →
    delEntity world id = removeLeaf rules world id

theorem markDestroyed_sameShape (world : World) (id : Nat) :
    SameShape world (world.markDestroyed id) :=
  SameShape.modify world id (fun _ => rfl) (fun _ => rfl)

theorem delEntity_removesLeaves (rules : Ruleset) (depth : Nat) :
    RemovesLeaves rules (delEntity rules (depth + 1)) := by
  intro world id notBase leaf
  have nothing : (world.markDestroyed id).childrenOf id = [] := by
    rw [(markDestroyed_sameShape world id).children, leaf]
  simp only [delEntity, notBase, if_false, destroy, nothing, foldl_nil]
  rfl

section RemoveLeaf

variable (rules)

theorem removeLeaf_parentOf (world : World) (id : Nat) :
    (removeLeaf rules world id).parentOf = update world.parentOf id none := by
  rw [← (markDestroyed_sameShape world id).parent]
  exact dismiss_parentOf rules _ id

theorem removeLeaf_childrenOf (forest : Forest world) (id other : Nat) :
    (removeLeaf rules world id).childrenOf other = (world.childrenOf other).filter (· ≠ id) := by
  rw [← (markDestroyed_sameShape world id).children]
  exact dismiss_childrenOf rules (forest.of_sameShape (markDestroyed_sameShape world id)) id other

section

variable (world) (id)

theorem removeLeaf_eobjects : (removeLeaf rules world id).eobjects = world.eobjects.erase id :=
  dismiss_eobjects rules (world.markDestroyed id) id

theorem removeLeaf_nextId : (removeLeaf rules world id).nextId = world.nextId :=
  dismiss_nextId rules (world.markDestroyed id) id

end

theorem removeLeaf_sameStack (world : World) {id other : Nat} (different : other ≠ id) :
    SameStack (world.entity other) ((removeLeaf rules world id).entity other) := by
  have marked : (world.markDestroyed id).entity other = world.entity other := by
    rw [markDestroyed, modify_entity, if_neg different]
  rw [← marked]
  exact dismiss_sameStack rules _ different

end RemoveLeaf

theorem Forest.removeLeaf (forest : Forest world) (leaf : world.childrenOf id = [])
    (notBase : id ≠ baseId) : Forest (removeLeaf rules world id) := by
  have marked := markDestroyed_sameShape world id
  refine (forest.of_sameShape marked).dismiss ?_ notBase
  rw [marked.children, leaf]

/-- The entity keeps its parent and its stack. -/
structure Keeps (world changed : World) (id : Nat) : Prop where
  parent : changed.parentOf id = world.parentOf id
  registered : id ∈ world.eobjects → id ∈ changed.eobjects
  stack : SameStack (world.entity id) (changed.entity id)

theorem Keeps.refl (world : World) (id : Nat) : Keeps world world id :=
  ⟨rfl, fun registered => registered, SameStack.refl _⟩

theorem Keeps.trans {last : World} (first : Keeps world changed id)
    (second : Keeps changed last id) : Keeps world last id :=
  ⟨second.parent.trans first.parent, fun registered =>
    second.registered (first.registered registered),
    first.stack.trans second.stack⟩

theorem Keeps.modify (world : World) (id : Nat) (change : Entity → Entity)
    (different : other ≠ id) :
    Keeps world (world.modify id change) other := by
  refine ⟨?_, fun registered => registered, ?_⟩
  · rw [modify_parentOf, if_neg different]
  · rw [modify_entity, if_neg different]
    exact SameStack.refl _

section

variable (rules) (world) (different : other ≠ id)

include different

theorem Keeps.relocate {newLoc : Nat} :
    Keeps world (World.relocate rules world id newLoc) other := by
  refine ⟨?_, ?_, relocate_sameStack rules world id newLoc other⟩
  · rw [relocate_parentOf, update_of_ne different]
  · rw [relocate_eobjects]
    exact fun registered => registered

theorem Keeps.removeLeaf : Keeps world (World.removeLeaf rules world id) other := by
  refine ⟨?_, ?_, removeLeaf_sameStack rules world different⟩
  · rw [removeLeaf_parentOf, update_of_ne different]
  · rw [removeLeaf_eobjects]
    exact fun registered => Finset.mem_erase.mpr ⟨different, registered⟩

end

end World

end Cyphesis.Simulation
