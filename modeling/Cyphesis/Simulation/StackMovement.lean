import Cyphesis.Simulation.Stock

/-!
# Moving stacks

A Move operation transfers the amount it asks for.
-/

namespace Cyphesis.Simulation

open Cyphesis.Foundation Option Finset
open Function

namespace World

variable {rules : Ruleset} {delEntity : World → Nat → World} {world : World} {id loc : Nat}
  {argument : MoveArgument}

/-- The entity may be moved to this location. -/
structure Accepted (world : World) (id : Nat) (argument : MoveArgument) (loc : Nat) : Prop where
  isLoc : argument.loc = some loc
  registered : loc ∈ world.eobjects
  notBelow : ¬ Reaches world.parentOf loc id

variable {changed : World}

theorem Accepted.of_sameShape (accepted : Accepted world id argument loc)
    (shape : SameShape world changed) : Accepted changed id argument loc :=
  ⟨accepted.isLoc, shape.eobjects ▸ accepted.registered, shape.parent ▸ accepted.notBelow⟩

theorem Stocked.setMoveAttributes (stocked : Stocked rules world) (id : Nat)
    (argument : MoveArgument) (counts : String → Int) (place : Option Nat) :
    Transfer rules world (setMoveAttributes world id argument) counts place place :=
  stocked.of_alike (setMoveAttributes_sameShape world id argument)
    (fun other => (setMoveAttributes_sameStack world id argument other).alike) counts place

theorem setAmount_alike (world : World) (id other : Nat) :
    (world.entity other).Alike
      ((world.setAmount id (world.entity id).requireAmount).entity other) := by
  rw [setAmount_entity]
  split
  · next same =>
      subst same
      exact ⟨rfl, rfl, rfl, rfl, .inr rfl⟩
  · exact Entity.Alike.refl _

theorem Stocked.setRequiredAmount (stocked : Stocked rules world) (id : Nat)
    (counts : String → Int) (place : Option Nat) :
    Transfer rules world (world.setAmount id (world.entity id).requireAmount) counts place place :=
  stocked.of_alike (setAmount_sameShape world id _) (setAmount_alike world id) counts place

theorem Stocked.moveOurselves (removes : RemovesLeaves rules delEntity)
    (stocked : Stocked rules world) (registered : id ∈ world.eobjects) (notBase : id ≠ baseId)
    (argument : MoveArgument) :
    ∃ dest, Transfer rules world (moveOurselves delEntity rules world id argument)
        (fun type => (world.entity id).count rules type) (world.parentOf id) dest ∧
      ∀ loc, Accepted world id argument loc → dest = some loc := by
  have shape := setMoveAttributes_sameShape world id argument
  have stays := stocked.setMoveAttributes id argument
    (fun type => (world.entity id).count rules type) (world.parentOf id)
  have nothing : Transfer rules world world (fun type => (world.entity id).count rules type)
      (world.parentOf id) (world.parentOf id) :=
    stocked.of_alike (SameShape.refl world) (fun other => Entity.Alike.refl _) _ _
  unfold World.moveOurselves
  split
  · next noLoc =>
      refine ⟨_, stays, fun loc accepted => ?_⟩
      rw [accepted.isLoc] at noLoc
      contradiction
  · next newLoc isLoc =>
      have sameLoc : ∀ loc, Accepted world id argument loc → loc = newLoc :=
        fun loc accepted => Option.some.inj (accepted.isLoc.symm.trans isLoc)
      split
      · next already =>
          refine ⟨_, stays, fun loc accepted => ?_⟩
          rw [already, sameLoc loc accepted]
      · split
        · next missing =>
            refine ⟨_, nothing, fun loc accepted => ?_⟩
            exact absurd (sameLoc loc accepted ▸ accepted.registered) missing
        · next found =>
            split
            · next inside =>
                refine ⟨_, nothing, fun loc accepted => ?_⟩
                exact absurd (reaches_of_meets inside) (sameLoc loc accepted ▸ accepted.notBelow)
            · next outside =>
                have relocatable := stocked.forest.relocatable_of_not_meets notBase
                  (stocked.forest.lt_nextId_of_registered registered) (not_not.mp found)
                  (Bool.eq_false_iff.mpr outside)
                have moved := stays.stocked.changeContainer removes (shape.eobjects ▸ registered)
                  (stays.stocked.forest.relocate (relocatable.of_sameShape shape))
                rw [shape.parent] at moved
                refine ⟨_, stays.trans (moved.congr ?_), fun loc accepted => ?_⟩
                · funext type
                  exact (setMoveAttributes_sameStack world id argument id).count_eq rules type
                · rw [sameLoc loc accepted]

/-- A new entity in the base entity. -/
theorem addNewEntity_in_base (removes : RemovesLeaves rules delEntity) (forest : Forest world)
    (notInventory : (world.entity baseId).domain ≠ some .inventory)
    (notContainer : (world.entity baseId).domain ≠ some .container)
    (attributes : EntityAttributes) :
    (addNewEntity delEntity rules world (.node attributes []) baseId).parentOf =
        update world.parentOf world.nextId (some baseId) ∧
      (addNewEntity delEntity rules world (.node attributes []) baseId).eobjects =
        insert world.nextId world.eobjects ∧
      (∀ other, other ≠ world.nextId → SameStack (world.entity other)
        ((addNewEntity delEntity rules world (.node attributes []) baseId).entity other)) ∧
      SameStack (newEntity rules attributes)
        ((addNewEntity delEntity rules world
          (.node attributes []) baseId).entity world.nextId) := by
  obtain ⟨relocated, isAdded⟩ := addNewEntity_single removes forest attributes
  have notNew : baseId ≠ world.nextId :=
    Nat.ne_of_lt (forest.lt_nextId_of_registered forest.baseRegistered)
  set registered := (allocate rules world attributes).register world.nextId with isRegistered
  have others : ∀ other, other ≠ world.nextId → registered.entity other = world.entity other :=
    fun other different => update_of_ne different _ _
  have isNew : registered.entity world.nextId = newEntity rules attributes :=
    update_self ..
  have parents : registered.parentOf = world.parentOf := allocate_parentOf forest attributes
  have stack := relocate_sameStack rules registered world.nextId baseId
  have baseSame : ((relocate rules registered world.nextId baseId).entity baseId).domain =
      (world.entity baseId).domain := by
    rw [(stack baseId).domain, others baseId notNew]
  -- The domain of the base entity has changed at most the properties of the new entity.
  have ended : SameShape (relocate rules registered world.nextId baseId)
        (addNewEntity delEntity rules world (.node attributes []) baseId) ∧
      ∀ other, SameStack ((relocate rules registered world.nextId baseId).entity other)
        ((addNewEntity delEntity rules world (.node attributes []) baseId).entity other) := by
    rw [isAdded]
    rcases domainAddEntity_of_not_stacking delEntity relocated
      (relocate_parentOf_self rules registered world.nextId baseId)
      (baseSame ▸ notInventory) (baseSame ▸ notContainer) with same | ⟨kind, received⟩
    · have unchanged : changeContainer delEntity rules registered world.nextId baseId =
          relocate rules registered world.nextId baseId := same
      rw [unchanged]
      exact ⟨SameShape.refl _, fun other => SameStack.refl _⟩
    · have isReceived : changeContainer delEntity rules registered world.nextId baseId =
          receive rules
            (relocate rules registered world.nextId baseId) kind world.nextId := received
      rw [isReceived]
      exact ⟨receive_sameShape rules _ kind world.nextId,
        receive_sameStack rules _ kind world.nextId⟩
  refine ⟨?_, ?_, ?_, ?_⟩
  · rw [ended.1.parent, relocate_parentOf, parents]
  · rw [ended.1.eobjects, relocate_eobjects]
    rfl
  · intro other different
    rw [← others other different]
    exact (stack other).trans (ended.2 other)
  · rw [← isNew]
    exact (stack world.nextId).trans (ended.2 world.nextId)

theorem SameStack.setAmount {other : Nat}
    (same : SameStack (world.entity other) (changed.entity other)) (id : Nat) (amount : Int) :
    SameStack ((world.setAmount id amount).entity other)
      ((changed.setAmount id amount).entity other) := by
  rw [setAmount_entity, setAmount_entity]
  split
  · next isId =>
      subst isId
      exact ⟨same.type, same.destroyed, same.domainProperty, same.domain, same.stackable, rfl⟩
  · exact same

variable {amount : Int}

theorem newEntity_split {owner : Entity} (sound : owner.Sound rules)
    (positive : 0 < amount) (fits : amount ≤ maxAmount) :
    (newEntity rules (splitAttributes owner amount)).stackable = true ∧
      (newEntity rules (splitAttributes owner amount)).amount = some amount ∧
      (newEntity rules (splitAttributes owner amount)).Sound rules := by
  have isStack : (newEntity rules (splitAttributes owner amount)).stackable = true := by
    rcases sound.ownDomain with isNone | isStackable
    · simp [newEntity, splitAttributes, isNone, sound.byType]
    · simp [newEntity, splitAttributes, isStackable]
  have amounts : (newEntity rules (splitAttributes owner amount)).amount = some amount := by
    simp only [newEntity, splitAttributes, map_some, sound.byType, if_true]
    rw [toInt32_of_bounds (by omega) fits]
  refine ⟨isStack, amounts, sound.byType, sound.ownDomain, ?_, ?_⟩
  · intro isNone
    rw [amounts] at isNone
    contradiction
  · rw [Entity.requireAmount, amounts]
    exact positive

/-- The new stack and the rest of the old one. -/
structure SplitOff (rules : Ruleset) (world changed : World) (id : Nat) (amount : Int) : Prop where
  transfer : Transfer rules world changed
    (fun type => if type = (world.entity id).type then amount else 0) (world.parentOf id)
    (some baseId)
  parents : changed.parentOf = update world.parentOf world.nextId (some baseId)
  eobjects : changed.eobjects = insert world.nextId world.eobjects
  stackable : (changed.entity world.nextId).stackable = true
  type : (changed.entity world.nextId).type = (world.entity id).type
  requireAmount : (changed.entity world.nextId).requireAmount = amount

theorem Stocked.split (removes : RemovesLeaves rules delEntity) (stocked : Stocked rules world)
    (registered : id ∈ world.eobjects) (stackable : (world.entity id).stackable = true)
    (positive : 0 < amount) (part : amount < (world.entity id).requireAmount) :
    SplitOff rules world (split delEntity rules world id amount) id amount := by
  have sound := stocked.sound id registered stackable
  have fits := stocked.requireAmount_le_maxAmount registered stackable
  have unregistered := (stocked.forest.fresh world.nextId le_rfl).1
  have idNotNew : id ≠ world.nextId := by
    rintro rfl
    exact unregistered registered
  obtain ⟨parents, eobjects, others, isNew⟩ := addNewEntity_in_base removes stocked.forest
    stocked.baseDomain.1 stocked.baseDomain.2 (splitAttributes (world.entity id) amount)
  obtain ⟨newStackable, newAmount, newSound⟩ := newEntity_split sound positive (by omega)
  have createdForest := (addNewEntity_forest removes stocked.forest
    (.node (splitAttributes (world.entity id) amount) []) baseId).1
  set created := addNewEntity delEntity rules world
    (.node (splitAttributes (world.entity id) amount) []) baseId
  have isSplit : World.split delEntity rules world id amount =
      created.setAmount id ((world.entity id).requireAmount - amount) := rfl
  rw [isSplit]
  set rest := (world.entity id).requireAmount - amount with isRest
  have shape := setAmount_sameShape created id rest
  have shapeWorld := setAmount_sameShape world id rest
  have newEntitySame : (created.setAmount id rest).entity world.nextId =
      created.entity world.nextId := by
    rw [setAmount_entity, if_neg idNotNew.symm]
  -- Apart from the new entity, only the amount of the old stack differs.
  have keeps : ∀ other, other ≠ world.nextId →
      Keeps (world.setAmount id rest) (created.setAmount id rest) other := by
    intro other different
    refine ⟨?_, ?_, (others other different).setAmount id rest⟩
    · rw [shape.parent, shapeWorld.parent, parents, update_of_ne different]
    · rw [shape.eobjects, shapeWorld.eobjects, eobjects]
      exact mem_insert_of_mem
  have notNew : ∀ other ∈ world.eobjects, other ≠ world.nextId := by
    rintro other isRegistered rfl
    exact unregistered isRegistered
  have newParent : (created.entity world.nextId).parent = some baseId := by
    have same := congrFun parents world.nextId
    rwa [update_self] at same
  have newWorth : ∀ type weight, (created.entity world.nextId).worth rules type weight =
      (if type = (world.entity id).type then amount else 0) * weight (some baseId) := by
    intro type weight
    have sameSound := isNew.alike.sound newSound
    rw [sameSound.worth_eq (isNew.stackable.trans newStackable), newParent, isNew.type,
      Entity.requireAmount, isNew.amount, newAmount]
    rfl
  have moves : ∀ type weight, stock rules type weight (created.setAmount id rest) =
      stock rules type weight world + (if type = (world.entity id).type then amount else 0) *
        (weight (some baseId) - weight (world.parentOf id)) := by
    intro type weight
    have gained : stock rules type weight (created.setAmount id rest) =
        stock rules type weight (world.setAmount id rest) +
          ((created.setAmount id rest).entity world.nextId).worth rules type weight :=
      stock_of_insert (shape.eobjects.trans eobjects) unregistered
        (fun other isRegistered => (keeps other (notNew other isRegistered)).worth_eq rules type
          weight)
    rw [gained, stock_setAmount type weight sound registered stackable, newEntitySame, newWorth,
      isRest]
    split <;> ring
  refine ⟨⟨⟨createdForest.of_sameShape shape, ?_, ?_, ?_, ?_⟩, moves⟩, ?_, ?_, ?_, ?_, ?_⟩
  · intro other parent isParent
    rw [shape.eobjects, eobjects]
    by_cases isNext : other = world.nextId
    · rw [isNext]
      exact mem_insert_self ..
    · rw [shape.parent, parents, update_of_ne isNext] at isParent
      exact mem_insert_of_mem (stocked.registered other parent isParent)
  · intro other isRegistered otherStackable
    rw [shape.eobjects, eobjects, Finset.mem_insert] at isRegistered
    rcases isRegistered with rfl | wasRegistered
    · rw [newEntitySame]
      exact isNew.alike.sound newSound
    · have same := (keeps other (notNew other wasRegistered)).stack
      refine same.alike.sound ?_
      rw [same.stackable] at otherStackable
      rw [setAmount_entity] at otherStackable ⊢
      split
      · refine ⟨sound.byType, sound.ownDomain, fun absent => absurd absent (some_ne_none _), ?_⟩
        simp only [Entity.requireAmount, getD_some]
        omega
      · next different =>
          rw [if_neg different] at otherStackable
          exact stocked.sound other wasRegistered otherStackable
  · intro type
    rw [total, moves, sub_self, mul_zero, add_zero]
    exact stocked.bounded type
  · have baseNotNew := notNew baseId stocked.forest.baseRegistered
    have same := (keeps baseId baseNotNew).stack.domain
    rw [same, setAmount_entity]
    split
    · next isBase =>
        rw [← isBase]
        exact stocked.baseDomain
    · exact stocked.baseDomain
  · rw [shape.parent, parents]
  · rw [shape.eobjects, eobjects]
  · rw [newEntitySame, isNew.stackable, newStackable]
  · rw [newEntitySame, isNew.type]
    rfl
  · rw [newEntitySame, Entity.requireAmount, isNew.amount, newAmount]
    rfl

/-- How many things a Move takes from an entity. -/
def movedCount (entity : Entity) (asked : Option Int) (type : String) : Int :=
  if entity.stackable = true ∧ entity.type = type then movedAmount entity.requireAmount asked else 0

theorem Transfer.of_zero {source dest : Option Nat}
    (transfer : Transfer rules world changed (fun _ => 0) source source) :
    Transfer rules world changed (fun _ => 0) source dest := by
  refine ⟨transfer.stocked, ?_⟩
  intro type weight
  rw [transfer.stock]
  ring

theorem Stocked.moveAll (removes : RemovesLeaves rules delEntity)
    (moveNew : World → Nat → MoveArgument → World) (argument : MoveArgument)
    (stocked : Stocked rules world) (registered : id ∈ world.eobjects) (notBase : id ≠ baseId)
    (stackable : (world.entity id).stackable = true)
    (all : movedAmount (world.entity id).requireAmount argument.amount =
      (world.entity id).requireAmount) :
    ∃ dest, Transfer rules world (moveOperationWith delEntity rules moveNew world id argument)
        (movedCount (world.entity id) argument.amount) (world.parentOf id) dest ∧
      ∀ loc, Accepted world id argument loc → dest = some loc := by
  have sound := stocked.sound id registered stackable
  have shape := setAmount_sameShape world id (world.entity id).requireAmount
  have something : movedAmount (world.entity id).requireAmount argument.amount ≠ 0 := by
    rw [all]
    exact sound.positive.ne'
  have counts : (fun type => (world.entity id).count rules type) =
      movedCount (world.entity id) argument.amount := by
    funext type
    simp only [Entity.count, movedCount, all, sound.amountOf_eq]
  have required := stocked.setRequiredAmount id
    (movedCount (world.entity id) argument.amount) (world.parentOf id)
  obtain ⟨dest, moved, arrives⟩ := required.stocked.moveOurselves removes
    (shape.eobjects ▸ registered) notBase argument
  rw [moveOperationWith_of_all stackable something all]
  rw [shape.parent] at moved
  refine ⟨dest, required.trans (moved.congr ?_), ?_⟩
  · rw [← counts]
    funext type
    exact (setAmount_alike world id id).count_eq (fun _ => sound)
  · exact fun loc accepted => arrives loc (accepted.of_sameShape shape)

theorem movedAmount_bounds (data : Int) (asked : Option Int) :
    0 ≤ movedAmount data asked ∧ (0 ≤ data → movedAmount data asked ≤ data) := by
  unfold movedAmount
  omega

/-- A stack is split and the new stack is moved. -/
theorem Stocked.movePart (removes : RemovesLeaves rules delEntity)
    (moveNew : World → Nat → MoveArgument → World) (argument : MoveArgument)
    (stocked : Stocked rules world) (registered : id ∈ world.eobjects)
    (stackable : (world.entity id).stackable = true) (positive : 0 < amount)
    (part : amount < (world.entity id).requireAmount) :
    ∃ dest, Transfer rules world
        (moveOperationWith delEntity rules moveNew (World.split delEntity rules world id amount)
          world.nextId { argument with id := world.nextId, amount := some amount })
        (fun type => if type = (world.entity id).type then amount else 0) (world.parentOf id) dest ∧
      ∀ loc, Accepted world id argument loc → dest = some loc := by
  have fits := stocked.requireAmount_le_maxAmount registered stackable
  have splitOff := stocked.split removes registered stackable positive part
  set changed := World.split delEntity rules world id amount
  have isFresh := stocked.forest.fresh world.nextId le_rfl
  have notBase : world.nextId ≠ baseId :=
    Nat.ne_of_gt (stocked.forest.lt_nextId_of_registered stocked.forest.baseRegistered)
  have newRegistered : world.nextId ∈ changed.eobjects := by
    rw [splitOff.eobjects]
    exact mem_insert_self ..
  have all : movedAmount amount (some amount) = amount := by
    have asked : toInt32 amount = amount := toInt32_of_bounds (by omega) (by omega)
    rw [movedAmount, getD_some, asked]
    omega
  obtain ⟨dest, moved, arrives⟩ := splitOff.transfer.stocked.moveAll removes moveNew
    { argument with id := world.nextId, amount := some amount } newRegistered notBase
    splitOff.stackable (by rw [splitOff.requireAmount, all])
  have newParent : changed.parentOf world.nextId = some baseId := by
    rw [splitOff.parents, update_self]
  rw [newParent] at moved
  refine ⟨dest, splitOff.transfer.trans (moved.congr ?_), ?_⟩
  · funext type
    simp only [movedCount, splitOff.stackable, true_and, splitOff.type, splitOff.requireAmount, all,
      eq_comm]
  · intro loc accepted
    refine arrives loc ⟨accepted.isLoc, ?_, ?_⟩
    · rw [splitOff.eobjects]
      exact mem_insert_of_mem accepted.registered
    · intro reaches
      -- The new stack contains nothing, so it is not above the location.
      have away : ¬ Reaches world.parentOf loc world.nextId := by
        intro above
        have wasRegistered := stocked.forest.registered_of_reaches accepted.registered above
        exact isFresh.1 wasRegistered
      obtain ⟨steps, climbs⟩ := reaches
      rw [splitOff.parents, climb_update_of_not_reaches away] at climbs
      exact away ⟨steps, climbs⟩

theorem Stocked.moveSelf (removes : RemovesLeaves rules delEntity) (stocked : Stocked rules world)
    (registered : id ∈ world.eobjects) (notBase : id ≠ baseId) (argument : MoveArgument) :
    ∃ dest, Transfer rules world (moveSelf delEntity rules world id argument)
        (movedCount (world.entity id) argument.amount) (world.parentOf id) dest ∧
      ∀ loc, Accepted world id argument loc → dest = some loc := by
  have shape := setAmount_sameShape world id (world.entity id).requireAmount
  unfold World.moveSelf
  by_cases stackable : (world.entity id).stackable = true
  · have sound := stocked.sound id registered stackable
    have bounds := movedAmount_bounds (world.entity id).requireAmount argument.amount
    by_cases nothing : movedAmount (world.entity id).requireAmount argument.amount = 0
    · rw [moveOperationWith_of_none stackable nothing]
      have none : movedCount (world.entity id) argument.amount = fun _ => 0 := by
        funext type
        simp only [movedCount, nothing, ite_self]
      rw [none]
      exact ⟨argument.loc, (stocked.setRequiredAmount id _ (world.parentOf id)).of_zero,
        fun loc accepted => accepted.isLoc⟩
    · by_cases all : movedAmount (world.entity id).requireAmount argument.amount =
          (world.entity id).requireAmount
      · exact stocked.moveAll removes _ argument registered notBase stackable all
      · rw [moveOperationWith_of_part stackable nothing all]
        have positive := sound.positive
        have below := bounds.2 positive.le
        have required := stocked.setRequiredAmount id
          (movedCount (world.entity id) argument.amount) (world.parentOf id)
        have alike := setAmount_alike world id id
        obtain ⟨dest, moved, arrives⟩ := required.stocked.movePart removes
          (fun unsplit _ _ => unsplit) argument (shape.eobjects ▸ registered)
          (alike.stackable.trans stackable)
          (lt_of_le_of_ne bounds.1 (Ne.symm nothing))
          (by rw [alike.requireAmount]; exact lt_of_le_of_ne below all)
        rw [shape.parent] at moved
        refine ⟨dest, required.trans (moved.congr ?_), ?_⟩
        · funext type
          simp only [movedCount, stackable, true_and, alike.type, eq_comm]
        · exact fun loc accepted => arrives loc (accepted.of_sameShape shape)
  · rw [Bool.not_eq_true] at stackable
    rw [moveOperationWith_of_not_stackable stackable]
    obtain ⟨dest, moved, arrives⟩ := stocked.moveOurselves removes registered notBase argument
    refine ⟨dest, moved.congr ?_, arrives⟩
    funext type
    simp [movedCount, Entity.count, stackable]

end World

end Cyphesis.Simulation
