import Cyphesis.Simulation.Stacking

/-!
# Creating and moving entities

The forest is kept by everything that adds entities to the world or moves them.
-/

namespace Cyphesis.Simulation

open Cyphesis.Foundation Finset

namespace World

variable {rules : Ruleset} {delEntity : World → Nat → World} {world changed : World} {id : Nat}

theorem Forest.registered_of_reaches (forest : Forest world) {start target : Nat}
    (registered : start ∈ world.eobjects) (reaches : Reaches world.parentOf start target) :
    target ∈ world.eobjects := by
  obtain ⟨steps, climbs⟩ := reaches
  induction steps generalizing start with
  | zero =>
    obtain rfl : start = target := Option.some.inj climbs
    exact registered
  | succ steps ih =>
    obtain ⟨parent, isParent, rest⟩ := Option.bind_eq_some_iff.mp climbs
    exact ih (forest.closed start registered parent isParent) rest

/-- Everything above an entity is kept. -/
def KeepsAbove (world changed : World) (id : Nat) : Prop :=
  ∀ above, Reaches world.parentOf id above → Keeps world changed above

theorem KeepsAbove.reaches_iff (keeps : KeepsAbove world changed id) (target : Nat) :
    Reaches changed.parentOf id target ↔ Reaches world.parentOf id target :=
  reaches_congr (fun above reaches => (keeps above reaches).parent) target

theorem KeepsAbove.trans {last : World} (first : KeepsAbove world changed id)
    (second : KeepsAbove changed last id) : KeepsAbove world last id := by
  intro above reaches
  exact (first above reaches).trans (second above ((first.reaches_iff above).mpr reaches))

theorem KeepsAbove.changeContainer {newLoc : Nat} (removes : RemovesLeaves rules delEntity)
    (grounded : ∀ node, Grounded world.parentOf node)
    (relocated : Forest (relocate rules world id newLoc))
    (notBelow : ¬ Reaches world.parentOf newLoc id) :
    KeepsAbove world (World.changeContainer delEntity rules world id newLoc) newLoc := by
  intro above reaches
  refine Keeps.changeContainer removes relocated ?_ ?_
  · rintro rfl
    exact notBelow reaches
  · intro isParent
    exact (grounded above).not_reaches_of_parent isParent reaches

section

variable (forest : Forest world) (attributes : EntityAttributes)

include forest attributes

theorem allocate_parentOf : (allocate rules world attributes).parentOf = world.parentOf := by
  funext other
  simp only [allocate, parentOf, Function.update_apply]
  split
  · next same =>
      rw [same]
      exact (forest.fresh world.nextId le_rfl).2.1.symm
  · rfl

theorem allocate_childrenOf : (allocate rules world attributes).childrenOf = world.childrenOf := by
  funext other
  simp only [allocate, childrenOf, Function.update_apply]
  split
  · next same =>
      rw [same]
      refine (List.eq_nil_iff_forall_not_mem.mpr ?_).symm
      intro child member
      exact (forest.fresh world.nextId le_rfl).2.2 child ((forest.memChildren _ _).mp member)
  · rfl

theorem Forest.allocate : Forest (World.allocate rules world attributes) where
  baseRegistered := forest.baseRegistered
  baseTop := by
    rw [allocate_parentOf forest]
    exact forest.baseTop
  parentRegistered := by
    rw [allocate_parentOf forest]
    exact forest.parentRegistered
  memChildren := by
    rw [allocate_parentOf forest, allocate_childrenOf forest]
    exact forest.memChildren
  nodup := by
    rw [allocate_childrenOf forest]
    exact forest.nodup
  grounded := by
    rw [allocate_parentOf forest]
    exact forest.grounded
  fresh := by
    intro node isFresh
    rw [allocate_parentOf forest]
    exact forest.fresh node (Nat.le_of_succ_le isFresh)

theorem Keeps.allocate (bound : id < world.nextId) :
    Keeps world (World.allocate rules world attributes) id := by
  refine ⟨?_, fun registered => registered, ?_⟩
  · rw [allocate_parentOf forest]
  · simp only [World.allocate, Function.update_of_ne (Nat.ne_of_lt bound)]
    exact SameStack.refl _

end

/-- What creating entities does: they have new ids, and nothing is registered. -/
structure Extends (world changed : World) : Prop where
  forest : Forest changed
  eobjects : changed.eobjects ⊆ world.eobjects
  nextId : world.nextId ≤ changed.nextId

mutual

theorem createEntity_extends (removes : RemovesLeaves rules delEntity) (world : World)
    (forest : Forest world) :
    (tree : EntityTree) →
      Extends world (createEntity delEntity rules world tree).1 ∧
        (createEntity delEntity rules world tree).2 = world.nextId ∧
        world.nextId < (createEntity delEntity rules world tree).1.nextId ∧
        (createEntity delEntity rules world tree).1.parentOf world.nextId = none ∧
        ∀ id < world.nextId, Keeps world (createEntity delEntity rules world tree).1 id
  | .node attributes contained => by
      have isFresh := forest.fresh world.nextId le_rfl
      have allocated : Forest (allocate rules world attributes) := forest.allocate attributes
      have noParent : (allocate rules world attributes).parentOf world.nextId = none := by
        rw [allocate_parentOf forest]
        exact isFresh.2.1
      obtain ⟨⟨forest', eobjects', nextId'⟩, keeps'⟩ :=
        createContained_extends removes (allocate rules world attributes) allocated
          world.nextId (Nat.lt_succ_self _) noParent contained
      refine ⟨⟨forest', eobjects', (Nat.le_succ _).trans nextId'⟩, rfl, nextId', ?_, ?_⟩
      · refine (keeps' world.nextId (Nat.lt_succ_self _) ?_).parent.trans noParent
        rw [noParent]
        exact nofun
      · intro other bound
        refine (Keeps.allocate forest attributes bound).trans
          (keeps' other (Nat.lt_succ_of_lt bound) ?_)
        rw [allocate_parentOf forest]
        exact isFresh.2.2 other

theorem createContained_extends (removes : RemovesLeaves rules delEntity) (world : World)
    (forest : Forest world) (id : Nat) (bound : id < world.nextId)
    (noParent : world.parentOf id = none) :
    (trees : List EntityTree) →
      Extends world (createContained delEntity rules world id trees) ∧
        ∀ other < world.nextId, world.parentOf other ≠ some id →
          Keeps world (createContained delEntity rules world id trees) other
  | [] => ⟨⟨forest, subset_rfl, le_rfl⟩, fun other _ _ => Keeps.refl world other⟩
  | tree :: rest => by
      obtain ⟨⟨created, createdEobjects, createdNextId⟩, isChild, childBound, childTop,
        createdKeeps⟩ :=
        createEntity_extends removes world forest tree
      have baseBound := forest.lt_nextId_of_registered forest.baseRegistered
      have containerTop : (createEntity delEntity rules world tree).1.parentOf id = none :=
        (createdKeeps id bound).parent.trans noParent
      have relocatable : Relocatable (createEntity delEntity rules world tree).1
          (createEntity delEntity rules world tree).2 id := by
        rw [isChild]
        refine ⟨by omega, ?_, ?_, childBound, bound.trans_le createdNextId⟩
        · intro reaches
          obtain ⟨above, isParent, _⟩ := reaches.parent_of_ne (by omega)
          rw [containerTop] at isParent
          contradiction
        · intro registered
          exact absurd (createdEobjects registered) (forest.fresh world.nextId le_rfl).1
      have relocated : Forest (relocate rules (createEntity delEntity rules world tree).1
          (createEntity delEntity rules world tree).2 id) := created.relocate relocatable
      have moved : Forest (changeContainer delEntity rules
          (createEntity delEntity rules world tree).1
          (createEntity delEntity rules world tree).2 id) :=
            Forest.changeContainer removes relocated
      have sameNextId := changeContainer_nextId removes relocated
      have movedKeeps : ∀ other < world.nextId, world.parentOf other ≠ some id →
          Keeps world (changeContainer delEntity rules
            (createEntity delEntity rules world tree).1
            (createEntity delEntity rules world tree).2 id) other := by
        intro other otherBound elsewhere
        refine (createdKeeps other otherBound).trans (Keeps.changeContainer removes relocated ?_ ?_)
        · rw [isChild]
          omega
        · rw [(createdKeeps other otherBound).parent]
          exact elsewhere
      have containerTop' :=
          (movedKeeps id bound (by rw [noParent]; exact nofun)).parent.trans noParent
      obtain ⟨⟨final, finalEobjects, finalNextId⟩, finalKeeps⟩ :=
        createContained_extends removes _ moved id
          (by rw [sameNextId]; exact bound.trans_le createdNextId) containerTop' rest
      refine ⟨⟨final, ?_, ?_⟩, ?_⟩
      · exact finalEobjects.trans
          ((changeContainer_eobjects_subset removes relocated).trans createdEobjects)
      · rw [sameNextId] at finalNextId
        exact createdNextId.trans finalNextId
      · intro other otherBound elsewhere
        have before := movedKeeps other otherBound elsewhere
        refine before.trans (finalKeeps other ?_ ?_)
        · rw [sameNextId]
          exact otherBound.trans_le createdNextId
        · rw [before.parent]
          exact elsewhere

end

theorem relocate_register (rules : Ruleset) (world : World) (id newLoc : Nat) :
    relocate rules (world.register id) id newLoc =
      (relocate rules world id newLoc).register id := by
  have sameDetached : detach rules (world.register id) id =
      (detach rules world id).register id := by
    unfold detach
    split
    · next noParent =>
        have same : world.parentOf id = none := noParent
        simp only [same]
    · next parent isParent =>
        have same : world.parentOf id = some parent := isParent
        simp only [same, removeChild, domainRemoveEntity, register]
        split <;> rfl
  rw [relocate, sameDetached]
  rfl

theorem Forest.relocate_register (forest : Forest world) {parent : Nat} (notBase : id ≠ baseId)
    (notBelow : ¬ Reaches world.parentOf parent id) (parentRegistered : parent ∈ world.eobjects)
    (idBound : id < world.nextId) :
    Forest (World.relocate rules (world.register id) id parent) := by
  rw [World.relocate_register]
  have sameObjects := relocate_eobjects rules world id parent
  refine forest.hang (relocate_parentOf rules world id parent)
    (relocate_memChildren rules forest id parent) (relocate_nodup rules forest id parent) ?_ ?_
    (relocate_nextId rules world id parent) notBase notBelow (fun _ => parentRegistered)
    idBound (forest.lt_nextId_of_registered parentRegistered)
  · intro node isRegistered
    have member : node ∈ insert id (World.relocate rules world id parent).eobjects := isRegistered
    rw [sameObjects] at member
    exact Finset.mem_insert.mp member
  · intro node isRegistered
    refine mem_insert_of_mem ?_
    rw [sameObjects]
    exact isRegistered

/-- The changed world has some more entities, all below one entity. -/
structure AddedBelow (world changed : World) (id : Nat) : Prop where
  forest : Forest changed
  nextId : changed.nextId = world.nextId
  keeps : KeepsAbove world changed id

theorem AddedBelow.refl (forest : Forest world) (id : Nat) : AddedBelow world world id :=
  ⟨forest, rfl, fun above _ => Keeps.refl world above⟩

section

variable {last : World} (first : AddedBelow world changed id)

include first

theorem AddedBelow.trans (second : AddedBelow changed last id) : AddedBelow world last id :=
  ⟨second.forest, second.nextId.trans first.nextId, first.keeps.trans second.keeps⟩

theorem AddedBelow.of_child {child : Nat}
    (isParent : changed.parentOf child = some id) (second : AddedBelow changed last child) :
    AddedBelow world last id := by
  refine first.trans ⟨second.forest, second.nextId, ?_⟩
  intro above reaches
  exact second.keeps above (reaches.of_parent isParent)

end

theorem AddedBelow.changeContainer (removes : RemovesLeaves rules delEntity)
    (forest : Forest world) {parent : Nat} (notBelow : ¬ Reaches world.parentOf parent id)
    (relocated : Forest (relocate rules (world.register id) id parent)) :
    AddedBelow world (changeContainer delEntity rules (world.register id) id parent) parent := by
  have grounded : ∀ node, Grounded (world.register id).parentOf node := forest.grounded
  have kept : KeepsAbove (world.register id)
      (World.changeContainer delEntity rules (world.register id) id parent) parent :=
    KeepsAbove.changeContainer removes grounded relocated notBelow
  refine ⟨Forest.changeContainer removes relocated, changeContainer_nextId removes relocated, ?_⟩
  intro above reaches
  have registered : Keeps world (world.register id) above :=
    ⟨rfl, fun member => mem_insert_of_mem member, SameStack.refl _⟩
  exact registered.trans (kept above reaches)

/-- The entity can be added below the other one. -/
structure Addable (world : World) (id parent : Nat) : Prop where
  notBase : id ≠ baseId
  notBelow : ¬ Reaches world.parentOf parent id
  bound : id < world.nextId

theorem Forest.addable_of_child (forest : Forest world) {child : Nat}
    (member : child ∈ world.childrenOf id) : Addable world child id := by
  have isParent := (forest.memChildren child id).mp member
  refine ⟨?_, (forest.grounded child).not_reaches_of_parent isParent,
    (forest.lt_nextId_of_parent isParent).1⟩
  rintro rfl
  rw [forest.baseTop] at isParent
  contradiction

theorem AddedBelow.addable {child : Nat} (added : AddedBelow world changed id)
    (addable : Addable world child id) : Addable changed child id :=
  ⟨addable.notBase, fun reaches => addable.notBelow ((added.keeps.reaches_iff child).mp reaches),
    added.nextId ▸ addable.bound⟩

theorem addEntity_addedBelow (removes : RemovesLeaves rules delEntity) (height : Nat)
    (forest : Forest world) {parent : Nat} (addable : Addable world id parent)
    (parentRegistered : parent ∈ world.eobjects) :
    AddedBelow world (addEntity delEntity rules height world id parent) parent := by
  induction height generalizing world id parent with
  | zero => exact AddedBelow.refl forest parent
  | succ height ih =>
    have relocated : Forest (World.relocate rules (world.register id) id parent) :=
      forest.relocate_register addable.notBase addable.notBelow parentRegistered addable.bound
    have added := AddedBelow.changeContainer removes forest addable.notBelow relocated
    simp only [addEntity]
    -- An entity that has joined a stack has no children to add.
    by_cases empty :
        (changeContainer delEntity rules (world.register id) id parent).childrenOf id = []
    · rw [empty]
      exact added
    · obtain ⟨hasParent, sameObjects⟩ :=
        changeContainer_registered_of_child removes relocated empty
      refine added.of_child hasParent ?_
      refine List.foldlRecOn (motive := fun current => AddedBelow _ current id) _ _
        (AddedBelow.refl added.forest id) ?_
      intro current sofar child member
      refine sofar.trans (ih sofar.forest (sofar.addable (added.forest.addable_of_child member)) ?_)
      refine (sofar.keeps id (Reaches.refl _ id)).registered ?_
      rw [sameObjects]
      exact mem_insert_self id world.eobjects

theorem addNewEntity_forest (removes : RemovesLeaves rules delEntity) (forest : Forest world)
    (tree : EntityTree) (loc : Nat) :
    Forest (addNewEntity delEntity rules world tree loc) ∧
      world.nextId < (addNewEntity delEntity rules world tree loc).nextId := by
  obtain ⟨⟨created, createdEobjects, _⟩, isNew, newBound, newTop, _⟩ :=
    createEntity_extends removes world forest tree
  have baseBound := forest.lt_nextId_of_registered forest.baseRegistered
  unfold addNewEntity
  dsimp only
  split
  · next locRegistered =>
      rw [isNew]
      have notBelow : ¬ Reaches (createEntity delEntity rules world tree).1.parentOf loc
          world.nextId := by
        intro reaches
        have registered := created.registered_of_reaches locRegistered reaches
        exact (forest.fresh world.nextId le_rfl).1 (createdEobjects registered)
      have added := addEntity_addedBelow removes
        (createEntity delEntity rules world tree).1.nextId created
        ⟨by omega, notBelow, newBound⟩ locRegistered
      refine ⟨added.forest, ?_⟩
      rw [added.nextId]
      exact newBound
  · exact ⟨created, newBound⟩

section

variable (world : World) (id : Nat) (argument : MoveArgument)

theorem setMoveAttributes_sameShape : SameShape world (setMoveAttributes world id argument) := by
  unfold setMoveAttributes
  exact SameShape.modify world id (fun _ => rfl) (fun _ => rfl)

theorem setMoveAttributes_sameStack
    (other : Nat) :
    SameStack (world.entity other) ((setMoveAttributes world id argument).entity other) := by
  unfold setMoveAttributes
  refine SameStack.modify world id ?_ other
  exact fun _ => ⟨rfl, rfl, rfl, rfl, rfl, rfl⟩

end

theorem Relocatable.of_sameShape {newLoc : Nat} (relocatable : Relocatable world id newLoc)
    (same : SameShape world changed) : Relocatable changed id newLoc where
  notBase := relocatable.notBase
  notBelow := by
    rw [same.parent]
    exact relocatable.notBelow
  locRegistered := by
    rw [same.eobjects]
    exact relocatable.locRegistered
  idBound := same.nextId ▸ relocatable.idBound
  locBound := same.nextId ▸ relocatable.locBound

theorem Forest.relocatable_of_not_meets (forest : Forest world) {newLoc : Nat}
    (notBase : id ≠ baseId) (bound : id < world.nextId) (locRegistered : newLoc ∈ world.eobjects)
    (missing : meets world.parentOf world.eobjects.card newLoc id = false) :
    Relocatable world id newLoc :=
  ⟨notBase, forest.not_reaches_of_not_meets locRegistered missing, fun _ => locRegistered, bound,
    forest.lt_nextId_of_registered locRegistered⟩

theorem Forest.moveOurselves (removes : RemovesLeaves rules delEntity) (forest : Forest world)
    (notBase : id ≠ baseId) (bound : id < world.nextId) (argument : MoveArgument) :
    Forest (World.moveOurselves delEntity rules world id argument) := by
  have sameShape := setMoveAttributes_sameShape world id argument
  unfold World.moveOurselves
  split
  · exact forest.of_sameShape sameShape
  · next newLoc _ =>
      split
      · exact forest.of_sameShape sameShape
      · split
        · exact forest
        · next found =>
            split
            · exact forest
            · next outside =>
                have relocatable := forest.relocatable_of_not_meets notBase bound
                  (not_not.mp found) (Bool.eq_false_iff.mpr outside)
                exact Forest.changeContainer removes
                  ((forest.of_sameShape sameShape).relocate (relocatable.of_sameShape sameShape))

section MoveOperationWith

variable {moveNew : World → Nat → MoveArgument → World} {argument : MoveArgument}

theorem moveOperationWith_of_not_stackable (single : (world.entity id).stackable = false) :
    moveOperationWith delEntity rules moveNew world id argument =
      moveOurselves delEntity rules world id argument := by
  simp [moveOperationWith, single]

section

variable (stackable : (world.entity id).stackable = true)

include stackable

theorem moveOperationWith_of_none
    (nothing : movedAmount (world.entity id).requireAmount argument.amount = 0) :
    moveOperationWith delEntity rules moveNew world id argument =
      world.setAmount id (world.entity id).requireAmount := by
  simp [moveOperationWith, stackable, stackableMoveOperation, nothing]

section

variable (something : movedAmount (world.entity id).requireAmount argument.amount ≠ 0)

include something

theorem moveOperationWith_of_all
    (all : movedAmount (world.entity id).requireAmount argument.amount =
      (world.entity id).requireAmount) :
    moveOperationWith delEntity rules moveNew world id argument =
      moveOurselves delEntity rules (world.setAmount id (world.entity id).requireAmount) id
        argument := by
  rw [all] at something
  simp [moveOperationWith, stackable, stackableMoveOperation, all, something]

theorem moveOperationWith_of_part
    (part : movedAmount (world.entity id).requireAmount argument.amount ≠
      (world.entity id).requireAmount) :
    moveOperationWith delEntity rules moveNew world id argument =
      moveNew (split delEntity rules (world.setAmount id (world.entity id).requireAmount) id
          (movedAmount (world.entity id).requireAmount argument.amount)) world.nextId
        { argument with
          id := world.nextId
          amount := some (movedAmount (world.entity id).requireAmount argument.amount) } := by
  simp only [moveOperationWith, stackable, if_true, stackableMoveOperation, something, part,
    if_false]
  rfl

end

end

theorem moveOperationWith_cases (delEntity : World → Nat → World) (rules : Ruleset)
    (moveNew : World → Nat → MoveArgument → World) (world : World) (id : Nat)
    (argument : MoveArgument) {motive : World → Prop}
    (single : (world.entity id).stackable = false →
      motive (moveOurselves delEntity rules world id argument))
    (nothing : motive (world.setAmount id (world.entity id).requireAmount))
    (all : motive (moveOurselves delEntity rules
      (world.setAmount id (world.entity id).requireAmount) id argument))
    (part : motive (moveNew (split delEntity rules
        (world.setAmount id (world.entity id).requireAmount) id
        (movedAmount (world.entity id).requireAmount argument.amount)) world.nextId
      { argument with
        id := world.nextId
        amount := some (movedAmount (world.entity id).requireAmount argument.amount) })) :
    motive (moveOperationWith delEntity rules moveNew world id argument) := by
  by_cases stackable : (world.entity id).stackable = true
  · by_cases zero : movedAmount (world.entity id).requireAmount argument.amount = 0
    · rw [moveOperationWith_of_none stackable zero]
      exact nothing
    · by_cases full : movedAmount (world.entity id).requireAmount argument.amount =
          (world.entity id).requireAmount
      · rw [moveOperationWith_of_all stackable zero full]
        exact all
      · rw [moveOperationWith_of_part stackable zero full]
        exact part
  · rw [Bool.not_eq_true] at stackable
    rw [moveOperationWith_of_not_stackable stackable]
    exact single stackable

end MoveOperationWith

/-- Moving the new stack of a split keeps the forest. -/
def KeepsForest (moveNew : World → Nat → MoveArgument → World) : Prop :=
  ∀ world id argument, Forest world → id ≠ baseId → id < world.nextId →
    Forest (moveNew world id argument)

section

variable (removes : RemovesLeaves rules delEntity)

include removes

theorem Forest.moveOperationWith {moveNew : World → Nat → MoveArgument → World}
    (keeps : KeepsForest moveNew) :
    KeepsForest (moveOperationWith delEntity rules moveNew) := by
  intro world id argument forest notBase bound
  have required := setAmount_sameShape world id (world.entity id).requireAmount
  have requiredForest := forest.of_sameShape required
  have requiredBound : id < (world.setAmount id (world.entity id).requireAmount).nextId :=
    required.nextId ▸ bound
  have baseBound := requiredForest.lt_nextId_of_registered requiredForest.baseRegistered
  refine moveOperationWith_cases delEntity rules moveNew world id argument ?_ ?_ ?_ ?_
  · intro _
    exact forest.moveOurselves removes notBase bound argument
  · exact requiredForest
  · exact requiredForest.moveOurselves removes notBase requiredBound argument
  · obtain ⟨created, newBound⟩ := addNewEntity_forest removes requiredForest _ baseId
    exact keeps _ _ _ (created.of_sameShape (setAmount_sameShape _ id _))
      (Nat.ne_of_gt baseBound) newBound

theorem Forest.moveSelf (forest : Forest world) (notBase : id ≠ baseId) (bound : id < world.nextId)
    (argument : MoveArgument) :
    Forest (World.moveSelf delEntity rules world id argument) := by
  have innermost : KeepsForest fun unsplit _ _ => unsplit := fun _ _ _ forest _ _ => forest
  exact Forest.moveOperationWith removes (Forest.moveOperationWith removes innermost) world id
    argument forest notBase bound

section

variable (forest : Forest world) (attributes : EntityAttributes)

include forest

/-- It is put into the base entity. -/
theorem addNewEntity_single :
    Forest (relocate rules ((allocate rules world attributes).register world.nextId)
        world.nextId baseId) ∧
      addNewEntity delEntity rules world (.node attributes []) baseId =
        changeContainer delEntity rules ((allocate rules world attributes).register world.nextId)
          world.nextId baseId := by
  have allocated : Forest (allocate rules world attributes) := forest.allocate attributes
  have isFresh := forest.fresh world.nextId le_rfl
  have notBase : world.nextId ≠ baseId :=
    Nat.ne_of_gt (forest.lt_nextId_of_registered forest.baseRegistered)
  have notBelow : ¬ Reaches (allocate rules world attributes).parentOf baseId world.nextId := by
    intro reaches
    obtain ⟨above, isParent, _⟩ := reaches.parent_of_ne notBase.symm
    rw [allocated.baseTop] at isParent
    contradiction
  have relocated : Forest (relocate rules ((allocate rules world attributes).register world.nextId)
      world.nextId baseId) :=
    allocated.relocate_register notBase notBelow allocated.baseRegistered (Nat.lt_succ_self _)
  refine ⟨relocated, ?_⟩
  have childless : (changeContainer delEntity rules
      ((allocate rules world attributes).register world.nextId) world.nextId baseId).childrenOf
        world.nextId = [] := by
    have moved := Forest.changeContainer removes relocated
    refine List.eq_nil_iff_forall_not_mem.mpr ?_
    intro child member
    have isParent := (moved.memChildren child world.nextId).mp member
    have different := (moved.parent_ne isParent).symm
    have before : ((allocate rules world attributes).register world.nextId).parentOf child ≠
        some world.nextId := by
      have same : (allocate rules world attributes).parentOf child = world.parentOf child :=
        congrFun (allocate_parentOf forest attributes) child
      exact fun isNew => isFresh.2.2 child (same.symm.trans isNew)
    rcases changeContainer_parentOf_of_ne removes relocated different with same | gone
    · exact before (same.symm.trans isParent)
    · rw [gone] at isParent
      contradiction
  have created : createEntity delEntity rules world (.node attributes []) =
      (allocate rules world attributes, world.nextId) := by
    simp only [createEntity, createContained]
  unfold addNewEntity
  rw [created]
  dsimp only
  rw [if_pos allocated.baseRegistered]
  have positive : (allocate rules world attributes).nextId = world.nextId + 1 := rfl
  rw [positive, addEntity, childless]
  rfl

theorem Keeps.addNewEntity_single
    (bound : id < world.nextId) (notInBase : world.parentOf id ≠ some baseId) :
    Keeps world (addNewEntity delEntity rules world (.node attributes []) baseId) id := by
  obtain ⟨relocated, isAdded⟩ := World.addNewEntity_single removes forest attributes
  rw [isAdded]
  have allocated : Keeps world (World.allocate rules world attributes) id :=
    Keeps.allocate forest attributes bound
  have registered : Keeps (World.allocate rules world attributes)
      ((World.allocate rules world attributes).register world.nextId) id :=
    ⟨rfl, fun member => mem_insert_of_mem member, SameStack.refl _⟩
  refine (allocated.trans registered).trans
    (Keeps.changeContainer removes relocated (Nat.ne_of_lt bound) ?_)
  intro inBase
  exact notInBase (allocated.parent.symm.trans inBase)

end

end

/-- An entity that the move is not about. -/
structure Unrelated (world : World) (id other : Nat) (argument : MoveArgument) : Prop where
  different : other ≠ id
  bound : other < world.nextId
  notInBase : world.parentOf other ≠ some baseId
  notInLoc : ∀ newLoc, argument.loc = some newLoc → world.parentOf other ≠ some newLoc

theorem Keeps.moveOurselves (removes : RemovesLeaves rules delEntity) (forest : Forest world)
    (notBase : id ≠ baseId) (bound : id < world.nextId) {argument : MoveArgument} {other : Nat}
    (different : other ≠ id)
    (notInLoc : ∀ newLoc, argument.loc = some newLoc → world.parentOf other ≠ some newLoc) :
    Keeps world (World.moveOurselves delEntity rules world id argument) other := by
  have sameShape := setMoveAttributes_sameShape world id argument
  have attributes : Keeps world (setMoveAttributes world id argument) other := by
    unfold setMoveAttributes
    exact Keeps.modify world id _ different
  unfold World.moveOurselves
  split
  · exact attributes
  · next newLoc isLoc =>
      split
      · exact attributes
      · split
        · exact Keeps.refl world other
        · next found =>
            split
            · exact Keeps.refl world other
            · next outside =>
                have relocatable := forest.relocatable_of_not_meets notBase bound
                  (not_not.mp found) (Bool.eq_false_iff.mpr outside)
                refine attributes.trans (Keeps.changeContainer removes
                  ((forest.of_sameShape sameShape).relocate
                    (relocatable.of_sameShape sameShape)) different ?_)
                rw [sameShape.parent]
                exact notInLoc newLoc isLoc

/-- Moving the new stack of a split leaves unrelated entities alone. -/
def KeepsUnrelated (moveNew : World → Nat → MoveArgument → World) : Prop :=
  ∀ world id argument other, Forest world → id ≠ baseId → id < world.nextId →
    Unrelated world id other argument → Keeps world (moveNew world id argument) other

section

variable (removes : RemovesLeaves rules delEntity) {moveNew : World → Nat → MoveArgument → World}
  (keeps : KeepsUnrelated moveNew)

include removes keeps

theorem split_keeps
    (forest : Forest world) (id : Nat) (amount : Int) (argument : MoveArgument) {other : Nat}
    (bound : other < world.nextId) (notInBase : world.parentOf other ≠ some baseId)
    (notInLoc : ∀ newLoc, argument.loc = some newLoc → world.parentOf other ≠ some newLoc) :
    (moveNew (split delEntity rules world id amount) world.nextId
        { argument with id := world.nextId, amount := some amount }).parentOf other =
      world.parentOf other ∧
    (other ≠ id → Keeps world (moveNew (split delEntity rules world id amount) world.nextId
      { argument with id := world.nextId, amount := some amount }) other) := by
  have notBase : world.nextId ≠ baseId :=
    Nat.ne_of_gt (forest.lt_nextId_of_registered forest.baseRegistered)
  obtain ⟨created, newBound⟩ := addNewEntity_forest removes forest
    (.node (splitAttributes (world.entity id) amount) []) baseId
  have createdKeeps := Keeps.addNewEntity_single removes forest
    (splitAttributes (world.entity id) amount) bound notInBase
  have decreased : SameShape _ (split delEntity rules world id amount) :=
    setAmount_sameShape _ id _
  have sameParent : (split delEntity rules world id amount).parentOf other =
      world.parentOf other := by
    rw [decreased.parent]
    exact createdKeeps.parent
  have moved := keeps (split delEntity rules world id amount) world.nextId
    { argument with id := world.nextId, amount := some amount } other
    (created.of_sameShape decreased) notBase newBound
    ⟨Nat.ne_of_lt bound, bound.trans newBound, sameParent ▸ notInBase, sameParent ▸ notInLoc⟩
  refine ⟨moved.parent.trans sameParent, ?_⟩
  intro different
  have splitKeeps : Keeps world (split delEntity rules world id amount) other := by
    unfold split setAmount
    exact createdKeeps.trans (Keeps.modify _ id _ different)
  exact splitKeeps.trans moved

theorem KeepsUnrelated.moveOperationWith :
    KeepsUnrelated (moveOperationWith delEntity rules moveNew) := by
  intro world id argument other forest notBase bound unrelated
  have shape := setAmount_sameShape world id (world.entity id).requireAmount
  have requiredForest := forest.of_sameShape shape
  have required : Keeps world (world.setAmount id (world.entity id).requireAmount) other :=
    Keeps.modify world id _ unrelated.different
  have stillUnrelated : Unrelated (world.setAmount id (world.entity id).requireAmount) id other
      argument :=
    ⟨unrelated.different, shape.nextId ▸ unrelated.bound, shape.parent ▸ unrelated.notInBase,
      shape.parent ▸ unrelated.notInLoc⟩
  refine moveOperationWith_cases delEntity rules moveNew world id argument
    (motive := fun changed => Keeps world changed other) ?_ ?_ ?_ ?_
  · intro _
    exact Keeps.moveOurselves removes forest notBase bound unrelated.different unrelated.notInLoc
  · exact required
  · exact required.trans (Keeps.moveOurselves removes requiredForest notBase
      (shape.nextId ▸ bound) stillUnrelated.different stillUnrelated.notInLoc)
  · exact required.trans ((split_keeps removes keeps requiredForest id _ argument
      stillUnrelated.bound stillUnrelated.notInBase stillUnrelated.notInLoc).2 unrelated.different)

end

theorem KeepsUnrelated.unsplit :
    KeepsUnrelated fun (unsplit : World) (_ : Nat) (_ : MoveArgument) => unsplit :=
  fun world _ _ other _ _ _ _ => Keeps.refl world other

section

variable (removes : RemovesLeaves rules delEntity) (forest : Forest world) {argument : MoveArgument}

include removes forest

theorem Keeps.moveSelf
    (notBase : id ≠ baseId) (bound : id < world.nextId) {other : Nat}
    (unrelated : Unrelated world id other argument) :
    Keeps world (World.moveSelf delEntity rules world id argument) other :=
  (KeepsUnrelated.unsplit.moveOperationWith removes).moveOperationWith removes world id argument
    other forest notBase bound unrelated

end

section Operations

variable {depth : Nat}

theorem Forest.moveTarget (forest : Forest world) {argument : MoveArgument}
    (registered : argument.id ∈ world.eobjects) :
    Forest (World.moveTarget rules (depth + 1) world argument) := by
  unfold World.moveTarget
  split_ifs with isBase
  · exact forest
  · exact forest.moveSelf (delEntity_removesLeaves rules depth) isBase
      (forest.lt_nextId_of_registered registered) argument

theorem moveOtherEntity_cases (rules : Ruleset) (depth : Nat) (sendOn : Nat → World)
    (world : World) (id : Nat) (argument : MoveArgument) :
    moveOtherEntity rules depth sendOn world id argument = world ∨
      argument.id ∈ world.eobjects ∧ moveOtherEntity rules depth sendOn world id argument =
        moveTarget rules depth world argument ∨
      ∃ newLoc ∈ world.eobjects,
        moveOtherEntity rules depth sendOn world id argument = sendOn newLoc := by
  unfold moveOtherEntity
  split
  · next registered =>
      split
      · split
        · exact .inr (.inl ⟨registered, rfl⟩)
        · exact .inl rfl
      · next newLoc _ =>
          split
          · exact .inr (.inl ⟨registered, rfl⟩)
          · split
            · next accepted => exact .inr (.inr ⟨newLoc, accepted.2, rfl⟩)
            · exact .inl rfl
  · exact .inl rfl

theorem moveOperation_cases (rules : Ruleset) (depth : Nat) (world : World) (id : Nat)
    (argument : MoveArgument) :
    moveOperation rules depth world id argument = world ∨
      argument.id ∈ world.eobjects ∧
        moveOperation rules depth world id argument = moveTarget rules depth world argument := by
  unfold moveOperation
  split
  · next delivered =>
      split
      · next isTarget => exact .inr ⟨isTarget ▸ delivered.1, rfl⟩
      · rcases moveOtherEntity_cases rules depth (moveOperationOn rules depth world argument) world
          id argument with same | moved | ⟨newLoc, registered, sent⟩
        · exact .inl same
        · exact .inr moved
        · rw [sent]
          unfold moveOperationOn
          split
          · exact .inl rfl
          · split
            · next isTarget => exact .inr ⟨isTarget ▸ registered, rfl⟩
            · rcases moveOtherEntity_cases rules depth (fun _ => world) world newLoc argument with
                same | moved | ⟨_, _, same⟩
              · exact .inl same
              · exact .inr moved
              · exact .inl same
  · exact .inl rfl

theorem Forest.moveOperation (forest : Forest world) (argument : MoveArgument) :
    Forest (World.moveOperation rules (depth + 1) world id argument) := by
  rcases moveOperation_cases rules (depth + 1) world id argument with same | ⟨registered, moved⟩
  · rw [same]
    exact forest
  · rw [moved]
    exact forest.moveTarget registered

end Operations

end World

end Cyphesis.Simulation
