import Cyphesis.Server.Restore

/-!
# What can change on a server

Every action is taken apart into a few kinds of simple changes.
-/

namespace Cyphesis.Server.StorageManager

open Cyphesis.Atlas
open Cyphesis.Common
open Cyphesis.Foundation
open Cyphesis.Rules
open Function

/-- Registered, and not destroyed. -/
def Live (manager : StorageManager) (id : Nat) : Prop :=
  id ∈ manager.eobjects ∧ (manager.entity id).isDestroyed = false

/-- The entity gets a container. -/
def hang (manager : StorageManager) (id loc : Nat) : StorageManager :=
  (manager.modify id fun entity =>
    { entity with parent := some loc }.applyLocation).onContainered id

/-- Registered, and queued if stored. -/
def enroll (manager : StorageManager) (id loc : Nat) (entity : LocatedEntity) : StorageManager :=
  let contained := { entity with parent := some loc }.applyLocation
  ({ manager with
    idGenerator := id
    eobjects := insert id manager.eobjects }.setEntity id contained).entityInserted id

/-- What waits must not be moved. -/
def Movable (manager : StorageManager) (id : Nat) : Prop :=
  id ∈ manager.unstoredEntities → ¬ manager.database.hasEntity id

/-- A new entity, as it is created. -/
structure Created (types : Inheritance) (entity : LocatedEntity) : Prop where
  type : ∃ name, entity.type = some (types.node name)
  alive : entity.isDestroyed = false
  unqueued : entity.hasFlags entityQueued = false
  unclean : entity.hasFlags entityClean = false
  named : entity.ModifiersNamed

/-- The changes an action is made of. -/
inductive Change (guarded : Prop) (manager : StorageManager) : StorageManager → Prop
  | request {id : Nat} {after : LocatedEntity} (live : manager.Live id)
      (requested : (manager.entity id).Requested after) :
      Change guarded manager (manager.setEntity id after)
  | broadcast {id : Nat} (live : manager.Live id) :
      Change guarded manager (manager.updateProperties id)
  | notify {id : Nat} (connected : id ∈ manager.updated) :
      Change guarded manager (manager.entityUpdated id)
  | hang {id : Nat} (loc : Nat) (registered : id ∈ manager.eobjects) (notBase : id ≠ baseId)
      (movable : guarded → manager.Movable id) :
      Change guarded manager (manager.hang id loc)
  | disturb {id : Nat} :
      Change guarded manager (manager.modify id fun entity =>
        { entity.removeFlags entityClean with seq := entity.seq + 1 })
  | enroll {id : Nat} (loc : Nat) {entity : LocatedEntity} (fresh : manager.idGenerator < id)
      (created : Created manager.types entity) :
      Change guarded manager (manager.enroll id loc entity)
  | detach {id : Nat} (destroyed : (manager.entity id).isDestroyed = true) :
      Change guarded manager (manager.modify id fun entity => { entity with parent := none })
  | drop {id : Nat} {rest : List Nat} (front : manager.destroyedEntities = id :: rest) :
      Change guarded manager (manager.dropFront id)
  | store {id : Nat} {rest : List Nat} (front : manager.unstoredEntities = id :: rest) :
      Change guarded manager (manager.storeFront id)
  | update {id : Nat} {rest : List Nat} (front : manager.dirtyEntities = id :: rest) :
      Change guarded manager (manager.updateFront id)
  | complete (queries : Nat) : Change guarded manager (manager.complete queries)

/-- Any number of changes. -/
def Changes (guarded : Prop) : StorageManager → StorageManager → Prop :=
  Relation.ReflTransGen (Change guarded)

/-- Most of the server is left alone. -/
structure Frame (before after : StorageManager) : Prop where
  types : after.types = before.types
  eobjects : after.eobjects = before.eobjects
  updated : after.updated = before.updated
  containered : after.containered = before.containered
  unstored : after.unstoredEntities = before.unstoredEntities
  idGenerator : after.idGenerator = before.idGenerator
  commands : after.commands = before.commands
  destroyed : ∀ id, (after.entity id).isDestroyed = (before.entity id).isDestroyed

namespace Frame

variable {first second third : StorageManager}

theorem refl (manager : StorageManager) : Frame manager manager :=
  ⟨rfl, rfl, rfl, rfl, rfl, rfl, rfl, fun _ => rfl⟩

theorem trans (earlier : Frame first second) (later : Frame second third) : Frame first third where
  types := later.types.trans earlier.types
  eobjects := later.eobjects.trans earlier.eobjects
  updated := later.updated.trans earlier.updated
  containered := later.containered.trans earlier.containered
  unstored := later.unstored.trans earlier.unstored
  idGenerator := later.idGenerator.trans earlier.idGenerator
  commands := later.commands.trans earlier.commands
  destroyed id := (later.destroyed id).trans (earlier.destroyed id)

theorem movable (frame : Frame first second) {id : Nat} (movable : first.Movable id) :
    second.Movable id := by
  rw [Movable, frame.unstored, database, frame.commands]
  exact movable

end Frame

section

variable (manager : StorageManager) (id other : Nat)

theorem modify_frame {change : LocatedEntity → LocatedEntity}
    (kept : (change (manager.entity id)).isDestroyed = (manager.entity id).isDestroyed) :
    Frame manager (manager.modify id change) := by
  refine ⟨rfl, rfl, rfl, rfl, rfl, rfl, rfl, ?_⟩
  intro other
  by_cases same : other = id
  · subst same
    simpa [modify, setEntity] using kept
  · simp [modify, setEntity, update_of_ne same]

variable (entity : LocatedEntity)

variable {mask : BitVec 32}

theorem addFlags_isDestroyed (disjoint : mask &&& entityDestroyed = 0) :
    (entity.addFlags mask).isDestroyed = entity.isDestroyed :=
  Flags.hasFlags_addFlags_of_disjoint _ disjoint

theorem removeFlags_isDestroyed (disjoint : entityDestroyed &&& mask = 0) :
    (entity.removeFlags mask).isDestroyed = entity.isDestroyed :=
  Flags.hasFlags_removeFlags_of_disjoint _ disjoint

theorem entityUpdated_cases :
    ((manager.entity id).isDestroyed = true ∧ manager.entityUpdated id =
      { manager with destroyedEntities := manager.destroyedEntities ++ [id] }) ∨
    ((manager.entity id).isDestroyed = false ∧ (manager.entity id).hasFlags entityQueued = true ∧
      manager.entityUpdated id = manager) ∨
    ((manager.entity id).isDestroyed = false ∧ (manager.entity id).hasFlags entityQueued = false ∧
      manager.entityUpdated id = { manager.modify id (·.addFlags entityQueued) with
        dirtyEntities := manager.dirtyEntities ++ [id] }) := by
  unfold entityUpdated
  split
  next destroyed => exact .inl ⟨destroyed, rfl⟩
  next alive =>
    right
    rw [Bool.not_eq_true] at alive
    split
    next queued => exact .inl ⟨alive, queued, rfl⟩
    next unqueued =>
      rw [Bool.not_eq_true] at unqueued
      exact .inr ⟨alive, unqueued, rfl⟩

theorem entityUpdated_frame : Frame manager (manager.entityUpdated id) := by
  obtain ⟨_, same⟩ | ⟨_, _, same⟩ | ⟨_, _, same⟩ := manager.entityUpdated_cases id
  · rw [same]
    exact ⟨rfl, rfl, rfl, rfl, rfl, rfl, rfl, fun _ => rfl⟩
  · rw [same]
    exact Frame.refl manager
  · rw [same]
    have frame : Frame manager (manager.modify id (·.addFlags entityQueued)) :=
      manager.modify_frame id (addFlags_isDestroyed _ (by decide))
    exact ⟨rfl, rfl, rfl, rfl, rfl, rfl, rfl, frame.destroyed⟩

theorem entityUpdated_parentOf :
    (manager.entityUpdated id).parentOf other = manager.parentOf other := by
  obtain ⟨_, same⟩ | ⟨_, _, same⟩ | ⟨_, _, same⟩ := manager.entityUpdated_cases id
  · rw [same]
    rfl
  · rw [same]
  · rw [same]
    by_cases isId : other = id
    · subst isId
      simp [parentOf, modify, setEntity, LocatedEntity.addFlags]
    · simp [parentOf, modify, setEntity, update_of_ne isId]

theorem onUpdated_frame : Frame manager (manager.onUpdated id) := by
  unfold onUpdated
  split
  · exact manager.entityUpdated_frame id
  · exact Frame.refl manager

theorem onContainered_frame : Frame manager (manager.onContainered id) := by
  unfold onContainered
  split
  · exact manager.entityUpdated_frame id
  · exact Frame.refl manager

theorem applyLocation_hasFlags (disjoint : mask &&& entityClean = 0) :
    entity.applyLocation.hasFlags mask = entity.hasFlags mask := by
  unfold LocatedEntity.applyLocation
  split
  · rfl
  · exact Flags.hasFlags_removeFlags_of_disjoint entity.flags disjoint

section

variable {entity}

theorem applyLocation_unclean
    (unclean : entity.hasFlags entityClean = false) :
    entity.applyLocation.hasFlags entityClean = false := by
  unfold LocatedEntity.applyLocation
  split
  · exact unclean
  · exact Flags.hasFlags_removeFlags_of_subset entity.flags (by decide)

theorem applyLocation_named (named : entity.ModifiersNamed) :
    entity.applyLocation.ModifiersNamed := by
  unfold LocatedEntity.applyLocation
  split
  · exact named
  next property found =>
    intro name entry foundEntry active
    simp only [LocatedEntity.applyProperty, Std.TreeMap.getElem?_insert] at foundEntry
    split at foundEntry
    next same =>
      rw [← Std.LawfulEqCmp.compare_eq_iff_eq.mp same]
      decide
    · exact named name entry foundEntry active

end

theorem hang_frame (loc : Nat) : Frame manager (manager.hang id loc) := by
  have moved : Frame manager (manager.modify id fun entity =>
      { entity with parent := some loc }.applyLocation) :=
    manager.modify_frame id (applyLocation_hasFlags _ (by decide))
  exact moved.trans (onContainered_frame _ id)

theorem disturb_frame : Frame manager (manager.modify id fun entity =>
    { entity.removeFlags entityClean with seq := entity.seq + 1 }) :=
  manager.modify_frame id (removeFlags_isDestroyed (manager.entity id) (by decide))

end

section

variable (guarded : Prop) (manager : StorageManager) (id : Nat)

theorem onUpdated_changes : Changes guarded manager (manager.onUpdated id) := by
  unfold onUpdated
  split
  next connected => exact .single (.notify connected)
  · exact .refl

variable {entity : LocatedEntity} {related : StorageManager → StorageManager → Prop}
   {waiting : List Nat} (loc : Option Nat) (types : Inheritance) (newLoc : Nat)

theorem removeChild_of_notify (refl : ∀ state, related state state)
    (notify : ∀ state notified, related state (state.onUpdated notified)) (container : Nat) :
    related manager (manager.removeChild container id) := by
  unfold removeChild
  split
  · exact notify manager container
  · exact refl manager

/-- Both containers are notified. -/
def notifyContainers (newLoc : Nat) : StorageManager :=
  let removed :=
    match manager.parentOf id with
    | none => manager
    | some oldLoc => manager.removeChild oldLoc id
  if removed.contains newLoc = ∅ then removed.onUpdated newLoc else removed

theorem notifyContainers_of_notify (refl : ∀ state, related state state)
    (trans : ∀ {first second third}, related first second → related second third →
      related first third) (notify : ∀ state notified, related state (state.onUpdated notified))
    (newLoc : Nat) :
    related manager (manager.notifyContainers id newLoc) := by
  have removed : related manager
      (match manager.parentOf id with
        | none => manager
        | some oldLoc => manager.removeChild oldLoc id) := by
    cases manager.parentOf id with
    | none => exact refl manager
    | some oldLoc => exact manager.removeChild_of_notify id refl notify oldLoc
  unfold notifyContainers
  revert removed
  generalize (match manager.parentOf id with
    | none => manager
    | some oldLoc => manager.removeChild oldLoc id) = state
  intro removed
  dsimp only
  split
  · exact trans removed (notify state newLoc)
  · exact removed

theorem notifyContainers_changes : Changes guarded manager (manager.notifyContainers id newLoc) :=
  manager.notifyContainers_of_notify id (fun _ => .refl) .trans (onUpdated_changes guarded) newLoc

theorem notifyContainers_frame : Frame manager (manager.notifyContainers id newLoc) :=
  manager.notifyContainers_of_notify id Frame.refl Frame.trans onUpdated_frame newLoc

theorem modify_modify (first second : LocatedEntity → LocatedEntity) :
    (manager.modify id first).modify id second =
      manager.modify id fun entity => second (first entity) := by
  simp [modify, setEntity]

theorem changeContainer_eq_hang :
    manager.changeContainer id newLoc = (manager.notifyContainers id newLoc).hang id newLoc := by
  rw [changeContainer, addChild, modify_modify]
  rfl

theorem changeContainer_changes {newLoc : Nat} (registered : id ∈ manager.eobjects)
    (notBase : id ≠ baseId) (movable : guarded → manager.Movable id) :
    Changes guarded manager (manager.changeContainer id newLoc) := by
  have frame := manager.notifyContainers_frame id newLoc
  rw [changeContainer_eq_hang]
  refine (manager.notifyContainers_changes guarded id newLoc).tail (.hang newLoc ?_ notBase ?_)
  · rw [frame.eobjects]
    exact registered
  · exact fun guard => frame.movable (movable guard)

theorem changeContainer_frame : Frame manager (manager.changeContainer id newLoc) := by
  rw [changeContainer_eq_hang]
  exact (manager.notifyContainers_frame id newLoc).trans (hang_frame _ id newLoc)

theorem finishMove_changes : Changes guarded manager (manager.finishMove id) :=
  Relation.ReflTransGen.head .disturb (onUpdated_changes guarded _ id)

theorem finishMove_frame : Frame manager (manager.finishMove id) :=
  (manager.disturb_frame id).trans (onUpdated_frame _ id)

theorem moveOurselves_cases :
    manager.moveOurselves id loc = manager ∨
    (∃ oldLoc, manager.parentOf id = some oldLoc ∧
      manager.moveOurselves id loc = manager.finishMove id ∧
      (loc = none ∨ loc = some oldLoc)) ∨
    ∃ oldLoc newLoc, manager.parentOf id = some oldLoc ∧ loc = some newLoc ∧ newLoc ≠ oldLoc ∧
      newLoc ∈ manager.eobjects ∧
      meets manager.parentOf manager.eobjects.card newLoc id = false ∧
      manager.moveOurselves id loc = (manager.changeContainer id newLoc).finishMove id := by
  unfold moveOurselves
  split
  next oldLoc newLoc isParent =>
    by_cases same : newLoc = oldLoc
    · rw [if_pos same]
      exact .inr (.inl ⟨oldLoc, isParent, rfl, .inr (by rw [same])⟩)
    · rw [if_neg same]
      by_cases registered : newLoc ∈ manager.eobjects
      · rw [if_neg (not_not.mpr registered)]
        cases below : meets manager.parentOf manager.eobjects.card newLoc id with
        | true => exact .inl rfl
        | false => exact .inr (.inr ⟨oldLoc, newLoc, isParent, rfl, same, registered, below, rfl⟩)
      · rw [if_pos registered]
        exact .inl rfl
  next oldLoc isParent => exact .inr (.inl ⟨oldLoc, isParent, rfl, .inl rfl⟩)
  · exact .inl rfl

theorem moveOurselves_changes (registered : id ∈ manager.eobjects) (notBase : id ≠ baseId)
    (movable : guarded → manager.Movable id) :
    Changes guarded manager (manager.moveOurselves id loc) := by
  obtain same | ⟨_, _, same, _⟩ | ⟨_, newLoc, _, _, _, _, _, same⟩ :=
    manager.moveOurselves_cases id loc
  · rw [same]
    exact .refl
  · rw [same]
    exact manager.finishMove_changes guarded id
  · rw [same]
    exact (manager.changeContainer_changes guarded id registered notBase movable).trans
      (finishMove_changes guarded _ id)

theorem moveOurselves_frame : Frame manager (manager.moveOurselves id loc) := by
  obtain same | ⟨_, _, same, _⟩ | ⟨_, newLoc, _, _, _, _, _, same⟩ :=
    manager.moveOurselves_cases id loc
  · rw [same]
    exact Frame.refl manager
  · rw [same]
    exact manager.finishMove_frame id
  · rw [same]
    exact (manager.changeContainer_frame id newLoc).trans (finishMove_frame _ id)

theorem run_moveOurselves_changes {children : List Nat}
    (registered : ∀ child ∈ children, child ∈ manager.eobjects)
    (notBase : ∀ child ∈ children, child ≠ baseId)
    (movable : guarded → ∀ child ∈ children, manager.Movable child) :
    Changes guarded manager
        (run (fun current child => current.moveOurselves child loc) manager children) ∧
      Frame manager
        (run (fun current child => current.moveOurselves child loc) manager children) := by
  induction children generalizing manager with
  | nil => exact ⟨.refl, Frame.refl manager⟩
  | cons child rest ih =>
    have first : child ∈ child :: rest := List.mem_cons_self
    have later : ∀ other ∈ rest, other ∈ child :: rest := fun _ => List.mem_cons_of_mem child
    have changes := manager.moveOurselves_changes guarded child loc
      (registered child first) (notBase child first) fun guard => movable guard child first
    have frame := manager.moveOurselves_frame child loc
    obtain ⟨moreChanges, moreFrame⟩ := ih (manager.moveOurselves child loc) (fun other member => by
        rw [frame.eobjects]
        exact registered other (later other member))
      (fun other member => notBase other (later other member))
      (fun guard other member => frame.movable (movable guard other (later other member)))
    exact ⟨changes.trans moreChanges, frame.trans moreFrame⟩

/-- Flag that `Entity::destroy` sets first. -/
def condemn : StorageManager :=
  manager.modify id (·.addFlags entityDestroyed)

theorem condemn_isDestroyed : ((manager.condemn id).entity id).isDestroyed = true := by
  simp only [condemn, modify, setEntity, update_self]
  exact Flags.hasFlags_addFlags_of_subset _ (by decide)

theorem leaveContainer_changes (destroyed : (manager.entity id).isDestroyed = true) :
    Changes guarded manager (manager.leaveContainer id) ∧
      Frame manager (manager.leaveContainer id) := by
  unfold leaveContainer
  split
  · exact ⟨.refl, Frame.refl manager⟩
  next loc _ =>
    have changes : Changes guarded manager (manager.removeChild loc id) :=
      manager.removeChild_of_notify id (fun _ => .refl) (onUpdated_changes guarded) loc
    have frame := manager.removeChild_of_notify id Frame.refl onUpdated_frame loc
    refine ⟨changes.tail (.detach ?_), frame.trans (modify_frame _ id rfl)⟩
    rw [frame.destroyed]
    exact destroyed

theorem delEntity_changes {leaving : List Nat} (notBase : id ≠ baseId)
    (baseTop : manager.parentOf baseId = none)
    (movable : guarded → ∀ child ∈ manager.contains id, manager.Movable child) :
    ∃ state, Changes guarded (manager.condemn id) state ∧ Frame (manager.condemn id) state ∧
      manager.delEntity id leaving =
        { state.onUpdated id with eobjects := state.eobjects.erase id } := by
  have member :
      ∀ child ∈ leaving.filter (· ∈ manager.contains id), child ∈ manager.contains id := by
    intro child isLeaving
    simpa using (List.mem_filter.mp isLeaving).2
  obtain ⟨emptyChanges, emptyFrame⟩ :=
    (manager.condemn id).run_moveOurselves_changes guarded (manager.parentOf id)
      (fun child isLeaving => (Finset.mem_filter.mp (member child isLeaving)).1)
      (fun child isLeaving isBase => by
        have isParent := (Finset.mem_filter.mp (member child isLeaving)).2
        rw [isBase, baseTop] at isParent
        contradiction)
      (fun guard child isLeaving => movable guard child (member child isLeaving))
  have destroyed := (emptyFrame.destroyed id).trans (manager.condemn_isDestroyed id)
  obtain ⟨leaveChanges, leaveFrame⟩ := leaveContainer_changes guarded _ id destroyed
  refine ⟨_, emptyChanges.trans leaveChanges, emptyFrame.trans leaveFrame, ?_⟩
  rw [delEntity, if_neg notBase]
  simp only [(onUpdated_frame _ id).eobjects]
  rfl

/-- The world takes note of a new identifier. -/
def accept : StorageManager :=
  { manager with idGenerator := id, eobjects := insert id manager.eobjects }

theorem onUpdated_accept {other : Nat} (different : other ≠ id) (entity : LocatedEntity) :
    ((manager.accept id).setEntity id entity).onUpdated other =
      ((manager.onUpdated other).accept id).setEntity id entity := by
  have unseen : ((manager.accept id).setEntity id entity).entity other = manager.entity other := by
    simp [accept, setEntity, update_of_ne different]
  unfold onUpdated
  by_cases connected : other ∈ manager.updated
  · rw [if_pos (show other ∈ ((manager.accept id).setEntity id entity).updated from connected),
      if_pos connected]
    unfold entityUpdated
    rw [unseen]
    split
    · rfl
    · split
      · rfl
      · simp [accept, modify, setEntity, update_of_ne different, update_comm different]
  · rw [if_neg (show other ∉ ((manager.accept id).setEntity id entity).updated from connected),
      if_neg connected]

theorem contains_accept {loc : Nat} (unplaced : entity.parent = none)
    (fresh : id ∉ manager.eobjects) :
    ((manager.accept id).setEntity id entity).contains loc = manager.contains loc := by
  ext child
  rw [mem_contains, mem_contains]
  by_cases same : child = id
  · subst same
    simp [parentOf, setEntity, unplaced, fresh]
  · simp [parentOf, setEntity, accept, same]

theorem addEntity_eq_enroll {loc : Nat} (different : loc ≠ id) (unplaced : entity.parent = none)
    (fresh : id ∉ manager.eobjects) (unconnected : id ∉ manager.containered) :
    ({ manager with idGenerator := id }.setEntity id entity).addEntity id loc =
      (if manager.contains loc = ∅ then manager.onUpdated loc else manager).enroll id loc
        entity := by
  have noParent : ((manager.accept id).setEntity id entity).parentOf id = none := by
    simp [parentOf, setEntity, unplaced]
  have notified : ((manager.accept id).setEntity id entity).notifyContainers id loc =
      ((if manager.contains loc = ∅ then manager.onUpdated loc else manager).accept id).setEntity
        id entity := by
    rw [notifyContainers, noParent]
    dsimp only
    rw [manager.contains_accept id unplaced fresh, manager.onUpdated_accept id different]
    split <;> rfl
  have unheard : id ∉
      (if manager.contains loc = ∅ then manager.onUpdated loc else manager).containered := by
    split
    · rw [(manager.onUpdated_frame loc).containered]
      exact unconnected
    · exact unconnected
  change (((manager.accept id).setEntity id entity).changeContainer id loc).entityInserted id = _
  rw [changeContainer_eq_hang, notified, hang, onContainered, if_neg ?_]
  · simp only [enroll, accept, modify, setEntity, update_self, update_idem]
  · exact unheard

variable (type : String)

theorem create_created : Created types (LocatedEntity.create id (types.node type)) where
  type := ⟨type, rfl⟩
  alive := Flags.hasFlags_empty _
  unqueued := Flags.hasFlags_empty _
  unclean := Flags.hasFlags_empty _
  named name entry found active := by
    simp only [LocatedEntity.create, Std.TreeMap.getElem?_insert] at found
    split at found
    · cases found
      exact absurd rfl active
    · simp at found

section

variable {types} (created : Created types entity)

include created

theorem Created.merge
    (attributes : List (String × Element)) :
    Created types (entity.merge attributes) := by
  have touched := LocatedEntity.merge_touched entity attributes
  refine ⟨?_, ?_, ?_, ?_, touched.named created.named⟩
  · rw [touched.type]
    exact created.type
  · exact (touched.flags entityDestroyed (by decide)).trans created.alive
  · exact (touched.flags entityQueued (by decide)).trans created.unqueued
  · rw [Bool.eq_false_iff]
    intro marked
    exact absurd (touched.clean marked) (by simp [created.unclean])

theorem Created.addFlags : Created types (entity.addFlags entityEphem) where
  type := created.type
  alive := (addFlags_isDestroyed entity (by decide)).trans created.alive
  unqueued := (Flags.hasFlags_addFlags_of_disjoint _ (by decide)).trans created.unqueued
  unclean := (Flags.hasFlags_addFlags_of_disjoint _ (by decide)).trans created.unclean
  named := created.named

end

variable (attributes : List (String × Element)) (ephem : Bool)

theorem newEntity_created : Created types (newEntity types id type attributes ephem) := by
  have merged := (create_created id types type).merge attributes
  unfold newEntity
  dsimp only
  split
  · exact merged.addFlags
  · exact merged

theorem newEntity_parent : (newEntity types id type attributes ephem).parent = none := by
  have parent := (LocatedEntity.merge_touched
    (LocatedEntity.create id (types.node type)) attributes).parent
  unfold newEntity
  dsimp only
  split
  · exact parent
  · exact parent

theorem enroll_cases (loc : Nat) (unclean : entity.hasFlags entityClean = false) :
    (entity.hasFlags entityEphem = true ∧ manager.enroll id loc entity =
      (manager.accept id).setEntity id { entity with parent := some loc }.applyLocation) ∨
    (entity.hasFlags entityEphem = false ∧ manager.enroll id loc entity =
      { (manager.accept id).setEntity id
          ({ entity with parent := some loc }.applyLocation.addFlags entityQueued) with
        unstoredEntities := manager.unstoredEntities ++ [id] }) := by
  have ephem : { entity with parent := some loc }.applyLocation.hasFlags entityEphem =
      entity.hasFlags entityEphem := applyLocation_hasFlags _ (by decide)
  have stillUnclean : { entity with parent := some loc }.applyLocation.hasFlags entityClean =
      false := applyLocation_unclean unclean
  simp only [enroll, entityInserted, setEntity_entity_self, ephem, stillUnclean]
  cases entity.hasFlags entityEphem with
  | true => exact .inl ⟨rfl, rfl⟩
  | false =>
    refine .inr ⟨rfl, ?_⟩
    simp [modify, setEntity, accept]

theorem addNewEntity_changes (loc : Nat) (attributes : List (String × Element))
    (ephem : Bool) (bounded : ∀ other ∈ manager.eobjects, other ≤ manager.idGenerator)
    (connected : ∀ other ∈ manager.containered, other ≤ manager.idGenerator) :
    Changes guarded manager (manager.addNewEntity id type loc attributes ephem) := by
  unfold addNewEntity
  split
  next possible =>
    have fresh := possible.1
    have unregistered : id ∉ manager.eobjects := fun member => by
      have := bounded id member
      omega
    have unconnected : id ∉ manager.containered := fun member => by
      have := connected id member
      omega
    have different : loc ≠ id := by
      rintro rfl
      exact unregistered possible.2
    have unplaced := newEntity_parent id manager.types type attributes ephem
    rw [manager.addEntity_eq_enroll id different unplaced unregistered unconnected]
    have frame : Frame manager
        (if manager.contains loc = ∅ then manager.onUpdated loc else manager) := by
      split
      · exact manager.onUpdated_frame loc
      · exact Frame.refl manager
    have changes : Changes guarded manager
        (if manager.contains loc = ∅ then manager.onUpdated loc else manager) := by
      split
      · exact manager.onUpdated_changes guarded loc
      · exact .refl
    refine changes.tail (.enroll loc ?_ ?_)
    · rw [frame.idGenerator]
      exact fresh
    · rw [frame.types]
      exact newEntity_created id manager.types type attributes ephem
  · exact .refl

theorem updateFront_cases :
    ((manager.entity id).flags.hasAll entityCleanMask = true ∧ manager.updateFront id =
      { manager.setEntity id ((manager.entity id).removeFlags entityQueued) with
        dirtyEntities := manager.dirtyEntities.tail }) ∨
    ((manager.entity id).flags.hasAll entityCleanMask = false ∧ manager.updateFront id =
      { (manager.schedule (updateCommands id (manager.entity id))).setEntity id
          ((updatedEntity (manager.entity id)).removeFlags entityQueued) with
        dirtyEntities := manager.dirtyEntities.tail }) := by
  unfold updateFront
  split
  next clean => exact .inl ⟨clean, rfl⟩
  next unclean =>
    rw [Bool.not_eq_true] at unclean
    refine .inr ⟨unclean, ?_⟩
    simp [updateEntity, modify, setEntity]

theorem run_dropFront_changes (queue : manager.destroyedEntities = waiting) :
    Changes guarded manager (run dropFront manager waiting) ∧
      (run dropFront manager waiting).destroyedEntities = [] := by
  induction waiting generalizing manager with
  | nil => exact ⟨.refl, queue⟩
  | cons id rest ih =>
    obtain ⟨changes, empty⟩ := ih (manager.dropFront id) (by simp [dropFront, queue])
    exact ⟨.head (.drop queue) changes, empty⟩

theorem run_storeFront_changes (queue : manager.unstoredEntities = waiting) :
    Changes guarded manager (run storeFront manager waiting) := by
  induction waiting generalizing manager with
  | nil => exact .refl
  | cons id rest ih =>
    exact .head (.store queue) (ih (manager.storeFront id) (by simp [storeFront, queue]))

variable (completed : List Nat)

theorem updateDirty_changes (queue : manager.dirtyEntities = waiting) :
    Changes guarded manager (manager.updateDirty waiting completed) := by
  induction waiting generalizing manager completed with
  | nil => exact .refl
  | cons id rest ih =>
    have checked : Changes guarded manager (manager.complete (completed.headD 0)) :=
      .single (.complete _)
    unfold updateDirty
    dsimp only
    split
    · exact checked
    · refine checked.trans (.head (.update queue) (ih _ _ ?_))
      simp [updateFront, complete, queue]

theorem tick_changes : Changes guarded manager (manager.tick completed) :=
  ((manager.run_dropFront_changes guarded rfl).1.trans
    (run_storeFront_changes guarded _ rfl)).trans (updateDirty_changes guarded _ completed rfl)

end

end Cyphesis.Server.StorageManager
