import Cyphesis.Common.Database
import Cyphesis.Rules.Thing

/-!
# The storage manager

`StorageManager` keeps queues of entities to insert and to update, and of the identifiers to delete.
A tick stops with the updates while too many queries are pending; how many have been completed is an
argument.
-/

namespace Cyphesis.Server

open Cyphesis.Atlas
open Cyphesis.Common
open Cyphesis.Foundation
open Cyphesis.Rules
open Function

/-- The base entity, which is in no container. -/
def baseId : Nat := 0

/-- With defaults never stored. -/
structure Inheritance where
  node : String → TypeNode
  name_node : ∀ name, (node name).name = name
  unmarked : ∀ (name property : String) (default : SoftProperty),
    (node name).defaults[property]? = some default →
    default.hasFlags (propFlagPersistenceClean ||| propFlagPersistenceSeen) = false

/-- The storage manager, and what it works on. -/
structure StorageManager where
  types : Inheritance
  entity : Nat → LocatedEntity
  eobjects : Finset Nat
  /-- Those whose `updated` signal is connected. -/
  updated : Finset Nat
  /-- With a connected signal. -/
  containered : Finset Nat
  unstoredEntities : List Nat
  dirtyEntities : List Nat
  destroyedEntities : List Nat
  pendingQueries : Nat
  idGenerator : Nat
  /-- All commands so far, of earlier servers too. -/
  commands : List Command

namespace StorageManager

/-- After all scheduled commands. -/
def database (manager : StorageManager) : Database :=
  run Database.exec Database.initial manager.commands

/-- `Database::scheduleCommand`, for several. -/
def schedule (manager : StorageManager) (commands : List Command) : StorageManager :=
  { manager with
    commands := manager.commands ++ commands
    pendingQueries := manager.pendingQueries + commands.length }

def setEntity (manager : StorageManager) (id : Nat) (entity : LocatedEntity) : StorageManager :=
  { manager with entity := update manager.entity id entity }

def modify (manager : StorageManager) (id : Nat) (change : LocatedEntity → LocatedEntity) :
    StorageManager :=
  manager.setEntity id (change (manager.entity id))

variable (manager : StorageManager)

@[simp]
theorem setEntity_entity_self (id : Nat) (entity : LocatedEntity) :
    (manager.setEntity id entity).entity id = entity :=
  update_self ..

theorem setEntity_entity_of_ne {id other : Nat} (entity : LocatedEntity) (different : other ≠ id) :
    (manager.setEntity id entity).entity other = manager.entity other :=
  update_of_ne different ..

@[simp]
theorem modify_entity_self (id : Nat) (change : LocatedEntity → LocatedEntity) :
    (manager.modify id change).entity id = change (manager.entity id) :=
  update_self ..

theorem modify_entity_of_ne {id other : Nat} (change : LocatedEntity → LocatedEntity)
    (different : other ≠ id) :
    (manager.modify id change).entity other = manager.entity other :=
  update_of_ne different ..

/-- Both signals lead to `entityUpdated`. -/
def connect (manager : StorageManager) (id : Nat) : StorageManager :=
  { manager with
    updated := insert id manager.updated
    containered := insert id manager.containered }

def entityInserted (manager : StorageManager) (id : Nat) : StorageManager :=
  if (manager.entity id).hasFlags entityEphem then manager
  else if (manager.entity id).hasFlags entityClean then manager.connect id
  else
    { manager.modify id (·.addFlags entityQueued) with
      unstoredEntities := manager.unstoredEntities ++ [id] }

def entityUpdated (manager : StorageManager) (id : Nat) : StorageManager :=
  if (manager.entity id).isDestroyed then
    { manager with destroyedEntities := manager.destroyedEntities ++ [id] }
  else if (manager.entity id).hasFlags entityQueued then manager
  else
    { manager.modify id (·.addFlags entityQueued) with
      dirtyEntities := manager.dirtyEntities ++ [id] }

def onUpdated (manager : StorageManager) (id : Nat) : StorageManager :=
  if id ∈ manager.updated then manager.entityUpdated id else manager

def onContainered (manager : StorageManager) (id : Nat) : StorageManager :=
  if id ∈ manager.containered then manager.entityUpdated id else manager

end StorageManager

variable (entity : LocatedEntity)

/-- The stored value, without the modifiers. -/
def storedValue (name : String) (entry : ModifiableProperty) (property : SoftProperty) : Element :=
  if entry.modifiers.isEmpty then entity.propertyValue name property else entry.baseValue

variable (wanted : SoftProperty → Bool)

/-- Name and value, if to be stored. -/
def propertyTuple (entity : LocatedEntity) (name : String)
    (entry : ModifiableProperty) : Option (String × Element) :=
  match entry.property with
  | none => none
  | some property =>
    if wanted property then some (name, storedValue entity name entry property) else none

/-- Those that are to be stored. -/
def propertyTuples (entity : LocatedEntity) : List (String × Element) :=
  entity.properties.toList.filterMap fun item => propertyTuple wanted entity item.1 item.2

/-- Entry of a property that has been stored. -/
def storedEntry (entry : ModifiableProperty) : ModifiableProperty :=
  { entry with
    property := entry.property.map fun property =>
      if wanted property then
        property.addFlags (propFlagPersistenceClean ||| propFlagPersistenceSeen)
      else property }

/-- Mark the properties that have been stored. -/
def markStored (entity : LocatedEntity) : LocatedEntity :=
  { entity with properties := entity.properties.map fun _ entry => storedEntry wanted entry }

variable (property : SoftProperty)

/-- All but ephemeral ones. -/
def isPersistent : Bool :=
  !property.hasFlags propFlagPersistenceEphem

/-- Those that have changed. -/
def isChanged : Bool :=
  !property.hasFlags propFlagPersistenceMask

/-- As far as known, without a row. -/
def isNew : Bool :=
  isChanged property && !property.hasFlags propFlagPersistenceSeen

/-- A property whose row has to be updated. -/
def isSeen : Bool :=
  isChanged property && property.hasFlags propFlagPersistenceSeen

/-- Nothing is scheduled for no properties. -/
def insertProperties (id : Nat) (tuples : List (String × Element)) : List Command :=
  if tuples.isEmpty then [] else [.insertProperties id tuples]

variable (id : Nat)

/-- Commands of `StorageManager::insertEntity`. -/
def insertCommands (entity : LocatedEntity) : List Command :=
  .insertEntity id entity.parent ((entity.type.map TypeNode.name).getD "") entity.seq ::
    insertProperties id (propertyTuples isPersistent entity)

/-- `updateEntity`; the base entity has no place. -/
def updateRow (entity : LocatedEntity) : Command :=
  match entity.parent with
  | some parent => .updateEntity id entity.seq parent
  | none => .updateEntityWithoutLoc id entity.seq

/-- Commands of `StorageManager::updateEntity`. -/
def updateCommands (entity : LocatedEntity) : List Command :=
  updateRow id entity ::
    (insertProperties id (propertyTuples isNew entity) ++
      (propertyTuples isSeen entity).map fun tuple => .updateProperty id tuple.1 tuple.2)

/-- An entity that has been inserted. -/
def insertedEntity : LocatedEntity :=
  ((markStored isPersistent entity).removeFlags entityQueued).addFlags entityClean

/-- An entity that has been updated. -/
def updatedEntity : LocatedEntity :=
  (markStored isChanged entity).addFlags entityCleanMask

namespace StorageManager

variable (manager : StorageManager)

def insertEntity (id : Nat) : StorageManager :=
  let entity := manager.entity id
  ((manager.schedule (insertCommands id entity)).setEntity id (insertedEntity entity)).connect id

def updateEntity (id : Nat) : StorageManager :=
  let entity := manager.entity id
  (manager.schedule (updateCommands id entity)).setEntity id (updatedEntity entity)

/-- The first of the destroyed goes. -/
def dropFront (id : Nat) : StorageManager :=
  { manager.schedule (Database.dropEntity id) with
    destroyedEntities := manager.destroyedEntities.tail }

/-- It is stored, unless destroyed. -/
def storeFront (id : Nat) : StorageManager :=
  let stored := if (manager.entity id).isDestroyed then manager else manager.insertEntity id
  { stored with unstoredEntities := manager.unstoredEntities.tail }

/-- The first is updated, unless it is clean. -/
def updateFront (id : Nat) : StorageManager :=
  let stored :=
    if (manager.entity id).flags.hasAll entityCleanMask then manager else manager.updateEntity id
  { stored.modify id (·.removeFlags entityQueued) with
    dirtyEntities := manager.dirtyEntities.tail }

/-- Some queries are completed. -/
def complete (queries : Nat) : StorageManager :=
  { manager with pendingQueries := manager.pendingQueries - queries }

/-- More pending ones stop updates. -/
def maxPendingQueries : Nat := 200

/-- The loop; queries are completed meanwhile. -/
def updateDirty (manager : StorageManager) : List Nat → List Nat → StorageManager
  | [], _ => manager
  | id :: rest, completed =>
    let checked := manager.complete (completed.headD 0)
    if maxPendingQueries < checked.pendingQueries then checked
    else (checked.updateFront id).updateDirty rest completed.tail

variable (completed : List Nat)

def tick : StorageManager :=
  let dropped := run dropFront manager manager.destroyedEntities
  let stored := run storeFront dropped dropped.unstoredEntities
  stored.updateDirty stored.dirtyEntities completed

/-- `StorageManager::shutdown`: one more tick. -/
def shutdown : StorageManager :=
  { manager.tick completed with pendingQueries := 0 }

end StorageManager

end Cyphesis.Server
