import Cyphesis.Server.Operations

/-!
# Restoring the world

A server that starts creates an entity for every row, and then gives the properties back to all of
them. The domains only act on properties of other classes than the ones modelled.
-/

namespace Cyphesis.Server

open Cyphesis.Atlas
open Cyphesis.Common
open Cyphesis.Foundation
open Cyphesis.Rules

/-- Rows below, with a bound. -/
def rowsBelow (database : Database) : Nat → Nat → List EntityRow
  | 0, _ => []
  | bound + 1, parent =>
    (database.selectEntities parent).flatMap fun row => row :: rowsBelow database bound row.id

variable (entity : LocatedEntity) (row : PropertyRow)

/-- Before the value is set. -/
def propertyForRestore : LocatedEntity × SoftProperty :=
  match entity.properties[row.name]?.bind ModifiableProperty.property with
  | some property => (entity, property)
  | none =>
    match entity.typeDefault row.name with
    | some default =>
      let copied := if row.value.isNone then default else default.set row.value
      (entity.removeFlags entityClean, (copied.removeFlags propFlagClass).addFlags propFlagUnsent)
    | none => (entity, addProperty row.name)

/-- Unless the value is there. -/
def restoreProperty : LocatedEntity :=
  if row.name = "" then entity
  else if (entity.attr row.name).any (· == row.value) then entity
  else
    let found := propertyForRestore entity row
    let entry := entity.properties[row.name]?.getD .empty
    let property := (found.2.set row.value).addFlags
      (propFlagPersistenceClean ||| propFlagPersistenceSeen)
    { found.1 with
      properties := entity.properties.insert row.name { entry with property := some property } }

namespace StorageManager

variable (manager : StorageManager)

/-- Step of `restoreChildren`. -/
def restoreChild (row : EntityRow) : StorageManager :=
  match row.loc with
  | none => manager
  | some loc =>
    let child := LocatedEntity.create row.id (manager.types.node row.type)
    (manager.setEntity row.id (child.addFlags entityClean)).addEntity row.id loc

/-- `restorePropertiesRecursively`, for one entity. -/
def restoreProperties (id : Nat) : StorageManager :=
  manager.modify id fun entity =>
    (manager.database.selectProperties id).foldl restoreProperty entity

def initWorld : StorageManager :=
  { manager.modify baseId (·.addFlags entityClean) with updated := insert baseId manager.updated }

/-- `StorageManager::restoreWorld` -/
def restoreWorld : StorageManager :=
  let rows := rowsBelow manager.database manager.database.entities.length baseId
  run restoreProperties (run restoreChild manager rows) (baseId :: rows.map EntityRow.id)

/-- Given the largest account. -/
def registerEntityIdGenerator (database : Database) (accounts : Nat) : Nat :=
  (database.entities.map EntityRow.id).foldl max accounts

/-- Only the base entity is there. -/
def create (types : Inheritance) (accounts : Nat) (commands : List Command) : StorageManager where
  types := types
  entity := fun id => LocatedEntity.create id (types.node "world")
  eobjects := {baseId}
  updated := ∅
  containered := ∅
  unstoredEntities := []
  dirtyEntities := []
  destroyedEntities := []
  pendingQueries := 0
  idGenerator := registerEntityIdGenerator (run Database.exec Database.initial commands) accounts
  commands := commands

/-- Start on what tables have left. -/
def start (types : Inheritance) (accounts : Nat) (commands : List Command) : StorageManager :=
  (create types accounts commands).restoreWorld.initWorld

/-- Actions, and restarts of the server. -/
inductive Event where
  | action (action : Action)
  | restart (types : Inheritance) (accounts : Nat)

def handle : Event → StorageManager
  | .action action => manager.step action
  | .restart types accounts => start types accounts manager.commands

end StorageManager

end Cyphesis.Server
