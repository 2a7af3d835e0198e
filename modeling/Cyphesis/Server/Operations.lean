import Cyphesis.Foundation.Forest
import Cyphesis.Server.StorageManager

/-!
# Operations on stored entities

What happens in the world between the ticks, as far as the storage manager is concerned.
-/

namespace Cyphesis.Server.StorageManager

open Cyphesis.Atlas
open Cyphesis.Common
open Cyphesis.Foundation
open Cyphesis.Rules

variable (manager : StorageManager) (id : Nat)

def parentOf : Option Nat :=
  (manager.entity id).parent

/-- `m_contains` of an entity. -/
def contains : Finset Nat :=
  manager.eobjects.filter fun child => manager.parentOf child = some id

theorem mem_contains {manager : StorageManager} {id child : Nat} :
    child ∈ manager.contains id ↔ child ∈ manager.eobjects ∧ manager.parentOf child = some id :=
  Finset.mem_filter

variable (container child : Nat)

def removeChild : StorageManager :=
  if (manager.contains container).erase child = ∅ then manager.onUpdated container else manager

def addChild : StorageManager :=
  let notified :=
    if manager.contains container = ∅ then manager.onUpdated container else manager
  notified.modify child fun entity => { entity with parent := some container }

def changeContainer (id newLoc : Nat) : StorageManager :=
  let removed :=
    match manager.parentOf id with
    | none => manager
    | some oldLoc => manager.removeChild oldLoc id
  ((removed.addChild newLoc id).modify id LocatedEntity.applyLocation).onContainered id

def addEntity (id loc : Nat) : StorageManager :=
  let registered := { manager with eobjects := insert id manager.eobjects }
  (registered.changeContainer id loc).entityInserted id

def newEntity (types : Inheritance) (id : Nat) (type : String)
    (attributes : List (String × Element)) (ephem : Bool) : LocatedEntity :=
  let created := (LocatedEntity.create id (types.node type)).merge attributes
  if ephem then created.addFlags entityEphem else created

/-- With any identifier. -/
def addNewEntity (type : String) (loc : Nat)
    (attributes : List (String × Element)) (ephem : Bool) : StorageManager :=
  if manager.idGenerator < id ∧ loc ∈ manager.eobjects then
    ({ manager with idGenerator := id }.setEntity id
      (newEntity manager.types id type attributes ephem)).addEntity id loc
  else manager

/-- With the notification at the end. -/
def updateProperties (manager : StorageManager) (id : Nat) : StorageManager :=
  let updated := manager.modify id LocatedEntity.updateProperties
  if (manager.entity id).hasChanges then updated.onUpdated id else updated

/-- The end of `Thing::moveOurselves`. -/
def finishMove : StorageManager :=
  (manager.modify id fun entity =>
    { entity.removeFlags entityClean with seq := entity.seq + 1 }).onUpdated id

/-- `Thing::moveOurselves`. -/
def moveOurselves (loc : Option Nat) : StorageManager :=
  match manager.parentOf id, loc with
  | some oldLoc, some newLoc =>
    if newLoc = oldLoc then manager.finishMove id
    else if newLoc ∉ manager.eobjects then manager
    else if meets manager.parentOf manager.eobjects.card newLoc id then manager
    else (manager.changeContainer id newLoc).finishMove id
  | some _, none => manager.finishMove id
  | none, _ => manager

/-- `LocatedEntity::destroy`, but for the flag. -/
def leaveContainer : StorageManager :=
  match manager.parentOf id with
  | none => manager
  | some loc =>
    (manager.removeChild loc id).modify id fun entity => { entity with parent := none }

/-- Of what the domain lets go. -/
def destroy (leaving : List Nat) : StorageManager :=
  let condemned := manager.modify id (·.addFlags entityDestroyed)
  let emptied :=
    run (fun current child => current.moveOurselves child (manager.parentOf id)) condemned
      (leaving.filter (· ∈ manager.contains id))
  emptied.leaveContainer id

def delEntity (leaving : List Nat) : StorageManager :=
  if id = baseId then manager
  else
    let notified := (manager.destroy id leaving).onUpdated id
    { notified with eobjects := notified.eobjects.erase id }

/-- What can happen to the server while it runs. -/
inductive Action where
  | insert (id : Nat) (type : String) (loc : Nat) (attributes : List (String × Element))
      (ephem : Bool)
  | set (id : Nat) (attributes : List (String × Element))
  | addModifier (id : Nat) (name : String) (modifier : ModifierRef) (affecting : Nat)
  | removeModifier (id : Nat) (name : String) (modifier : ModifierRef)
  | update (id : Nat)
  | notify (id : Nat)
  | move (id loc : Nat)
  | delete (id : Nat) (leaving : List Nat)
  | tick (completed : List Nat)

/-- Only registered ones are reached. -/
def ifRegistered (operation : StorageManager → StorageManager) : StorageManager :=
  if id ∈ manager.eobjects then operation manager else manager

def step : Action → StorageManager
  | .insert id type loc attributes ephem => manager.addNewEntity id type loc attributes ephem
  | .set id attributes => manager.ifRegistered id (·.modify id (·.setOperation attributes))
  | .addModifier id name modifier affecting =>
    manager.ifRegistered id (·.modify id (·.addModifier name modifier affecting))
  | .removeModifier id name modifier =>
    manager.ifRegistered id (·.modify id (·.removeModifier name modifier))
  | .update id => manager.ifRegistered id (·.updateProperties id)
  | .notify id => manager.ifRegistered id (·.onUpdated id)
  | .move id loc => manager.ifRegistered id (·.moveOurselves id (some loc))
  | .delete id leaving => manager.ifRegistered id (·.delEntity id leaving)
  | .tick completed => manager.tick completed

end Cyphesis.Server.StorageManager
