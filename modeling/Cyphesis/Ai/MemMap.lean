import Cyphesis.Foundation.Forest
import Cyphesis.Server.Sessions

/-!
# The memory of a mind

What a mind knows of the entities around it. One whose type is not known waits for it under the
type's name. References to entities are numbers, which outlive the entry in `m_entities`. A failed
assertion ends the run.
-/

namespace Cyphesis.Ai

open Cyphesis.Foundation
open Cyphesis.Server (integerId)

structure MemEntity where
  id : Int
  parent : Option Nat
  contains : List Nat
  type : Option String
  isVisible : Bool
  lastSeen : Rat

/-- Calls of the listener. -/
inductive MapCall where
  | entityAdded (entity : Nat)
  | entityUpdated (entity : Nat)
  | entityDeleted (entity : Nat)

/-- What is read of a message about an entity. -/
structure EntityMessage where
  id : Option String
  loc : Option String
  parent : Option String
  contains : List String

structure MemMap where
  objects : Nat → MemEntity
  nextObject : Nat
  entities : List (Int × Nat)
  checkIterator : Option Int
  unresolvedEntities : List (String × List Nat)
  types : List String
  calls : List MapCall
  crashed : Bool

namespace MemMap

variable (map : MemMap) (ref : Nat)

def parentOf : Option Nat :=
  (map.objects ref).parent

def containsOf : List Nat :=
  (map.objects ref).contains

variable (id : Int)

/-- `m_entities.find`. -/
def find : Option Nat :=
  map.entities.lookup id

def getId : String :=
  toString (map.objects ref).id

/-- Change one entity. -/
def modify (change : MemEntity → MemEntity) : MemMap :=
  { map with objects := Function.update map.objects ref (change (map.objects ref)) }

variable (entities : List (Int × Nat))

/-- Next key in order. -/
def nextKey (key : Int) : Option Int :=
  ((entities.map Prod.fst).filter (key < ·)).min?

def firstKey : Option Int :=
  (entities.map Prod.fst).min?

/-- The iterator found again by its key. -/
def refind (iterator : Option Int) : Option Int :=
  iterator.filter fun key => (entities.lookup key).isSome

def addEntity : MemMap :=
  let id := (map.objects ref).id
  let entities := (id, ref) :: map.entities.filter (·.1 ≠ id)
  { map with entities := entities, checkIterator := refind entities map.checkIterator }

/-- A new entity, not in `m_entities` yet. -/
def allocate : MemMap :=
  { map with
    objects := Function.update map.objects map.nextObject ⟨id, none, [], none, false, 0⟩
    nextObject := map.nextObject + 1 }

def addId : MemMap :=
  (map.allocate id).addEntity map.nextObject

def getAdd (id : String) : MemMap × Option Nat :=
  if id = "" then (map, none)
  else if integerId id = -1 then (map, none)
  else
    match map.find (integerId id) with
    | some ref => (map, some ref)
    | none => (map.addId (integerId id), some map.nextObject)

def addContents (contlist : List String) : MemMap :=
  contlist.foldl (fun current child => (current.getAdd child).1) map

/-- Move an entity into another. -/
def hang (ref above : Nat) : MemMap :=
  let moved := map.modify ref fun entity => { entity with parent := some above }
  let left :=
    match map.parentOf ref with
    | none => moved
    | some old =>
      moved.modify old fun entity => { entity with contains := entity.contains.filter (· ≠ ref) }
  left.modify above fun entity => { entity with contains := entity.contains.insert ref }

/-- Only the entity itself is refused. -/
def readLoc (loc : String) : MemMap :=
  if loc = map.getId ref then map
  else if (map.parentOf ref).any (fun old => loc = map.getId old) then map
  else
    match map.getAdd loc with
    | (_, none) => { map with crashed := true }
    | (added, some above) => added.hang ref above

variable (name : String)

/-- Entities that wait for a type. -/
def waiting : List Nat :=
  (map.unresolvedEntities.lookup name).getD []

/-- An entity gets a type; the listener hears. -/
def giveType : MemMap :=
  let typed := map.modify ref fun entity => { entity with type := some name }
  { typed with calls := typed.calls ++ [.entityAdded ref] }

/-- Type of a message. -/
def readType (parent : String) : MemMap :=
  match (map.objects ref).type with
  | some _ => map
  | none =>
    if parent ∈ map.types then map.giveType ref parent
    else
      { map with
        unresolvedEntities := (parent, (map.waiting parent).insert ref) ::
          map.unresolvedEntities.filter (·.1 ≠ parent) }

variable (ent : EntityMessage)

def readEntity : MemMap :=
  let located := ent.loc.elim map (map.readLoc ref)
  if located.crashed then located
  else (ent.parent.elim located (located.readType ref)).addContents ent.contains

def updateEntity : MemMap :=
  let read := map.readEntity ref ent
  if read.crashed = false ∧ (read.objects ref).type.isSome then
    { read with calls := read.calls ++ [.entityUpdated ref] }
  else read

/-- `MemMap::newEntity`: an entity is allocated, read from the message and put in. -/
def newEntity : MemMap :=
  let read := (map.allocate id).readEntity map.nextObject ent
  if read.crashed then read else read.addEntity map.nextObject

variable (time : Rat)

/-- `MemEntity::update`. -/
def seen : MemMap :=
  map.modify ref fun entity =>
    { entity with lastSeen := if entity.lastSeen ≤ time then time else entity.lastSeen }

def updateAdd : MemMap :=
  match ent.id with
  | none => map
  | some id =>
    if id = "" then map
    else if integerId id = -1 then map
    else
      match map.find (integerId id) with
      | none => (map.newEntity (integerId id) ent).seen map.nextObject time
      | some ref => (map.updateEntity ref ent).seen ref time

/-- The parent in `LocatedEntity::destroy`. -/
def unlink : MemMap :=
  match map.parentOf ref with
  | none => map
  | some above =>
    (map.modify above fun entity =>
      { entity with contains := entity.contains.filter (· ≠ ref) }).modify ref fun entity =>
        { entity with parent := none }

/-- `MemEntity::destroy`, to a depth. -/
def destroy : Nat → MemMap → Nat → MemMap
  | 0, map, _ => map
  | depth + 1, map, ref =>
    ((map.unlink ref).containsOf ref).foldl (destroy depth) (map.unlink ref)

/-- `MemMap::del`, also of those that wait. -/
def del (id : String) : MemMap :=
  let resolved :=
    { map with unresolvedEntities := map.unresolvedEntities.filter (·.1 ≠ id) }
  match resolved.find (integerId id) with
  | none => resolved
  | some ref =>
    let entities := resolved.entities.filter (·.1 ≠ integerId id)
    let erased :=
      { resolved with
        entities := entities
        checkIterator :=
          if resolved.checkIterator.isSome then refind entities resolved.checkIterator
          else firstKey entities
        calls :=
          if (resolved.objects ref).type.isSome then resolved.calls ++ [.entityDeleted ref]
          else resolved.calls }
    destroy (map.nextObject + 2) erased ref

/-- An entity that has not been seen for long. -/
def isExpired : Bool :=
  (map.objects ref).type.isSome ∧ (map.objects ref).isVisible = false ∧
    600 < time - (map.objects ref).lastSeen ∧ (map.objects ref).contains = []

def check : MemMap :=
  match map.checkIterator with
  | none => { map with checkIterator := firstKey map.entities }
  | some key =>
    match map.find key with
    | none => map
    | some ref =>
      let next := { map with checkIterator := nextKey map.entities key }
      if map.isExpired ref time then
        { next with entities := map.entities.filter (·.1 ≠ key) }.unlink ref
      else next

/-- `MemMap::flush`; the iterator is lost. -/
def flush : MemMap :=
  { map with entities := [] }

/-- A type comes for those that wait. -/
def resolveEntitiesForType : MemMap :=
  let known := { map with types := map.types.insert name }
  let resolved := (map.waiting name).foldl (fun current ref => current.giveType ref name) known
  { resolved with
    unresolvedEntities := resolved.unresolvedEntities.filter (·.1 ≠ name) }

/-- A type becomes known, and those that wait for it are not told. -/
def learn : MemMap :=
  { map with types := map.types.insert name }

/-- What can happen to the memory of a mind. -/
inductive MemEvent where
  | update (ent : EntityMessage) (time : Rat)
  | getAdd (id : String)
  | setVisible (id : String) (isVisible : Bool)
  | del (id : String)
  | check (time : Rat)
  | resolve (name : String)
  /-- Another mind of the client puts a type into the `TypeStore` that they share. -/
  | learn (name : String)
  | flush

/-- Nothing happens after a failed assertion. -/
def step (event : MemEvent) : MemMap :=
  if map.crashed then map
  else
    match event with
    | .update ent time => map.updateAdd ent time
    | .getAdd id => (map.getAdd id).1
    | .setVisible id isVisible =>
      match map.find (integerId id) with
      | none => map
      | some ref => map.modify ref fun entity => { entity with isVisible := isVisible }
    | .del id => map.del id
    | .check time => map.check time
    | .resolve name => map.resolveEntitiesForType name
    | .learn name => map.learn name
    | .flush => map.flush

def start (types : List String) : MemMap :=
  ⟨fun _ => ⟨0, none, [], none, false, 0⟩, 0, [], none, [], types, [], false⟩

end MemMap

end Cyphesis.Ai
