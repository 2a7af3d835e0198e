import Cyphesis.Navigation.Awareness

/-!
# Navigation data

The layers rasterised for each tile. What the geometry libraries compute is a parameter.
-/

namespace Cyphesis.Navigation

open Cyphesis.Foundation
open Function

structure TimestampedProperty (Value : Type) where
  data : Option Value
  timestamp : Int

structure EntityEntry (Value : Type) where
  entityId : Nat
  numberOfObservers : Int
  pos : TimestampedProperty Value
  velocity : TimestampedProperty Value
  orientation : TimestampedProperty Value
  angular : TimestampedProperty Value
  bbox : TimestampedProperty Value
  scale : TimestampedProperty Value
  scaledBbox : Option Value
  isActorOwned : Bool
  isMoving : Bool
  isIgnored : Bool
  isSolid : Bool

/-- An entity in memory, with its properties. -/
structure MemEntity (Value : Type) where
  entityId : Nat
  parent : Option Nat
  lastUpdated : Int
  position : Option (Option Value)
  velocity : Option (Option Value)
  orientation : Option (Option Value)
  angular : Option (Option Value)
  bbox : Option (Option Value)
  scale : Option (Option Value)
  solid : Option Bool

/-- Which attributes an update has. -/
structure UpdateAttributes where
  pos : Bool
  velocity : Bool
  orientation : Bool
  angular : Bool
  bbox : Bool
  scale : Bool

/-- Areas have boxes, and tiles layers. -/
structure Geometry (Value Area Layer : Type) where
  isZero : Value → Bool
  scaledBbox : Value → Value → Option Value
  buildEntityAreas : EntityEntry Value → Option Area
  /-- One of the corners has moved far enough. -/
  isLargeEnoughChange : Area → Area → Bool
  /-- `findAffectedTiles`: least and greatest. -/
  affectedTiles : Area → Int × Int × Int × Int
  /-- `findEntityAreas`: the area is inside the tile, meets it, or touches its edge. -/
  overlaps : Tile → Area → Bool
  /-- The layers of a tile, made from the areas that overlap it. -/
  rasterizeTileLayers : Tile → (Nat → Option Area) → List Layer
  layers_ne_nil : ∀ tile areas, rasterizeTileLayers tile areas ≠ []

structure NavigationData (Value Area Layer : Type) where
  awareness : Awareness
  /-- The keys of `mAwareAreas`. -/
  areaIds : List String
  /-- `mObservedEntities` -/
  observedEntities : Nat → Option (EntityEntry Value)
  /-- `mEntityAreas` -/
  entityAreas : Nat → Option Area
  /-- `mTileCache`, by tile and layer. -/
  tileCache : Tile → Nat → Option Layer
  /-- The most recent tile is first. -/
  activeTileList : List Tile
  desiredTilesAmount : Nat

/-- The calls that an `Awareness` receives. -/
inductive NavigationEvent (Value : Type) where
  | addEntity (observer : Nat) (entity : MemEntity Value) (isDynamic : Bool)
  | updateEntity (observer : Nat) (entity : MemEntity Value) (ent : UpdateAttributes)
  | removeEntity (observer entity : Nat)
  | setAwarenessArea (areaId : String) (area : AwarenessArea)
  | removeAwarenessArea (areaId : String)
  | rebuildDirtyTile
  | pruneTiles
  | setDesiredTilesAmount (amount : Nat)

section Properties

variable {Value : Type}

/-- A property that is newer is taken over. -/
def TimestampedProperty.update (property : TimestampedProperty Value) (isChanged : Bool)
    (timestamp : Int) (found : Option (Option Value)) : TimestampedProperty Value × Bool :=
  match found with
  | some data =>
    if isChanged ∧ timestamp > property.timestamp then
      ({ data := data, timestamp := timestamp }, true)
    else (property, false)
  | none => (property, false)

/-- What an update reads: is the position or the box a new one? -/
def EntityEntry.readProperties (scaledBbox : Value → Value → Option Value)
    (entry : EntityEntry Value) (entity : MemEntity Value) (ent : Option UpdateAttributes)
    (timestamp : Int) : EntityEntry Value × Bool × Bool :=
  let changed (flag : UpdateAttributes → Bool) : Bool := (ent.map flag).getD true
  let pos := entry.pos.update (changed UpdateAttributes.pos) timestamp entity.position
  let velocity := entry.velocity.update (changed UpdateAttributes.velocity) timestamp
    entity.velocity
  let orientation := entry.orientation.update (changed UpdateAttributes.orientation) timestamp
    entity.orientation
  let angular := entry.angular.update (changed UpdateAttributes.angular) timestamp entity.angular
  let bbox := entry.bbox.update (changed UpdateAttributes.bbox) timestamp entity.bbox
  let scale := entry.scale.update (changed UpdateAttributes.scale) timestamp entity.scale
  let hasNewBbox := bbox.2 || scale.2
  ({ entry with
      pos := pos.1
      velocity := velocity.1
      orientation := orientation.1
      angular := angular.1
      bbox := bbox.1
      scale := scale.1
      scaledBbox :=
        if hasNewBbox then
          match bbox.1.data, scale.1.data with
          | some box, some factor => scaledBbox box factor
          | some box, none => some box
          | none, _ => entry.scaledBbox
        else entry.scaledBbox },
    pos.2 || orientation.2, hasNewBbox)

end Properties

namespace NavigationData

variable {Value Area Layer : Type}

def initial (desiredTilesAmount : Nat) : NavigationData Value Area Layer :=
  { awareness := .initial
    areaIds := []
    observedEntities := fun _ => none
    entityAreas := fun _ => none
    tileCache := fun _ _ => none
    activeTileList := []
    desiredTilesAmount := desiredTilesAmount }

variable (data : NavigationData Value Area Layer)

/-- `mAwareTiles.size()` -/
def awareTilesSize : Nat :=
  ((data.areaIds.flatMap fun areaId => (data.awareness.awareAreas areaId).getD []).dedup.filter
    fun tile => (data.awareness.awareTiles tile).isSome).length

variable (geometry : Geometry Value Area Layer)

/-- `findEntityAreas` of a tile. -/
def findEntityAreas (data : NavigationData Value Area Layer) (tile : Tile) : Nat → Option Area :=
  fun entity => (data.entityAreas entity).filter (geometry.overlaps tile)

/-- `markTilesAsDirty` of its box. -/
def markTilesAsDirty (geometry : Geometry Value Area Layer)
    (data : NavigationData Value Area Layer) (area : Area) : NavigationData Value Area Layer :=
  let affected := geometry.affectedTiles area
  { data with
    awareness := data.awareness.markTilesAsDirty affected.1 affected.2.1 affected.2.2.1
      affected.2.2.2 }

/-- Mark its tiles, and remove it. -/
def eraseEntityArea (data : NavigationData Value Area Layer)
    (entity : Nat) : NavigationData Value Area Layer :=
  match data.entityAreas entity with
  | none => data
  | some existing =>
    let marked := data.markTilesAsDirty geometry existing
    { marked with entityAreas := update marked.entityAreas entity none }

/-- Register the area unless the change is minor. -/
def setEntityArea (data : NavigationData Value Area Layer)
    (entity : Nat) (area : Area) : NavigationData Value Area Layer :=
  match data.entityAreas entity with
  | none =>
    let marked := data.markTilesAsDirty geometry area
    { marked with entityAreas := update marked.entityAreas entity (some area) }
  | some existing =>
    if geometry.isLargeEnoughChange existing area then
      let marked := (data.markTilesAsDirty geometry area).markTilesAsDirty geometry existing
      { marked with entityAreas := update marked.entityAreas entity (some area) }
    else data

def setEntry (entry : EntityEntry Value) :
    NavigationData Value Area Layer :=
  { data with
    observedEntities := update data.observedEntities entry.entityId (some entry) }

/-- `processEntityUpdate` for an entry that was found before. -/
def processEntityUpdate
    (data : NavigationData Value Area Layer) (entry : EntityEntry Value)
    (entity : MemEntity Value) (ent : Option UpdateAttributes) (timestamp : Int) :
    NavigationData Value Area Layer :=
  let (read, hasNewPosition, hasNewBbox) :=
    entry.readProperties geometry.scaledBbox entity ent timestamp
  if read.isMoving then data.setEntry read
  else
    let isIgnored := if read.isIgnored ∧ hasNewBbox then read.scaledBbox.isNone else read.isIgnored
    let seen := { read with isIgnored := isIgnored }
    if isIgnored then data.setEntry seen
    else if read.bbox.data.isNone then
      (data.eraseEntityArea geometry read.entityId).setEntry { seen with isIgnored := true }
    else if hasNewPosition || hasNewBbox then
      if (read.velocity.data.map fun velocity => !geometry.isZero velocity).getD false then
        (data.eraseEntityArea geometry read.entityId).setEntry { seen with isMoving := true }
      else
        match geometry.buildEntityAreas seen with
        | none => data.setEntry seen
        | some area => (data.setEntityArea geometry read.entityId area).setEntry seen
    else data.setEntry seen

/-- An entity is seen first. -/
def newEntry (entity : MemEntity Value) (isDynamic : Bool) : EntityEntry Value :=
  let unset : TimestampedProperty Value := { data := none, timestamp := -1 }
  { entityId := entity.entityId
    numberOfObservers := 1
    pos := unset
    velocity := unset
    orientation := unset
    angular := unset
    bbox := unset
    scale := unset
    scaledBbox := none
    isActorOwned := false
    isMoving := isDynamic
    isIgnored := (entity.bbox.getD none).isNone
    isSolid := entity.solid.getD true }

def addEntity (data : NavigationData Value Area Layer)
    (observer : Nat) (entity : MemEntity Value) (isDynamic : Bool) :
    NavigationData Value Area Layer :=
  let found := match data.observedEntities entity.entityId with
    | none => newEntry entity isDynamic
    | some entry => { entry with numberOfObservers := entry.numberOfObservers + 1 }
  let isOwnEntity : Bool := entity.entityId = observer
  let entry := if isOwnEntity then { found with isActorOwned := true } else found
  let isNotActorAndFirstSeen : Bool := !entry.isActorOwned ∧ entry.numberOfObservers = 1
  if isNotActorAndFirstSeen || isOwnEntity then
    data.processEntityUpdate geometry entry entity none entity.lastUpdated
  else data.setEntry entry

def removeEntity (data : NavigationData Value Area Layer)
    (observer entity : Nat) : NavigationData Value Area Layer :=
  match data.observedEntities entity with
  | none => data
  | some entry =>
    let seen := { entry with numberOfObservers := entry.numberOfObservers - 1 }
    if seen.numberOfObservers = 0 then
      let erased := data.eraseEntityArea geometry entity
      { erased with observedEntities := update erased.observedEntities entity none }
    else data.setEntry (if observer = entity then { seen with isActorOwned := false } else seen)

def updateEntity (data : NavigationData Value Area Layer)
    (domainEntityId observer : Nat) (entity : MemEntity Value) (ent : UpdateAttributes) :
    NavigationData Value Area Layer :=
  match data.observedEntities entity.entityId with
  | some entry =>
    if entity.parent ≠ some domainEntityId then
      data.removeEntity geometry observer entity.entityId
    else data.processEntityUpdate geometry entry entity (some ent) entity.lastUpdated
  | none =>
    if entity.parent = some domainEntityId then data.addEntity geometry observer entity true
    else data

/-- `MRUList::insert` -/
def touchTile (activeTileList : List Tile) (tile : Tile) : List Tile :=
  tile :: activeTileList.filter (· ≠ tile)

/-- An area as the tile cache has it. -/
def cachedArea (area : AwarenessArea) : AwarenessArea :=
  { area with cached := fun tile => (data.tileCache tile 0).isSome }

def setAwarenessArea (data : NavigationData Value Area Layer) (areaId : String)
    (area : AwarenessArea) : NavigationData Value Area Layer :=
  { data with
    awareness := data.awareness.setAwarenessArea areaId (data.cachedArea area)
    areaIds := data.areaIds.insert areaId
    activeTileList := area.tiles.foldl touchTile data.activeTileList }

def removeAwarenessArea (data : NavigationData Value Area Layer) (areaId : String) :
    NavigationData Value Area Layer :=
  { data with awareness := data.awareness.removeAwarenessArea areaId }

/-- Layers are replaced by index. -/
def rebuildTile (data : NavigationData Value Area Layer)
    (tile : Tile) (entityAreas : Nat → Option Area) : NavigationData Value Area Layer :=
  let layers := geometry.rasterizeTileLayers tile entityAreas
  { data with
    tileCache := update data.tileCache tile fun index =>
      layers[index]?.or (data.tileCache tile index) }

def rebuildDirtyTile (geometry : Geometry Value Area Layer)
    (data : NavigationData Value Area Layer) : NavigationData Value Area Layer :=
  if data.awareness.dirtyAwareTiles = [] then data
  else
    match data.awareness.dirtyAwareOrderedTiles with
    | [] => { data with awareness := data.awareness.rebuildDirtyTile }
    | tile :: _ =>
      let rebuilt := data.rebuildTile geometry tile (data.findEntityAreas geometry tile)
      { rebuilt with awareness := data.awareness.rebuildDirtyTile }

/-- Tile that `pruneTiles` removes. -/
def prunedTile : Option Tile :=
  if data.activeTileList.length > data.awareTilesSize ∧
      data.activeTileList.length > data.desiredTilesAmount then
    data.activeTileList.getLast?
  else none

def pruneTiles : NavigationData Value Area Layer :=
  match data.prunedTile with
  | none => data
  | some tile =>
    { data with
      activeTileList := data.activeTileList.dropLast
      tileCache := update data.tileCache tile fun _ => none }

def step (domainEntityId : Nat)
    (data : NavigationData Value Area Layer) :
    NavigationEvent Value → NavigationData Value Area Layer
  | .addEntity observer entity isDynamic => data.addEntity geometry observer entity isDynamic
  | .updateEntity observer entity ent =>
    data.updateEntity geometry domainEntityId observer entity ent
  | .removeEntity observer entity => data.removeEntity geometry observer entity
  | .setAwarenessArea areaId area => data.setAwarenessArea areaId area
  | .removeAwarenessArea areaId => data.removeAwarenessArea areaId
  | .rebuildDirtyTile => data.rebuildDirtyTile geometry
  | .pruneTiles => data.pruneTiles
  | .setDesiredTilesAmount amount => { data with desiredTilesAmount := amount }

end NavigationData

end Cyphesis.Navigation
