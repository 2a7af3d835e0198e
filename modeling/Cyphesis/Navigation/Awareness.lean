import Cyphesis.Foundation.Run
import Cyphesis.Foundation.Keyed
import Mathlib.Algebra.Group.Nat.Defs

/-!
# Awareness areas

An `Awareness` counts the areas that contain each tile of the mesh, and keeps the tiles to rebuild.
Which tiles an area covers, and what the tile cache holds, comes with the call. The active tiles,
which only serve for pruning, are left out.
-/

namespace Cyphesis.Navigation

open Cyphesis.Foundation
open Function

abbrev Tile := Int × Int

/-- Tiles in the order of the loops. -/
def tilesBetween (minX maxX minZ maxZ : Int) : List Tile :=
  (List.range (maxX - minX + 1).toNat).flatMap fun x : Nat =>
    (List.range (maxZ - minZ + 1).toNat).map fun z : Nat => (minX + x, minZ + z)

/-- An awareness area, with the tiles that `setAwarenessArea` finds for it. -/
structure AwarenessArea where
  tileMinX : Int
  tileMaxX : Int
  tileMinZ : Int
  tileMaxZ : Int
  /-- The area meets the tile. -/
  meets : Tile → Bool
  /-- The valid focus line meets it. -/
  focused : Tile → Bool
  /-- The tile is in the cache. -/
  cached : Tile → Bool

def AwarenessArea.tiles (area : AwarenessArea) : List Tile :=
  (tilesBetween area.tileMinX area.tileMaxX area.tileMinZ area.tileMaxZ).filter area.meets

/-- The lists of tiles that `Awareness` keeps for its areas. -/
structure Awareness where
  /-- `mAwareTiles` -/
  awareTiles : Tile → Option Nat
  /-- `mDirtyUnwareTiles` -/
  dirtyUnwareTiles : List Tile
  /-- `mDirtyAwareTiles` -/
  dirtyAwareTiles : List Tile
  /-- `mDirtyAwareOrderedTiles` -/
  dirtyAwareOrderedTiles : List Tile
  /-- `mAwareAreas` -/
  awareAreas : String → Option (List Tile)
  /-- How often `EventTileDirty` was emitted. -/
  tileDirtyEvents : Nat
  /-- An iterator was used that refers to nothing. -/
  faulted : Bool

/-- The calls that change the lists of tiles. -/
inductive AwarenessEvent where
  | setAwarenessArea (areaId : String) (area : AwarenessArea)
  | removeAwarenessArea (areaId : String)
  | markTilesAsDirty (tileMinX tileMaxX tileMinY tileMaxY : Int)
  | rebuildDirtyTile

namespace Awareness

def initial : Awareness :=
  { awareTiles := fun _ => none, dirtyUnwareTiles := [], dirtyAwareTiles := [],
    dirtyAwareOrderedTiles := [], awareAreas := fun _ => none, tileDirtyEvents := 0,
    faulted := false }

/-- Number of values of an `unsigned int`. -/
def countLimit : Nat := 2 ^ 32

/-- `++` of an `unsigned int`. -/
def increment (count : Nat) : Nat :=
  if count + 1 = countLimit then 0 else count + 1

/-- `--` of an `unsigned int`. -/
def decrement (count : Nat) : Nat :=
  if count = 0 then countLimit - 1 else count - 1

/-- `EventTileDirty`, if none was dirty. -/
def announce (before after : Awareness) : Awareness :=
  if before.dirtyAwareTiles = [] ∧ after.dirtyAwareTiles ≠ [] then
    { after with tileDirtyEvents := after.tileDirtyEvents + 1 }
  else after

variable (awareness : Awareness) (tile : Tile)

/-- `mDirtyAwareTiles.insert(tile)`, with the list. -/
def insertDirty (front : Bool) : Awareness :=
  if tile ∈ awareness.dirtyAwareTiles then awareness
  else
    { awareness with
      dirtyAwareTiles := tile :: awareness.dirtyAwareTiles
      dirtyAwareOrderedTiles :=
        if front then tile :: awareness.dirtyAwareOrderedTiles
        else awareness.dirtyAwareOrderedTiles ++ [tile] }

variable (area : AwarenessArea)

/-- Is a tile dirty already or not built yet? -/
def needsBuilding (tile : Tile) : Bool :=
  tile ∈ awareness.dirtyAwareTiles || tile ∈ awareness.dirtyUnwareTiles || !area.cached tile

/-- One turn of the loop of `setAwarenessArea`. -/
def coverTile (current : Awareness × List Tile) (tile : Tile) : Awareness × List Tile :=
  let dirtied := if current.1.needsBuilding area tile then
      current.1.insertDirty tile (area.focused tile)
    else current.1
  let aware := { dirtied with
    dirtyUnwareTiles := dirtied.dirtyUnwareTiles.filter (· ≠ tile) }
  if tile ∈ current.2 then (aware, current.2.filter (· ≠ tile))
  else
    ({ aware with
        awareTiles := update aware.awareTiles tile
          (some (increment ((aware.awareTiles tile).getD 0))) }, current.2)

/-- New count of a tile that an area covers. -/
def coveredCount (rest : List Tile) (tile : Tile) : Nat :=
  if tile ∈ rest then (awareness.awareTiles tile).getD 0
  else increment ((awareness.awareTiles tile).getD 0)

/-- A tile that no area contains any more. -/
def releaseTile : Awareness :=
  let released := { awareness with awareTiles := update awareness.awareTiles tile none }
  if tile ∈ awareness.dirtyAwareTiles then
    { released with
      dirtyAwareTiles := released.dirtyAwareTiles.filter (· ≠ tile)
      dirtyAwareOrderedTiles := released.dirtyAwareOrderedTiles.filter (· ≠ tile)
      dirtyUnwareTiles := released.dirtyUnwareTiles.insert tile }
  else released

/-- One turn of the loop of `returnAwareTiles`. -/
def returnTile : Awareness :=
  match awareness.awareTiles tile with
  | none => { awareness with faulted := true }
  | some count =>
    if decrement count = 0 then awareness.releaseTile tile
    else
      { awareness with
        awareTiles := update awareness.awareTiles tile (some (decrement count)) }

def returnAwareTiles (tileset : List Tile) : Awareness :=
  tileset.foldl returnTile awareness

def setAwarenessArea (areaId : String) (area : AwarenessArea) :
    Awareness :=
  let covered := area.tiles.foldl (coverTile area)
    (awareness, (awareness.awareAreas areaId).getD [])
  let returned := covered.1.returnAwareTiles covered.2
  announce awareness { returned with
    awareAreas := update returned.awareAreas areaId (some area.tiles) }

def removeAwarenessArea (areaId : String) : Awareness :=
  match awareness.awareAreas areaId with
  | none => awareness
  | some tiles => awareness.returnAwareTiles tiles

/-- One turn of the loop of `markTilesAsDirty`. -/
def markTile : Awareness :=
  if (awareness.awareTiles tile).isSome then awareness.insertDirty tile false
  else { awareness with dirtyUnwareTiles := awareness.dirtyUnwareTiles.insert tile }

def markTilesAsDirty (tileMinX tileMaxX tileMinY tileMaxY : Int) :
    Awareness :=
  announce awareness ((tilesBetween tileMinX tileMaxX tileMinY tileMaxY).foldl markTile awareness)

def rebuildDirtyTile : Awareness :=
  if awareness.dirtyAwareTiles = [] then awareness
  else
    match awareness.dirtyAwareOrderedTiles with
    | [] => { awareness with faulted := true }
    | tile :: rest =>
      { awareness with
        dirtyAwareTiles := awareness.dirtyAwareTiles.filter (· ≠ tile)
        dirtyAwareOrderedTiles := rest }

def step : AwarenessEvent → Awareness
  | .setAwarenessArea areaId area => awareness.setAwarenessArea areaId area
  | .removeAwarenessArea areaId => awareness.removeAwarenessArea areaId
  | .markTilesAsDirty minX maxX minY maxY => awareness.markTilesAsDirty minX maxX minY maxY
  | .rebuildDirtyTile => awareness.rebuildDirtyTile

end Awareness

/-- The areas set, with their tiles. -/
abbrev AwareAreas := List (String × List Tile)

namespace AwareAreas

def step (areas : AwareAreas) : AwarenessEvent → AwareAreas
  | .setAwarenessArea areaId area => (areaId, area.tiles) :: areas.filter (·.1 ≠ areaId)
  | .removeAwarenessArea areaId => areas.filter (·.1 ≠ areaId)
  | .markTilesAsDirty .. => areas
  | .rebuildDirtyTile => areas

/-- Number of areas that contain a tile. -/
def count (areas : AwareAreas) (tile : Tile) : Nat :=
  areas.countP fun area => tile ∈ area.2

end AwareAreas

/-- An awareness beside the areas set. -/
abbrev Observed := Awareness × AwareAreas

namespace Observed

def step (observed : Observed) (event : AwarenessEvent) : Observed :=
  (observed.1.step event, observed.2.step event)

def initial : Observed :=
  (.initial, [])

end Observed

end Cyphesis.Navigation
