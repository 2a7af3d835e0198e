import Cyphesis.Foundation.SwapRemove
import Cyphesis.Simulation.ModeData

/-!
# Work lists of the physical domain

The entries that move, and those whose visibility is to be calculated; each tick takes a few. What
Bullet reports is left open.
-/

namespace Cyphesis.Simulation

open Cyphesis.Foundation

/-- The part of `BulletEntry` the work lists use. -/
structure WorkLists.BulletEntry (ι τ : Type) where
  /-- Its user index is `USER_INDEX_WATER_BODY`. -/
  isWaterBody : Bool
  hasCollisionObject : Bool
  mode : Mode
  lastTransform : τ
  waterNearby : Option ι := none
  markedForVisibilityRecalculation : Bool := false
  addedToMovingList : Bool := false
  markedAsMovingThisFrame : Bool := false
  markedAsMovingLastFrame : Bool := false

/-- The entries in order, and the work lists. -/
structure WorkLists (ι τ : Type) where
  entries : ι → Option (WorkLists.BulletEntry ι τ)
  order : List ι
  movingEntities : List ι
  visibilityRecalculateQueue : List ι

/-- What happens to the work lists. -/
inductive WorkChange (ι τ : Type) where
  | setWorldTransform (id : ι) (transform : τ)
  | addOverlappingPair (first second : ι)
  | removeOverlappingPair (first second : ι)
  /-- `applyNewPositionForEntity`, if valid. -/
  | applyNewPosition (id : ι)
  /-- The rest of `applyTransformInternal`. -/
  | transformed (id : ι)
  /-- The entry has another direction. -/
  | turned (id : ι)
  /-- The bounding box has another radius. -/
  | resized (id : ι)

namespace WorkLists

variable {ι τ : Type} [DecidableEq ι] [DecidableEq τ]

/-- A domain without entries. -/
def empty : WorkLists ι τ where
  entries _ := none
  order := []
  movingEntities := []
  visibilityRecalculateQueue := []

variable (domain : WorkLists ι τ) (id : ι)

/-- Change an entry. -/
def modify (change : BulletEntry ι τ → BulletEntry ι τ) :
    WorkLists ι τ :=
  { domain with
    entries := fun other => if other = id then (domain.entries id).map change
      else domain.entries other }

/-- Is the flag of an entry set? -/
def flag (isSet : BulletEntry ι τ → Bool) (id : ι) : Bool :=
  (domain.entries id).any isSet

/-- Put an entry into the list of what moves, unless it is there. -/
def startMoving : WorkLists ι τ :=
  match domain.entries id with
  | none => domain
  | some entry =>
    if entry.addedToMovingList then domain
    else
      { domain with movingEntities := domain.movingEntities ++ [id] }.modify id fun entry =>
        { entry with
          addedToMovingList := true
          markedAsMovingThisFrame := false
          markedAsMovingLastFrame := false }

/-- Enter an entry in the queue, unless it is there. -/
def markForVisibility : WorkLists ι τ :=
  match domain.entries id with
  | none => domain
  | some entry =>
    if entry.markedForVisibilityRecalculation then domain
    else
      { domain with
        visibilityRecalculateQueue := domain.visibilityRecalculateQueue ++ [id] }.modify id
          fun entry => { entry with markedForVisibilityRecalculation := true }

def setWorldTransform (transform : τ) : WorkLists ι τ :=
  match domain.entries id with
  | none => domain
  | some entry =>
    if entry.lastTransform = transform then domain
    else
      (((domain.modify id fun entry => { entry with lastTransform := transform }).startMoving
        id).modify id fun entry => { entry with markedAsMovingThisFrame := true }).markForVisibility
          id

variable (waterEntry otherEntry : ι)

def addToWater : WorkLists ι τ :=
  (domain.modify otherEntry fun entry => { entry with waterNearby := some waterEntry }).startMoving
    otherEntry

/-- `removeFromWater`: it refers to itself afterwards. -/
def removeFromWater : WorkLists ι τ :=
  match domain.entries otherEntry with
  | none => domain
  | some entry =>
    if entry.waterNearby = some waterEntry then
      (domain.modify otherEntry fun entry =>
        { entry with waterNearby := some otherEntry }).startMoving otherEntry
    else domain

/-- Two entries, of which at most one is a water body. -/
def withWater (inWater : WorkLists ι τ → ι → ι → WorkLists ι τ) (domain : WorkLists ι τ)
    (first second : ι) : WorkLists ι τ :=
  if domain.flag BulletEntry.isWaterBody first then
    if domain.flag BulletEntry.isWaterBody second then domain else inWater domain first second
  else if domain.flag BulletEntry.isWaterBody second then inWater domain second first
  else domain

/-- What follows when a water body has moved. -/
def transformed : WorkLists ι τ :=
  if domain.flag BulletEntry.isWaterBody id then
    domain.order.foldl (fun domain child =>
      if domain.flag (fun entry => decide (entry.waterNearby = some id)) child then
        domain.startMoving child
      else domain) domain
  else domain

def apply : WorkChange ι τ → WorkLists ι τ
  | .setWorldTransform id transform => domain.setWorldTransform id transform
  | .addOverlappingPair first second => withWater addToWater domain first second
  | .removeOverlappingPair first second => withWater removeFromWater domain first second
  | .applyNewPosition id => domain.markForVisibility id
  | .transformed id => domain.transformed id
  | .turned id => domain.startMoving id
  | .resized id => domain.markForVisibility id

variable (changes : List (WorkChange ι τ))

def applyAll : WorkLists ι τ :=
  changes.foldl apply domain

/-- `addEntity`, for an entry that is new. -/
def addEntity (isWaterBody hasCollisionObject : Bool)
    (mode : Mode) (transform : τ) (changes : List (WorkChange ι τ)) : WorkLists ι τ :=
  if (domain.entries id).isSome then domain
  else
    applyAll
      { domain with
        entries := fun other =>
          if other = id then some
            { isWaterBody, hasCollisionObject, mode, lastTransform := transform }
          else domain.entries other
        order := domain.order ++ [id] } changes

/-- `removeEntity`; what was planted is transformed. -/
def removeEntity (reported changes : List (WorkChange ι τ)) :
    WorkLists ι τ :=
  if (domain.entries id).isNone then domain
  else
    let removed := domain.applyAll reported
    applyAll
      { entries := fun other => if other = id then none else removed.entries other
        order := removed.order.erase id
        movingEntities :=
          if removed.flag BulletEntry.addedToMovingList id then
            removeAndShift id removed.movingEntities
          else removed.movingEntities
        visibilityRecalculateQueue :=
          if removed.flag BulletEntry.markedForVisibilityRecalculation id then
            removeAndShift id removed.visibilityRecalculateQueue
          else removed.visibilityRecalculateQueue } changes

/-- `childEntityPropertyApplied`, for the mode. -/
def applyMode (mode : Mode) (reported : List (WorkChange ι τ)) :
    WorkLists ι τ :=
  match domain.entries id with
  | none => domain
  | some entry =>
    if entry.hasCollisionObject ∧ mode ≠ entry.mode then
      (((domain.markForVisibility id).applyAll reported).modify id fun entry =>
        { entry with mode }).startMoving id
    else domain.startMoving id

def visibilityCheckMaxEntries : Nat :=
  20

def updateVisibilityOfDirtyEntities : WorkLists ι τ :=
  let updated := (domain.visibilityRecalculateQueue.take visibilityCheckMaxEntries).foldl
    (fun domain id => domain.modify id fun entry =>
      { entry with markedForVisibilityRecalculation := false }) domain
  { updated with
    visibilityRecalculateQueue :=
      updated.visibilityRecalculateQueue.drop visibilityCheckMaxEntries }

variable (isInside : ι → ι → Option Bool)

/-- `testEntityIsSubmergedFn`. -/
def testEntityIsSubmerged (domain : WorkLists ι τ) (id water : ι) :
    WorkLists ι τ :=
  let left := if water = id then domain.modify id fun entry => { entry with waterNearby := none }
    else domain
  let inside := if water = id then some false else isInside id water
  match left.entries id, inside with
  | some entry, some true =>
    if entry.mode = .submerged then left
    else (left.modify id fun entry => { entry with mode := .submerged }).startMoving id
  | some entry, some false =>
    if entry.mode = .submerged then
      (left.modify id fun entry => { entry with mode := .free }).startMoving id
    else left
  | _, _ => left

def processWaterBodies (domain : WorkLists ι τ) : WorkLists ι τ :=
  domain.movingEntities.foldl (fun domain id =>
    match (domain.entries id).bind BulletEntry.waterNearby with
    | none => domain
    | some water => domain.testEntityIsSubmerged isInside id water) domain

/-- Does the entry stay, and what is called? -/
def visitMoving (state : WorkLists ι τ × List ι) (id : ι) : (WorkLists ι τ × List ι) × Bool :=
  if state.1.flag BulletEntry.markedAsMovingThisFrame id then
    ((state.1.modify id fun entry =>
      { entry with markedAsMovingLastFrame := true, markedAsMovingThisFrame := false },
        state.2 ++ [id]), true)
  else
    ((state.1.modify id fun entry =>
      { entry with markedAsMovingLastFrame := false, addedToMovingList := false },
        state.2 ++ [id]), false)

/-- Loop over the moving entries, with its calls. Nothing that is called in it starts another entry
moving: the list is cut to its new length at the end. -/
def processMoving : WorkLists ι τ × List ι :=
  let swept := sweep visitMoving domain.movingEntities.length 0 (domain, []) domain.movingEntities
  ({ swept.1.1 with movingEntities := swept.2.2.take swept.2.1 }, swept.1.2)

/-- `tick` up to the loop over the moving entries. -/
def beforeMoving : WorkLists ι τ :=
  (domain.applyAll changes).updateVisibilityOfDirtyEntities.processWaterBodies isInside

def tick (terrain : List (WorkChange ι τ)) : WorkLists ι τ :=
  ((domain.beforeMoving changes isInside).processMoving.1).applyAll terrain

/-- What changes the work lists of a domain. -/
inductive Event (ι τ : Type) where
  | addEntity (id : ι) (isWaterBody hasCollisionObject : Bool) (mode : Mode) (transform : τ)
      (changes : List (WorkChange ι τ))
  | removeEntity (id : ι) (reported changes : List (WorkChange ι τ))
  | applyMode (id : ι) (mode : Mode) (reported : List (WorkChange ι τ))
  | change (change : WorkChange ι τ)
  | tick (changes : List (WorkChange ι τ)) (isInside : ι → ι → Option Bool)
      (terrain : List (WorkChange ι τ))

def step : Event ι τ → WorkLists ι τ
  | .addEntity id isWaterBody hasCollisionObject mode transform changes =>
    domain.addEntity id isWaterBody hasCollisionObject mode transform changes
  | .removeEntity id reported changes => domain.removeEntity id reported changes
  | .applyMode id mode reported => domain.applyMode id mode reported
  | .change change => domain.apply change
  | .tick changes isInside terrain => domain.tick changes isInside terrain

end WorkLists

end Cyphesis.Simulation
