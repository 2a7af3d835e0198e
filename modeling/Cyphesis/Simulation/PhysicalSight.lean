import Cyphesis.Foundation.Run
import Mathlib.Data.List.Basic

/-!
# Who sees whom in a physical domain

An entry has a sphere that others see, and another for its own view. What the broad phase reports
waits at the entry that was moved. References to entries are never used again; the fields of
`BulletEntry` are functions of them. Geometry is left open.
-/

namespace Cyphesis.Simulation

open Cyphesis.Foundation
open Function

/-- Address of a `BulletEntry`. -/
abbrev EntryRef := Nat

/-- Group and mask of a collision object. -/
structure Proxy where
  collisionFilterGroup : BitVec 16
  collisionFilterMask : BitVec 16

namespace Proxy

def maskObserver : BitVec 16 := 1 <<< 1

def maskObservable : BitVec 16 := 1 <<< 2

def maskObservablePrivate : BitVec 16 := 1 <<< 3

/-- Test at the start of `VisibilityPairCallback`. -/
def collides (moved other : Proxy) : Bool :=
  moved.collisionFilterGroup &&& other.collisionFilterMask != 0 &&
    other.collisionFilterGroup &&& moved.collisionFilterMask != 0

end Proxy

/-- Sphere of what an entity can see. -/
structure ViewSphere where
  admin : Bool

/-- The sphere by which an entity is seen. -/
structure VisibilitySphere where
  /-- The entity is protected or private. -/
  hidden : Bool

def ViewSphere.proxy (sphere : ViewSphere) : Proxy :=
  { collisionFilterGroup :=
      if sphere.admin then Proxy.maskObservable ||| Proxy.maskObservablePrivate
      else Proxy.maskObservable
    collisionFilterMask := Proxy.maskObserver }

def VisibilitySphere.proxy (sphere : VisibilitySphere) : Proxy :=
  { collisionFilterGroup := Proxy.maskObserver
    collisionFilterMask :=
      if sphere.hidden then Proxy.maskObservablePrivate else Proxy.maskObservable }

inductive SphereKind where
  | view
  | visibility

/-- `VisibilityQueueOperationType`. -/
inductive VisibilityChange where
  | add
  | remove
  deriving DecidableEq

/-- Another's sphere that overlaps or not. -/
structure Overlap where
  other : EntryRef
  sphere : SphereKind
  change : VisibilityChange

/-- The domain's operations about visibility. -/
inductive SightOp where
  | appearance (receiver : Int) (args : List Int)
  | disappearance (receiver : Int) (args : List Int)

structure SightDomain where
  entries : List (Int × EntryRef)
  next : EntryRef
  /-- The entity of an entry. -/
  entity : EntryRef → Int
  /-- Is the entity of an entry perceptive? -/
  perceptive : EntryRef → Bool
  viewSphere : EntryRef → Option ViewSphere
  visibilitySphere : EntryRef → Option VisibilitySphere
  observedByThis : EntryRef → List EntryRef
  observedByThisChanges : EntryRef → List (EntryRef × VisibilityChange)
  observingThis : EntryRef → List EntryRef
  observingThisChanges : EntryRef → List (EntryRef × VisibilityChange)
  markedForVisibilityRecalculation : EntryRef → Bool
  visibilityRecalculateQueue : List EntryRef
  sent : List SightOp

namespace SightDomain

/-- `mContainingEntityEntry`. -/
def containing : EntryRef := 0

def initial (owner : Int) (perceptive : Bool) : SightDomain :=
  { entries := [(owner, containing)]
    next := 1
    entity := fun _ => owner
    perceptive := fun _ => perceptive
    viewSphere := fun _ => none
    visibilitySphere := fun _ => none
    observedByThis := fun _ => []
    observedByThisChanges := fun _ => []
    observingThis := fun _ => []
    observingThisChanges := fun _ => []
    markedForVisibilityRecalculation := fun _ => false
    visibilityRecalculateQueue := []
    sent := [] }

variable (domain : SightDomain) (id : Int)

/-- `m_entries.find`. -/
def find : Option EntryRef :=
  domain.entries.lookup id

/-- Entries that are in the domain. -/
def live : List EntryRef :=
  domain.entries.map Prod.snd

variable (observer observed : EntryRef)

/-- `observer.observedByThis.insert(observed)`. -/
def insertObserved : SightDomain :=
  { domain with
    observedByThis := update domain.observedByThis observer
      ((domain.observedByThis observer).insert observed) }

/-- `observer.observedByThis.erase(observed)`. -/
def eraseObserved : SightDomain :=
  { domain with
    observedByThis := update domain.observedByThis observer
      ((domain.observedByThis observer).filter (· ≠ observed)) }

/-- `observed.observingThis.insert(observer)`. -/
def insertObserving (observed observer : EntryRef) : SightDomain :=
  { domain with
    observingThis := update domain.observingThis observed
      ((domain.observingThis observed).insert observer) }

/-- `observed.observingThis.erase(observer)`. -/
def eraseObserving (observed observer : EntryRef) : SightDomain :=
  { domain with
    observingThis := update domain.observingThis observed
      ((domain.observingThis observed).filter (· ≠ observer)) }

/-- Sphere of an entry in the visibility world. -/
def proxy (domain : SightDomain) (entry : EntryRef) : SphereKind → Option Proxy
  | .view => (domain.viewSphere entry).map ViewSphere.proxy
  | .visibility => (domain.visibilitySphere entry).map VisibilitySphere.proxy

variable (entry : EntryRef) (change : EntryRef × VisibilityChange)

def pushObserved : SightDomain :=
  { domain with
    observedByThisChanges := update domain.observedByThisChanges entry
      (domain.observedByThisChanges entry ++ [change]) }

def pushObserving : SightDomain :=
  { domain with
    observingThisChanges := update domain.observingThisChanges entry
      (domain.observingThisChanges entry ++ [change]) }

/-- `addOverlappingPair` and `removeOverlappingPair`. -/
def overlapped (moved : EntryRef) (movedProxy : Proxy) (isViewSphere : Bool)
    (domain : SightDomain) (overlap : Overlap) : SightDomain :=
  match domain.proxy overlap.other overlap.sphere with
  -- the broad phase knows of no such sphere
  | none => domain
  | some otherProxy =>
    if movedProxy.collides otherProxy ∧ moved ≠ overlap.other then
      if isViewSphere then domain.pushObserved moved (overlap.other, overlap.change)
      else domain.pushObserving moved (overlap.other, overlap.change)
    else domain

/-- What the broad phase finds for a sphere. -/
def report (moved : EntryRef) (movedProxy : Proxy) (isViewSphere : Bool)
    (overlaps : List Overlap) : SightDomain :=
  overlaps.foldl (overlapped moved movedProxy isViewSphere) domain

def send (ops : List SightOp) : SightDomain :=
  { domain with sent := domain.sent ++ ops }

variable (changes : List (EntryRef × VisibilityChange))

/-- What changes of one kind are about. -/
def changed (kind : VisibilityChange) : List Int :=
  (changes.filter (·.2 = kind)).map fun change => domain.entity change.1

/-- One turn in `updateObserverEntry`. -/
def observerChange (domain : SightDomain) (change : EntryRef × VisibilityChange) : SightDomain :=
  match change.2 with
  | .add => (domain.insertObserving change.1 entry).insertObserved entry change.1
  | .remove => (domain.eraseObserving change.1 entry).eraseObserved entry change.1

/-- What `updateObserverEntry` adds. -/
def observerOps : List SightOp :=
  (if domain.changed changes .add = [] then []
    else [.appearance (domain.entity entry) (domain.changed changes .add)]) ++
  (if domain.changed changes .remove = [] then []
    else [.disappearance (domain.entity entry) (domain.changed changes .remove)])

variable (overlaps : List Overlap)

def updateObserverEntry :
    SightDomain :=
  match domain.viewSphere entry with
  | none => domain
  | some sphere =>
    let reported := domain.report entry sphere.proxy true overlaps
    let changes := reported.observedByThisChanges entry
    let updated := (changes.foldl (observerChange entry) reported).send
      (reported.observerOps entry changes)
    { updated with
      observedByThisChanges := update updated.observedByThisChanges entry [] }

/-- One turn in `updateObservedEntry`. -/
def observedChange (domain : SightDomain) (change : EntryRef × VisibilityChange) : SightDomain :=
  match change.2 with
  | .add => (domain.insertObserved change.1 entry).insertObserving entry change.1
  | .remove => (domain.eraseObserved change.1 entry).eraseObserving entry change.1

/-- What `updateObservedEntry` adds. -/
def observedOps : List SightOp :=
  changes.map fun change =>
    match change.2 with
    | .add => .appearance (domain.entity change.1) [domain.entity entry]
    | .remove => .disappearance (domain.entity change.1) [domain.entity entry]

def updateObservedEntry (generateOps : Bool) : SightDomain :=
  match domain.visibilitySphere entry with
  | none => domain
  | some sphere =>
    let reported := domain.report entry sphere.proxy false overlaps
    let changes := reported.observingThisChanges entry
    let updated := (changes.foldl (observedChange entry) reported).send
      (if generateOps then reported.observedOps entry changes else [])
    { updated with
      observingThisChanges := update updated.observingThisChanges entry [] }

/-- Queue an entry for an update. -/
def mark : SightDomain :=
  if domain.markedForVisibilityRecalculation entry then domain
  else
    { domain with
      visibilityRecalculateQueue := domain.visibilityRecalculateQueue ++ [entry]
      markedForVisibilityRecalculation :=
        update domain.markedForVisibilityRecalculation entry true }

/-- `VISIBILITY_CHECK_MAX_ENTRIES`. -/
def visibilityCheckMaxEntries : Nat := 20

/-- A turn of `updateVisibilityOfDirtyEntities`. -/
def updateDirty (overlaps : EntryRef → SphereKind → List Overlap) (domain : SightDomain)
    (entry : EntryRef) : SightDomain :=
  let observed := domain.updateObservedEntry entry (overlaps entry .visibility) true
  let updated := observed.updateObserverEntry entry (overlaps entry .view)
  { updated with
    markedForVisibilityRecalculation :=
      update updated.markedForVisibilityRecalculation entry false }

/-- Entries that one call handles. -/
def dirty : List EntryRef :=
  domain.visibilityRecalculateQueue.take visibilityCheckMaxEntries

def updateVisibilityOfDirtyEntities
    (overlaps : EntryRef → SphereKind → List Overlap) : SightDomain :=
  let updated := domain.dirty.foldl (updateDirty overlaps) domain
  { updated with
    visibilityRecalculateQueue :=
      updated.visibilityRecalculateQueue.drop visibilityCheckMaxEntries }

/-- What `addEntity` reads and finds. -/
structure AddedEntity where
  id : Int
  hasPosition : Bool
  perceptive : Bool
  admin : Bool
  hidden : Bool
  visibilityAdded : List Overlap
  viewAdded : List Overlap
  viewUpdated : List Overlap
  visibilityUpdated : List Overlap

/-- A new entry, with its sphere. -/
def newEntry (added : AddedEntity) : SightDomain :=
  { domain with
    entries := (added.id, domain.next) :: domain.entries
    next := domain.next + 1
    entity := update domain.entity domain.next added.id
    perceptive := update domain.perceptive domain.next added.perceptive
    viewSphere := update domain.viewSphere domain.next none
    visibilitySphere := update domain.visibilitySphere domain.next (some ⟨added.hidden⟩)
    observedByThis := update domain.observedByThis domain.next []
    observedByThisChanges := update domain.observedByThisChanges domain.next []
    observingThis := update domain.observingThis domain.next []
    observingThisChanges := update domain.observingThisChanges domain.next []
    markedForVisibilityRecalculation :=
      update domain.markedForVisibilityRecalculation domain.next false }

def setViewSphere (sphere : Option ViewSphere) :
    SightDomain :=
  { domain with viewSphere := update domain.viewSphere entry sphere }

/-- Observing and observed by ourselves. -/
def observeItself : SightDomain :=
  (domain.insertObserved entry entry).insertObserving entry entry

variable (admin : Bool)

/-- `addEntity`, for a perceptive one. -/
def addView (overlaps : List Overlap) :
    SightDomain :=
  ((((domain.setViewSphere entry (some ⟨admin⟩)).pushObserved entry (containing, .add)).report
    entry (ViewSphere.mk admin).proxy true overlaps).insertObserving containing entry).observeItself
      entry

/-- The domain's entity sees it, if perceptive. -/
def addToContaining : SightDomain :=
  if domain.perceptive containing then
    (domain.insertObserving entry containing).insertObserved containing entry
  else domain

/-- `PhysicalDomain::addEntity`, without an entry. -/
def addEntity (added : AddedEntity) : SightDomain :=
  if added.hasPosition then
    let entry := domain.next
    let created := (domain.newEntry added).report entry (VisibilitySphere.mk added.hidden).proxy
      false added.visibilityAdded
    let viewing := if added.perceptive then created.addView entry added.admin added.viewAdded
      else created
    let observing := (viewing.addToContaining entry).updateObserverEntry entry added.viewUpdated
    observing.updateObservedEntry entry added.visibilityUpdated false
  else domain

def toggleChildPerception (viewAdded viewUpdated : List Overlap) : SightDomain :=
  if domain.perceptive entry then
    if (domain.viewSphere entry).isNone then
      ((((domain.insertObserving containing entry).report entry (ViewSphere.mk admin).proxy false
        viewAdded).setViewSphere entry (some ⟨admin⟩)).observeItself entry).updateObserverEntry
          entry viewUpdated
    else domain
  else if (domain.viewSphere entry).isSome then
    (domain.setViewSphere entry none).eraseObserving containing entry
  else domain

/-- `PerceptionSightProperty::apply` -/
def applyPerception (perceptive : Bool) : SightDomain :=
  { domain with perceptive := update domain.perceptive entry perceptive }

/-- Delete an element by moving the last one. -/
def removeAndShift (collection : List EntryRef) (entry : EntryRef) : List EntryRef :=
  match collection.idxOf? entry with
  | none => collection
  | some index => (collection.set index (collection.getLastD entry)).dropLast

/-- Loops of `removeEntity` over its two sets. -/
def forget : SightDomain :=
  let forgotten := (domain.observingThis entry).foldl
    (fun domain observer => domain.eraseObserved observer entry) domain
  (forgotten.observedByThis entry).foldl
    (fun domain observed => domain.eraseObserving observed entry) forgotten

def unmark : SightDomain :=
  if domain.markedForVisibilityRecalculation entry then
    { domain with
      visibilityRecalculateQueue := removeAndShift domain.visibilityRecalculateQueue entry }
  else domain

/-- `removeEntity`, for the domain's entry. -/
def removeFromContaining : SightDomain :=
  let erased := domain.eraseObserving containing entry
  if erased.perceptive containing then erased.insertObserved containing entry else erased

/-- Destroy an entry, with all that is its own. -/
def destroy : SightDomain :=
  { domain with
    entries := domain.entries.filter (·.1 ≠ id)
    viewSphere := update domain.viewSphere entry none
    visibilitySphere := update domain.visibilitySphere entry none
    observedByThis := update domain.observedByThis entry []
    observedByThisChanges := update domain.observedByThisChanges entry []
    observingThis := update domain.observingThis entry []
    observingThisChanges := update domain.observingThisChanges entry [] }

def removeEntity : SightDomain :=
  match domain.find id with
  | none => domain
  | some entry => (((domain.forget entry).unmark entry).removeFromContaining entry).destroy id entry

/-- What the broad phase finds in a move. -/
structure MoveOverlaps where
  view : List Overlap
  visibility : List Overlap
  /-- An administrator's view is updated at once. -/
  viewUpdated : List Overlap

/-- Move the sphere of the view, if any. -/
def moveView : SightDomain :=
  match domain.viewSphere entry with
  | none => domain
  | some sphere => domain.report entry sphere.proxy true overlaps

/-- Move the sphere it is seen by, if any. -/
def moveVisibility :
    SightDomain :=
  match domain.visibilitySphere entry with
  | none => domain
  | some sphere => domain.report entry sphere.proxy false overlaps

def applyNewPositionForEntity (overlaps : MoveOverlaps) : SightDomain :=
  let moved := (domain.moveView entry overlaps.view).moveVisibility entry overlaps.visibility
  (if admin then moved.updateObserverEntry entry overlaps.viewUpdated else moved).mark entry

end SightDomain

/-- What changes who sees whom in a physical domain. -/
inductive SightEvent where
  | addEntity (added : SightDomain.AddedEntity)
  | removeEntity (id : Int)
  | perception (id : Int) (perceptive admin : Bool) (viewAdded viewUpdated : List Overlap)
  /-- A change the domain is not told of. -/
  | ownPerception (perceptive : Bool)
  | move (id : Int) (admin : Bool) (overlaps : SightDomain.MoveOverlaps)
  /-- Visibility is due for an update. -/
  | mark (id : Int)
  | updateVisibility (overlaps : EntryRef → SphereKind → List Overlap)

namespace SightDomain

def step (domain : SightDomain) : SightEvent → SightDomain
  | .addEntity added => domain.addEntity added
  | .removeEntity id => domain.removeEntity id
  | .perception id perceptive admin viewAdded viewUpdated =>
    (domain.find id).elim domain fun entry =>
      (domain.applyPerception entry perceptive).toggleChildPerception entry admin viewAdded
        viewUpdated
  | .ownPerception perceptive => domain.applyPerception containing perceptive
  | .move id admin overlaps =>
    (domain.find id).elim domain fun entry =>
      domain.applyNewPositionForEntity entry admin overlaps
  | .mark id => (domain.find id).elim domain domain.mark
  | .updateVisibility overlaps => domain.updateVisibilityOfDirtyEntities overlaps

end SightDomain

end Cyphesis.Simulation
