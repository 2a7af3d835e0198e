import Cyphesis.Foundation.Keyed
import Mathlib.Data.Finset.Card

/-!
# Minds that share an awareness

The minds in one domain share an awareness, which counts for each entity how many of them observe
it. What happens to a memory unnoticed is an event of its own.
-/

namespace Cyphesis.Ai

open Std (ExtTreeMap)
open Cyphesis.Foundation

/-- Who uses an `Awareness`. -/
structure SharedAwareness where
  /-- `mObservedEntities`, with `numberOfObservers`. -/
  observedEntities : ExtTreeMap Nat Int compare
  observerCount : Int
  /-- The areas that are set. -/
  awareAreas : Finset Nat

namespace SharedAwareness

def initial : SharedAwareness :=
  { observedEntities := ∅, observerCount := 0, awareAreas := ∅ }

variable (awareness : SharedAwareness)

def addObserver : SharedAwareness :=
  { awareness with observerCount := awareness.observerCount + 1 }

def removeObserver : SharedAwareness :=
  { awareness with observerCount := awareness.observerCount - 1 }

def addEntity (entity : Nat) : SharedAwareness :=
  { awareness with
    observedEntities :=
      match awareness.observedEntities[entity]? with
      | none => awareness.observedEntities.insert entity 1
      | some count => awareness.observedEntities.insert entity (count + 1) }

def removeEntity (entity : Nat) : SharedAwareness :=
  { awareness with
    observedEntities :=
      match awareness.observedEntities[entity]? with
      | none => awareness.observedEntities
      | some count =>
        if count - 1 = 0 then awareness.observedEntities.erase entity
        else awareness.observedEntities.insert entity (count - 1) }

/-- `Awareness::updateEntity`, for this parent. -/
def updateEntity (domain entity : Nat) (parent : Option Nat) :
    SharedAwareness :=
  if awareness.observedEntities.contains entity then
    if parent ≠ some domain then awareness.removeEntity entity else awareness
  else if parent = some domain then awareness.addEntity entity
  else awareness

def setAwarenessArea (areaId : Nat) : SharedAwareness :=
  { awareness with awareAreas := insert areaId awareness.awareAreas }

def removeAwarenessArea (areaId : Nat) : SharedAwareness :=
  { awareness with awareAreas := awareness.awareAreas.erase areaId }

end SharedAwareness

/-- `AwareMind`, with the parents in its memory. -/
structure AwareMind where
  entityId : Nat
  /-- The parent of `m_ownEntity`, if known. -/
  own : Option (Option Nat)
  /-- `m_ownEntity` is in the memory. -/
  ownHeld : Bool
  /-- `m_map` -/
  memory : ExtTreeMap Nat (Option Nat) compare
  /-- The domain entity of `mAwareness`. -/
  awareness : Option Nat
  /-- The steering of the mind has set an awareness area. -/
  hasArea : Bool

namespace AwareMind

def create (entityId : Nat) : AwareMind :=
  { entityId := entityId
    own := none
    ownHeld := false
    memory := ∅
    awareness := none
    hasArea := false }

variable (mind : AwareMind) (entity : Nat)

def parentOf : Option Nat :=
  mind.memory[entity]?.getD none

/-- The mind observes the entity: it counts as a child of the domain entity. -/
def Observes (domain entity : Nat) : Prop :=
  mind.awareness = some domain ∧ mind.memory[entity]? = some (some domain)

instance (mind : AwareMind) (domain entity : Nat) : Decidable (mind.Observes domain entity) :=
  inferInstanceAs (Decidable (_ ∧ _))

variable (parent : Option Nat)

/-- Give a remembered entity a parent. -/
def setParent : AwareMind :=
  { mind with
    memory := mind.memory.insert entity parent
    own := if mind.ownHeld ∧ entity = mind.entityId then some parent else mind.own }

/-- `MemMap::readEntity`, for another location. -/
def readEntity (loc : Option Nat) : AwareMind :=
  mind.setParent entity
    (match loc with
    | none => mind.parentOf entity
    | some location => if location = entity then mind.parentOf entity else some location)

/-- Take an entity out of the memory. -/
def forget : AwareMind :=
  { mind with
    memory := mind.memory.erase entity
    own := if mind.ownHeld ∧ entity = mind.entityId then some none else mind.own
    ownHeld := mind.ownHeld ∧ entity ≠ mind.entityId }

/-- The first entity that is the mind's own. -/
def meetOwnEntity : AwareMind :=
  if mind.own = none ∧ entity = mind.entityId then
    { mind with own := some (mind.parentOf entity), ownHeld := true }
  else mind

/-- Loop of `requestAwareness`. -/
def addRemembered (mindId : Nat) (parent : Option Nat)
    (awareness : SharedAwareness) : SharedAwareness :=
  mind.memory.foldl
    (fun awareness entity found =>
      if entity ≠ mindId ∧ found = parent then awareness.addEntity entity else awareness)
    awareness

/-- `AwareMind::requestAwareness`, for one domain. -/
def requestAwareness (domain mindId entity : Nat)
    (awareness : SharedAwareness) : AwareMind × SharedAwareness :=
  ({ mind with awareness := some entity },
    if entity = domain then
      mind.addRemembered mindId (mind.own.getD none) (awareness.addObserver.addEntity mind.entityId)
    else awareness)

/-- `AwareMind::entityAdded`, after the reading. -/
def entityAdded (domain mindId entity : Nat) (awareness : SharedAwareness) :
    AwareMind × SharedAwareness :=
  match mind.own, mind.awareness with
  | none, _ => (mind.meetOwnEntity entity, awareness)
  | some parent, some used =>
    (mind,
      if used = domain ∧ mind.parentOf entity = parent then awareness.addEntity entity
      else awareness)
  | some parent, none =>
    if parent = some entity then mind.requestAwareness domain mindId entity awareness
    else (mind, awareness)

/-- `AwareMind::entityUpdated`, once read. -/
def entityUpdated (domain mindId entity : Nat) (awareness : SharedAwareness) :
    AwareMind × SharedAwareness :=
  match mind.awareness with
  | some used =>
    (mind,
      if used = domain then awareness.updateEntity domain entity (mind.parentOf entity)
      else awareness)
  | none =>
    if mind.own = some (some entity) then mind.requestAwareness domain mindId entity awareness
    else (mind, awareness)

/-- `AwareMind::entityDeleted`, out of memory already. -/
def entityDeleted (domain entity : Nat) (awareness : SharedAwareness) :
    SharedAwareness :=
  if mind.awareness = some domain then awareness.removeEntity entity else awareness

/-- `Steering::setAwarenessArea` -/
def setAwarenessArea (mind : AwareMind) (domain : Nat) (awareness : SharedAwareness) :
    AwareMind × SharedAwareness :=
  match mind.awareness with
  | some used =>
    ({ mind with hasArea := true },
      if used = domain then awareness.setAwarenessArea mind.entityId else awareness)
  | none => (mind, awareness)

/-- Loop of the destructor over the memory. -/
def removeRemembered (awareness : SharedAwareness) :
    SharedAwareness :=
  mind.memory.foldl
    (fun awareness entity found =>
      if found = parent then awareness.removeEntity entity else awareness)
    awareness

/-- `AwareMind::~AwareMind` -/
def destroy (domain mindId : Nat) (awareness : SharedAwareness) :
    SharedAwareness :=
  match mind.own with
  | some parent =>
    if mind.awareness = some domain then
      ((mind.removeRemembered parent awareness).removeAwarenessArea mindId).removeObserver
    else awareness
  | none => awareness

end AwareMind

/-- The minds, and the awareness of one domain. -/
structure Minds where
  live : Finset Nat
  minds : Nat → AwareMind
  awareness : SharedAwareness

/-- What happens to one mind. -/
inductive MindEvent where
  /-- An entity is read, and the mind is not told. -/
  | readUntold (entity : Nat) (loc : Option Nat)
  /-- What contained it was destroyed. -/
  | orphaned (entity : Nat)
  /-- `MemMap::check` and `MemMap::flush` -/
  | forgotten (entity : Nat)
  | entityAdded (entity : Nat) (loc : Option Nat)
  | entityUpdated (entity : Nat) (loc : Option Nat)
  | entityDeleted (entity : Nat)
  | setAwarenessArea

inductive MindsEvent where
  | create (mindId entityId : Nat)
  | happens (mindId : Nat) (event : MindEvent)
  | destroy (mindId : Nat)

namespace Minds

def start : Minds :=
  { live := ∅, minds := fun _ => AwareMind.create 0, awareness := .initial }

/-- An event, for mind and awareness. -/
def handle (domain mindId : Nat) (mind : AwareMind) (awareness : SharedAwareness) :
    MindEvent → AwareMind × SharedAwareness
  | .readUntold entity loc => (mind.readEntity entity loc, awareness)
  | .orphaned entity => (mind.setParent entity none, awareness)
  | .forgotten entity => (mind.forget entity, awareness)
  | .entityAdded entity loc =>
    (mind.readEntity entity loc).entityAdded domain mindId entity awareness
  | .entityUpdated entity loc =>
    (mind.readEntity entity loc).entityUpdated domain mindId entity awareness
  | .entityDeleted entity => (mind.forget entity, mind.entityDeleted domain entity awareness)
  | .setAwarenessArea => mind.setAwarenessArea domain awareness

/-- Minds that use the awareness. -/
def users (minds : Minds) (domain : Nat) : Finset Nat :=
  minds.live.filter fun mindId => (minds.minds mindId).awareness = some domain

def perform (domain : Nat) (minds : Minds) : MindsEvent → Minds
  | .create mindId entityId =>
    if mindId ∈ minds.live then minds
    else
      { minds with
        live := insert mindId minds.live
        minds := Function.update minds.minds mindId (AwareMind.create entityId) }
  | .happens mindId event =>
    if mindId ∈ minds.live then
      let result := handle domain mindId (minds.minds mindId) minds.awareness event
      { minds with
        minds := Function.update minds.minds mindId result.1
        awareness := result.2 }
    else minds
  | .destroy mindId =>
    if mindId ∈ minds.live then
      let rest := { minds with live := minds.live.erase mindId }
      { rest with
        awareness :=
          if (rest.users domain).Nonempty then
            (minds.minds mindId).destroy domain mindId minds.awareness
          else .initial }
    else minds

end Minds

end Cyphesis.Ai
