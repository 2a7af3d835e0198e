import Cyphesis.Foundation.Run
import Cyphesis.Simulation.World
import Mathlib.Data.List.Sort

/-!
# Observers of containers

To register an observer, a container lets every domain between them observe the closeness; when that
ends at any, the observer is removed. Entities stay here: a domain severs an observation when one
moves out of reach. Addresses of observations are not used again.
-/

namespace Cyphesis.Simulation

open Cyphesis.Foundation

/-- With parents and domains. `arrange` orders addresses. -/
structure ContainerWorld where
  known : String → Bool
  parent : String → Option String
  domain : String → Option DomainKind
  depth : String → Nat
  descends : ∀ entity above, parent entity = some above → depth above < depth entity
  arrange : List Nat → List Nat
  arrange_perm : ∀ observations, (arrange observations).Perm observations

/-- The callback removes the reaching entity. -/
structure PathObservation where
  domain : String
  reacher : String
  target : String
  container : String

/-- With the container it is in. -/
structure ObservationEntry where
  container : String
  observer : String
  disconnectFunctions : List Nat
  closenessObservations : List Nat

/-- All entries, and all observations. -/
@[ext]
structure ContainerAccess where
  reachingEntities : List ObservationEntry
  observations : Nat → Option PathObservation
  next : Nat

namespace ContainerWorld

variable (world : ContainerWorld)

/-- The entity, if it has a domain. -/
def ownDomain (entity : String) : Option String :=
  if (world.domain entity).isSome then some entity else none

/-- Above `topObserverEntity`. -/
def findObserverDomain (container : String) (domainEntity : Option String) (topObserver : String) :
    String × Option String :=
  match domainEntity with
  | none => (topObserver, none)
  | some entity =>
    -- The observer is inside the container.
    if entity = container then (topObserver, none)
    else if (world.domain entity).isSome then (topObserver, some entity)
    else
      match _isParent : world.parent entity with
      | none => (entity, none)
      | some above => findObserverDomain container (some above) entity
termination_by (domainEntity.map world.depth).getD 0
decreasing_by
  exact world.descends entity above ‹_›

/-- Up to the common domain, with `toAncestors`. -/
def findAncestor (observer : String) (parentDomain : Option String) (topObserver ancestor : String)
    (toAncestors : List String) : Option (List String × Option String) :=
  if ancestor = observer then some (toAncestors, world.ownDomain observer)
  else if world.parent observer = some ancestor then some (toAncestors, parentDomain)
  else if ancestor = topObserver then some (toAncestors, none)
  else
    match _isParent : world.parent ancestor with
    | none => none
    | some above =>
      findAncestor observer parentDomain topObserver above (ancestor :: toAncestors)
termination_by world.depth ancestor
decreasing_by
  exact world.descends ancestor above ‹_›

end ContainerWorld

namespace ContainerAccess

variable (world : ContainerWorld)

def initial : ContainerAccess :=
  { reachingEntities := [], observations := fun _ => none, next := 0 }

variable (access : ContainerAccess) (container id : String)

/-- `m_reachingEntities.find` -/
def findEntry : Option ObservationEntry :=
  access.reachingEntities.find? fun entry => entry.container = container ∧ entry.observer = id

def hasObserverRegistered : Bool :=
  (access.findEntry container id).isSome

/-- Change the observations in an entry. -/
def modifyEntry (change : List Nat → List Nat) : ContainerAccess :=
  { access with
    reachingEntities := access.reachingEntities.map fun entry =>
      if entry.container = container ∧ entry.observer = id then
        { entry with closenessObservations := change entry.closenessObservations }
      else entry }

variable (observation : Nat)

/-- Take it from the map of its domain. -/
def release : ContainerAccess :=
  { access with observations := Function.update access.observations observation none }

/-- Function that `observeCloseness` returns. -/
def disconnect : ContainerAccess :=
  match access.observations observation with
  | none => access
  | some entry =>
    (access.modifyEntry entry.domain entry.reacher (·.filter (· ≠ observation))).release observation

variable (hasEntry : String → String → Bool)

/-- Whether a domain accepts; `hasEntry` may be asked. -/
def accepts (access : ContainerAccess) (domain reacher target : String) : Bool :=
  match world.domain domain with
  | some .container =>
    access.hasObserverRegistered domain reacher && world.parent target = some domain
  | some .inventory => reacher = domain
  | some .physical => hasEntry domain reacher && hasEntry domain target
  | some .void | some .stackable | none => false

/-- Put it into the map and the entry. -/
def observe (entry : PathObservation) :
    ContainerAccess :=
  { access.modifyEntry entry.domain entry.reacher (observation :: ·) with
    observations := Function.update access.observations observation (some entry) }

def observeCloseness (access : ContainerAccess)
    (entry : PathObservation) : Option ContainerAccess :=
  if accepts world hasEntry access entry.domain entry.reacher entry.target then
    some { access.observe access.next entry with next := access.next + 1 }
  else none

/-- Observe the closeness on the way down. -/
def observeDown (hasEntry : String → String → Bool) (container observer : String) :
    List String → Option String → List Nat → ContainerAccess → Option (List Nat) × ContainerAccess
  | [], _, disconnectFunctions, access => (some disconnectFunctions, access)
  | ancestor :: rest, none, disconnectFunctions, access =>
    observeDown hasEntry container observer rest (world.ownDomain ancestor) disconnectFunctions
      access
  | ancestor :: rest, some domain, disconnectFunctions, access =>
    match observeCloseness world hasEntry access ⟨domain, observer, ancestor, container⟩ with
    | none => (none, disconnectFunctions.foldl disconnect access)
    | some established =>
      observeDown hasEntry container observer rest (world.ownDomain ancestor)
        (disconnectFunctions ++ [access.next]) established

/-- `addObserver`: `none` on a refusal. -/
def establish (container observer : String)
    (access : ContainerAccess) : Option (List Nat) × ContainerAccess :=
  if world.parent observer = world.parent container then
    match (world.parent container).bind world.ownDomain with
    | none => (none, access)
    | some domain =>
      match observeCloseness world hasEntry access ⟨domain, observer, container, container⟩ with
      | none => (none, access)
      | some established => (some [access.next], established)
  else
    let (topObserver, parentDomain) :=
      world.findObserverDomain container (world.parent observer) observer
    match world.findAncestor observer parentDomain topObserver container [] with
    | none => (none, access)
    | some (toAncestors, ancestorDomain) =>
      observeDown world hasEntry container observer toAncestors ancestorDomain [] access

/-- `m_reachingEntities[entityId]` gets functions. -/
def enter (disconnectFunctions : List Nat) :
    ContainerAccess :=
  if access.hasObserverRegistered container id then
    { access with
      reachingEntities := access.reachingEntities.map fun entry =>
        if entry.container = container ∧ entry.observer = id then
          { entry with disconnectFunctions := disconnectFunctions }
        else entry }
  else
    { access with
      reachingEntities := access.reachingEntities.orderedInsert
        (fun first second => first.observer ≤ second.observer)
        ⟨container, id, disconnectFunctions, []⟩ }

def addObserver (container id : String) (access : ContainerAccess) : ContainerAccess :=
  if world.known id then
    match establish world hasEntry container id access with
    | (none, access) => access
    | (some disconnectFunctions, access) => access.enter container id disconnectFunctions
  else access

/-- Take an entry out. -/
def eraseEntry : ContainerAccess :=
  { access with
    reachingEntities := access.reachingEntities.filter fun entry =>
      ¬ (entry.container = container ∧ entry.observer = id) }

/-- `ContainerDomain::removeObserver`. -/
def removeObserverWithin : Nat → ContainerAccess → String → String → ContainerAccess
  | 0, access, _, _ => access
  | depth + 1, access, container, id =>
    match access.findEntry container id with
    | none => access
    | some entry =>
      (world.arrange entry.closenessObservations).foldl
        (fun current observation =>
          match current.observations observation with
          | none => current
          | some severed =>
            removeObserverWithin depth (current.release observation) severed.container
              severed.reacher)
        (entry.disconnectFunctions.foldl disconnect (access.eraseEntry container id))

def removeObserver : ContainerAccess :=
  removeObserverWithin world access.reachingEntities.length access container id

/-- Registered ids are crossed off. -/
def setObservers (access : ContainerAccess)
    (container : String) (observerIds : List String) : ContainerAccess :=
  let existing :=
    (access.reachingEntities.filter (·.container = container)).map (·.observer)
  let (left, added) := observerIds.foldl
    (fun (existing, current) newId =>
      if newId ∈ existing then (existing.erase newId, current)
      else (existing, addObserver world hasEntry container newId current))
    (existing, access)
  left.foldl (removeObserver world · container ·) added

/-- `ContainerDomain::removed`, with a bound. -/
def removeAll (container : String) : Nat → ContainerAccess → ContainerAccess
  | 0, access => access
  | bound + 1, access =>
    match (access.reachingEntities.filter (·.container = container)).getLast? with
    | none => access
    | some entry => removeAll container bound (removeObserver world access container entry.observer)

def removed (container : String) : ContainerAccess :=
  removeAll world container access.reachingEntities.length access

/-- They are not close any more. -/
def sever : ContainerAccess :=
  match access.observations observation with
  | none => access
  | some severed =>
    removeObserver world (access.release observation) severed.container severed.reacher

end ContainerAccess

/-- What changes who has access to which container. -/
inductive AccessEvent where
  /-- `hasEntry`: what physical domains know. -/
  | setObservers (container : String) (observerIds : List String)
      (hasEntry : String → String → Bool)
  | addObserver (container id : String) (hasEntry : String → String → Bool)
  | removeObserver (container id : String)
  | sever (observation : Nat)
  | removed (container : String)

namespace ContainerAccess

/-- Only containers have observers. -/
def step (world : ContainerWorld) (access : ContainerAccess) : AccessEvent → ContainerAccess
  | .setObservers container observerIds hasEntry =>
    if world.domain container = some .container then
      setObservers world hasEntry access container observerIds
    else access
  | .addObserver container id hasEntry =>
    if world.domain container = some .container then
      addObserver world hasEntry container id access
    else access
  | .removeObserver container id => removeObserver world access container id
  | .sever observation => sever world access observation
  | .removed container => removed world access container

end ContainerAccess

end Cyphesis.Simulation
