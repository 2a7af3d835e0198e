import Mathlib.Data.List.Basic
import Cyphesis.Foundation.Run
import Cyphesis.Simulation.ModeData

/-!
# Planted entities in a physical domain

A planted entity stands on the ground of the domain or on another entity of it.  The ground is the
entity that owns the domain, whose entry is always among those of the domain.
-/

namespace Cyphesis.Simulation

open Cyphesis.Foundation

/-- Collision object of an entry. -/
inductive Body where
  | none
  | water
  | rigid (massive : Bool)
  deriving DecidableEq

/-- What planting uses of `BulletEntry`. -/
structure BulletEntry where
  body : Body
  mode : Mode
  attachedEntities : List Int

/-- A domain with all properties.  `containing` are the attached entities of the owner's entry,
which is found under the owner's id and has no body; `entries` are the others of `m_entries`. -/
structure PlantDomain where
  owner : Int
  ids : List Int
  entries : Int → Option BulletEntry
  containing : List Int
  mode : Int → Mode
  modeData : Int → ModeData

/-- What it touches, and what is below it. -/
structure Footing where
  hit : Bool
  sweep : Option Int

namespace PlantDomain

variable (domain : PlantDomain) (id : Int)

def isEntry : Bool :=
  (domain.entries id).isSome

def hasBody : Bool :=
  (domain.entries id).any fun entry => entry.body ≠ .none

/-- What is attached to an entry, or to the ground. -/
def attachedOf : List Int :=
  if id = domain.owner then domain.containing
  else (domain.entries id).elim [] BulletEntry.attachedEntities

def plantedOn (domain : PlantDomain) (id : Int) : Option Int :=
  (domain.modeData id).plantedOn

def modifyEntry (change : BulletEntry → BulletEntry) :
    PlantDomain :=
  { domain with entries := Function.update domain.entries id ((domain.entries id).map change) }

variable (data : ModeData)

def setData : PlantDomain :=
  { domain with modeData := Function.update domain.modeData id data }

/-- Attach an entity to another, or to the ground. -/
def attach (below id : Int) : PlantDomain :=
  if below = domain.owner then { domain with containing := domain.containing.insert id }
  else
    domain.modifyEntry below fun entry =>
      { entry with attachedEntities := entry.attachedEntities.insert id }

/-- Erase an attached entity. -/
def detach (below id : Int) : PlantDomain :=
  if below = domain.owner then { domain with containing := domain.containing.filter (· ≠ id) }
  else
    domain.modifyEntry below fun entry =>
      { entry with attachedEntities := entry.attachedEntities.filter (· ≠ id) }

variable (entryPlantedOn : Option Int)

/-- Change the property, and attach the entity. -/
def replant : PlantDomain :=
  match entryPlantedOn with
  | none => domain.setData id .null
  | some below => (domain.attach below id).setData id (.planted (some below) none)

def plantOnEntity : PlantDomain :=
  match domain.modeData id with
  | .planted (some on) _ =>
    if entryPlantedOn = some on then domain
    else (domain.detach on id).replant id entryPlantedOn
  | .planted none _ => domain.replant id entryPlantedOn
  | _ => if entryPlantedOn = none then domain else domain.replant id entryPlantedOn

variable (footing : Footing)

/-- What is below: a body, or the ground. -/
def foundBelow : Int :=
  (footing.sweep.filter fun below => below ≠ id ∧ domain.hasBody below).getD domain.owner

/-- What a `planted` entity stands on. -/
def standsOn : Int :=
  if domain.hasBody id then
    match domain.plantedOn id with
    | none => domain.foundBelow id footing
    | some on =>
      if on = id then domain.foundBelow id footing
      else if on = domain.owner then domain.owner
      else if domain.hasBody on ∧ footing.hit = true then on
      else domain.foundBelow id footing
  else domain.owner

/-- `calculatePositionForEntity`, for planting. -/
def calculatePosition : PlantDomain :=
  if domain.mode id = .planted then
    domain.plantOnEntity id (some (domain.standsOn id footing))
  else domain

def addEntity (body : Body) (footing : Footing) : PlantDomain :=
  if id = domain.owner ∨ domain.isEntry id then domain
  else
    let added :=
      { domain with
        ids := id :: domain.ids
        entries := Function.update domain.entries id (some ⟨body, domain.mode id, []⟩) }
    if body = .none then added else added.calculatePosition id footing

def removeEntity (footing : Int → Footing) : PlantDomain :=
  if domain.isEntry id then
    let detached := (domain.plantedOn id).elim domain fun on => domain.detach on id
    let erased :=
      { detached with
        ids := domain.ids.filter (· ≠ id)
        entries := Function.update detached.entries id none }
    (detached.attachedOf id).foldl
      (fun current attached => current.calculatePosition attached (footing attached)) erased
  else domain

def applyTransform (hasPosition : Bool) (footing : Footing) :
    PlantDomain :=
  if domain.isEntry id then
    let planted := domain.plantOnEntity id
      ((domain.plantedOn id).filter fun on => on ≠ id ∧ (on = domain.owner ∨ domain.isEntry on))
    if hasPosition then planted.calculatePosition id footing else planted
  else domain

/-- Set `mode_data`.  The domain places the entity again. -/
def setModeData :
    PlantDomain :=
  let set := domain.setData id data
  if domain.isEntry id then set.calculatePosition id footing else set

/-- `ModeProperty::apply`, which may reset `mode_data`. -/
def modeApply (mode : Mode) (footing : Footing) : PlantDomain :=
  let set := { domain with mode := Function.update domain.mode id mode }
  if (domain.modeData id).getMode ≠ mode ∧ (domain.modeData id).getMode ≠ .unknown then
    set.setModeData id .null footing
  else set

/-- Is what is attached made free too? -/
def becomesFree (body : Body) (mode : Mode) : Bool :=
  body = .rigid true ∧ mode ≠ .planted ∧ mode ≠ .fixed

/-- Set `mode`, with a bound on the depth. -/
def setMode (footing : Int → Footing × Footing) (mode : Mode) : Nat → PlantDomain → Int →
    PlantDomain
  | 0, domain, _ => domain
  | depth + 1, domain, id =>
    let applied := domain.modeApply id mode (footing id).1
    match domain.entries id with
    | none => applied
    | some entry =>
      if entry.body = .none ∨ mode = entry.mode then applied
      else
        let placed := applied.calculatePosition id (footing id).2
        let freed :=
          if becomesFree entry.body mode then
            let detached := placed.plantOnEntity id none
            (detached.attachedOf id).foldl (setMode footing mode depth) detached
          else placed
        freed.modifyEntry id fun entry => { entry with mode := mode }

/-- What happens to a physical domain and to the entities, in it or outside. -/
inductive PlantEvent where
  | add (id : Int) (body : Body) (footing : Footing)
  | remove (id : Int) (footing : Int → Footing)
  | transform (id : Int) (hasPosition : Bool) (footing : Footing)
  | setMode (id : Int) (mode : Mode) (footing : Int → Footing × Footing)
  | setModeData (id : Int) (data : ModeData) (footing : Footing)

def step : PlantEvent → PlantDomain
  | .add id body footing => domain.addEntity id body footing
  | .remove id footing => domain.removeEntity id footing
  | .transform id hasPosition footing => domain.applyTransform id hasPosition footing
  | .setMode id mode footing => setMode footing mode (domain.ids.length + 1) domain id
  | .setModeData id data footing => domain.setModeData id data footing

/-- A new domain, for any properties. -/
def start (owner : Int) (mode : Int → Mode) (modeData : Int → ModeData) : PlantDomain :=
  ⟨owner, [], fun _ => none, [], mode, modeData⟩

/-- Owner of the domain, or an entity in it. -/
def Member : Prop :=
  id = domain.owner ∨ domain.isEntry id = true

end PlantDomain

end Cyphesis.Simulation
