import Cyphesis.Server.Sessions
import Cyphesis.Simulation.ModeData
import Cyphesis.Simulation.World

/-!
# Attachments

A `Wield` operation attaches an entity to another.  The property `attached_x` of the one refers to
the other, whose `mode_data` says that it is planted on the first, at `x`.  The domains reset
`mode_data` when an entity is moved into them, and so does the destruction of its container;
detaching resets it for whatever `attached_x` refers to.  A Move operation may bring a `mode` and
`mode_data` of its own, and a physical domain plants again what stood on an entity that leaves it.

Of the physics only the result is kept: what an entity is planted on.
-/

namespace Cyphesis.Simulation

open Cyphesis.Foundation
open Cyphesis.Server (integerId)

/-- Part of an entity that attaching uses. -/
structure AttachEntity where
  parent : Option Int
  domain : Option DomainKind
  mode : Mode
  modeData : ModeData
  attachments : List String
  attached : String → Option Int

/-- Its entities, and all ids in use. -/
structure AttachWorld where
  entities : Int → Option AttachEntity
  ids : List Int

namespace AttachWorld

variable (world : AttachWorld) (id : Int)

def parentOf : Option Int :=
  (world.entities id).bind AttachEntity.parent

def domainOf : Option DomainKind :=
  (world.entities id).bind AttachEntity.domain

def modeDataOf : Option ModeData :=
  (world.entities id).map AttachEntity.modeData

variable (attachment : String)

/-- What the property `attached_x` refers to. -/
def attachedTo : Option Int :=
  (world.entities id).bind fun entity => entity.attached attachment

/-- Change one entity. -/
def modify (change : AttachEntity → AttachEntity) : AttachWorld :=
  { world with
    entities := fun other => if other = id then (world.entities id).map change
      else world.entities other }

def setAttached (value : Option Int) :
    AttachWorld :=
  world.modify id fun entity =>
    { entity with attached := Function.update entity.attached attachment value }

variable (domain : Option DomainKind)

/-- The mode data, by what is below. -/
def settled (mode : Mode) (ground : Option Int) (data : ModeData) :
    ModeData :=
  if domain = some .physical ∧ mode = .planted then
    ground.elim data fun below => data.plantOnEntity (some below)
  else data

/-- Set `mode_data` and apply it. -/
def applyModeData (data : ModeData) (ground : Option Int) :
    AttachWorld :=
  world.modify id fun entity =>
    { entity with
      modeData := settled (entity.parent.bind world.domainOf) entity.mode ground data }

/-- Set `mode` and apply it: mode data of another mode are cleared. -/
def setMode (mode : Mode) (ground : Option Int) : AttachWorld :=
  world.modify id fun entity =>
    { entity with
      mode := mode
      modeData := settled (entity.parent.bind world.domainOf) mode ground
        (if entity.modeData.getMode ≠ mode ∧ entity.modeData.getMode ≠ .unknown then .null
        else entity.modeData) }

/-- A domain, if it is physical, plants an entity on another one or on nothing. -/
def replant (below : Option Int) : AttachWorld :=
  world.modify id fun entity =>
    { entity with
      modeData := if domain = some .physical then entity.modeData.plantOnEntity below
        else entity.modeData }

/-- A Wield operation, with the answers of the constraint and of the physics. -/
structure Wield where
  attachment : String
  id : String
  isMatch : Bool
  newGround : Option Int
  oldGround : Option Int

variable (wielder : Int)

/-- `AttachmentsProperty::extractEntityRef`. -/
def existing (attachment : String) : Option Int :=
  (world.attachedTo wielder attachment).filter fun id => (world.entities id).isSome

/-- `resetExistingEntityPlantedOn`. -/
def resetExisting (old : Option Int) (ground : Option Int) : AttachWorld :=
  old.elim world fun id => world.applyModeData id .null ground

/-- Leave it on the same wielder. -/
def leaveAttachment (data : ModeData) : AttachWorld :=
  match data with
  | .planted _ (some attachment) => world.setAttached wielder attachment none
  | _ => world

/-- Is it planted on another than the wielder? -/
def plantedElsewhere : ModeData → Bool
  | .planted entityId _ => entityId ≠ some wielder
  | _ => false

/-- `AttachmentsProperty::operation`, for a Wield of the entity. -/
def operation (op : Wield) : AttachWorld :=
  match world.entities wielder with
  | none => world
  | some entity =>
    if op.attachment ∉ entity.attachments then world
    else if (world.existing wielder op.attachment).any (fun old => op.id = toString old) then
      world
    else if op.id = "" then
      (world.setAttached wielder op.attachment none).resetExisting
        (world.existing wielder op.attachment) op.oldGround
    else
      match world.entities (integerId op.id) with
      | none => world
      | some new =>
        if op.isMatch = false ∨ plantedElsewhere wielder new.modeData then world
        else
          (((world.leaveAttachment wielder new.modeData).applyModeData (integerId op.id)
            (.planted (some wielder) (some op.attachment)) op.newGround).setAttached wielder
              op.attachment (some (integerId op.id))).resetExisting
                (world.existing wielder op.attachment) op.oldGround

/-- A stack it joins, and its place. -/
structure Arrival where
  merges : Bool
  ground : Option Int

/-- Mode data that `addEntity` leaves. -/
def received (kind : DomainKind) (owner : Int) (mode : Mode) (arrival : Arrival)
    (data : ModeData) : ModeData :=
  match kind with
  | .physical => settled (some .physical) mode arrival.ground data
  | .void => .null
  | .inventory =>
    if arrival.merges then data
    else if data.plantedOn.any (fun id => id ≠ owner) then .null else data
  | .stackable => if arrival.merges then data else .null
  | .container => if arrival.merges then data else .null

/-- Can an entity be moved there? -/
def canMove (id place : Int) : Bool :=
  world.parentOf id ≠ some place ∧ (world.entities place).isSome ∧
    meets world.parentOf (world.ids.length + 1) place id = false

def changeContainer (id place : Int) (arrival : Arrival) : AttachWorld :=
  world.modify id fun entity =>
    { entity with
      parent := some place
      modeData := (world.domainOf place).elim entity.modeData fun kind =>
        received kind place entity.mode arrival entity.modeData }

/-- For a message that names a place. -/
def moveOurselves (id place : Int) (arrival : Arrival) : AttachWorld :=
  if world.canMove id place then world.changeContainer id place arrival else world

/-- How a child is moved out of what is destroyed. -/
structure Eviction where
  child : Int
  ground : Option Int
  arrival : Arrival
  /-- What the domain it leaves plants other children on. -/
  replanted : Int → Option (Option Int)

/-- Move a child out of what is destroyed; what stood on it is planted again. -/
def evict (parent : Option Int) (children : List Int) (world : AttachWorld) (eviction : Eviction) :
    AttachWorld :=
  let reset := world.modify eviction.child fun entity =>
    { entity with modeData := settled domain entity.mode eviction.ground .null }
  match parent with
  | none => reset
  | some place =>
    if world.canMove eviction.child place then
      children.foldl
        (fun left other => (eviction.replanted other).elim left (left.replant other domain))
        (reset.changeContainer eviction.child place eviction.arrival)
    else world

def childrenOf : List Int :=
  world.ids.filter fun child => world.parentOf child = some id

/-- `Entity::destroy`, out of the world. -/
def destroy (ground : Int → Option Int) (arrival : Int → Arrival)
    (replanted : Int → Int → Option (Option Int)) : AttachWorld :=
  ((world.childrenOf id).map fun child =>
    ⟨child, ground child, arrival child, replanted child⟩).foldl
    (evict (world.domainOf id) (world.parentOf id) (world.childrenOf id))
    { world with entities := fun other => if other = id then none else world.entities other }

/-- A Move operation sets its `mode` and `mode_data` before the entity is moved. After a move, and
after a destruction, the domain that was left plants again what stood on the entity. -/
inductive AttachEvent where
  | wield (wielder : Int) (op : Wield)
  | setMode (id : Int) (mode : Mode) (ground : Option Int)
  | setModeData (id : Int) (data : ModeData) (ground : Option Int)
  | move (id place : Int) (arrival : Arrival)
  | replant (id : Int) (below : Option Int)
  | destroy (id : Int) (ground : Int → Option Int) (arrival : Int → Arrival)
      (replanted : Int → Int → Option (Option Int))

def step : AttachEvent → AttachWorld
  | .wield wielder op => world.operation wielder op
  | .setMode id mode ground => world.setMode id mode ground
  | .setModeData id data ground => world.applyModeData id data ground
  | .move id place arrival => world.moveOurselves id place arrival
  | .replant id below => world.replant id ((world.parentOf id).bind world.domainOf) below
  | .destroy id ground arrival replanted => world.destroy id ground arrival replanted

/-- Both records of every attachment agree. -/
def Consistent : Prop :=
  ∀ wielder attachment id, (world.entities wielder).isSome →
    (world.attachedTo wielder attachment = some id ↔
      world.modeDataOf id = some (.planted (some wielder) (some attachment)))

end AttachWorld

end Cyphesis.Simulation
