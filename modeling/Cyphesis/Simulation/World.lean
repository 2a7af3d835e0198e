import Cyphesis.Atlas.Element
import Cyphesis.Foundation.Forest
import Mathlib.Algebra.Group.Nat.Defs

/-!
# Entities in the world

The domain of an entity decides what happens to what is moved into it; in an inventory or a
container stacks of a kind join. The deletion of an entity without amount is the parameter
`delEntity`. The effects of a domain on other properties, the types, and the order of addresses are
collected in `Ruleset`.
-/

namespace Cyphesis.Simulation

open Cyphesis.Atlas
open Cyphesis.Foundation

/-- The domains `DomainProperty` creates. -/
inductive DomainKind where
  | physical
  | void
  | inventory
  | stackable
  | container
  deriving DecidableEq

/-- `stackable` has a flag and delegates. -/
structure Entity where
  type : String
  parent : Option Nat
  contains : Option (List Nat)
  destroyed : Bool
  domainProperty : Option DomainKind
  domain : Option DomainKind
  stackable : Bool
  amount : Option Int
  properties : List (String × Element)

namespace Entity

/-- The contents, if any. -/
def children (entity : Entity) : List Nat :=
  entity.contains.getD []

/-- `requirePropertyClassFixed<AmountProperty>(1)` -/
def requireAmount (entity : Entity) : Int :=
  entity.amount.getD 1

end Entity

/-- What the rules and the process decide. -/
structure Ruleset where
  /-- The order in which a set is traversed. -/
  address : Nat → Nat
  /-- The domain of a type by default. -/
  typeDomain : String → Option DomainKind
  /-- The amount of a type by default. -/
  typeAmount : String → Option Int
  /-- The effect of `Domain::addEntity`. -/
  received : DomainKind → List (String × Element) → List (String × Element)
  /-- The effect of `Domain::removeEntity`. -/
  released : DomainKind → List (String × Element) → List (String × Element)

/-- The own amount, that of the type, or one. -/
def Entity.amountOf (rules : Ruleset) (entity : Entity) : Int :=
  (entity.amount.or (rules.typeAmount entity.type)).getD 1

/-- Entities, registered ones, next id. -/
structure World where
  entity : Nat → Entity
  eobjects : Finset Nat
  nextId : Nat

/-- Identifier of the base entity. -/
def baseId : Nat := 0

/-- Messages have 64 bits, `AmountProperty` 32. -/
def toInt32 (value : Int) : Int :=
  value.bmod (2 ^ 32)

/-- Location, amount, and other attributes. -/
structure MoveArgument where
  id : Nat
  loc : Option Nat
  amount : Option Int
  attributes : List (String × Element)

/-- The attributes an entity is created with. -/
structure EntityAttributes where
  type : String
  domain : Option DomainKind
  amount : Option Int
  properties : List (String × Element)

/-- Entities of an archetype, or one. -/
inductive EntityTree where
  | node (attributes : EntityAttributes) (contained : List EntityTree)

namespace World

variable (world : World) (id : Nat)

/-- Change one entity. -/
def modify (change : Entity → Entity) : World :=
  { world with entity := Function.update world.entity id (change (world.entity id)) }

/-- Assign to `data()` of the amount property. -/
def setAmount (amount : Int) : World :=
  world.modify id fun entity => { entity with amount := some amount }

def parentOf : Option Nat :=
  (world.entity id).parent

def childrenOf : List Nat :=
  (world.entity id).children

/-- Insert into a set ordered by address. -/
def insertChild (rules : Ruleset) (child : Nat) (children : List Nat) : List Nat :=
  if child ∈ children then children
  else
    children.takeWhile (fun other => rules.address other < rules.address child) ++
      child :: children.dropWhile (fun other => rules.address other < rules.address child)

/-- `Domain::removeEntity` of its domain. -/
def domainRemoveEntity (rules : Ruleset) (world : World) (domainEntity id : Nat) : World :=
  match (world.entity domainEntity).domain with
  | none => world
  | some kind =>
    world.modify id fun entity =>
      { entity with properties := rules.released kind entity.properties }

def removeChild (rules : Ruleset) (world : World) (parent child : Nat) : World :=
  (domainRemoveEntity rules world parent child).modify parent fun entity =>
    { entity with contains := entity.contains.map fun children => children.filter (· ≠ child) }

/-- An entity that has a parent leaves it. -/
def detach (rules : Ruleset) (world : World) (id : Nat) : World :=
  match world.parentOf id with
  | none => world
  | some parent => removeChild rules world parent id

/-- `LocatedEntity::addChild`. -/
def linkChild (rules : Ruleset) (world : World) (parent child : Nat) : World :=
  (world.modify parent fun entity =>
      { entity with contains := some (insertChild rules child entity.children) }).modify child
    fun entity => { entity with parent := some parent }

/-- What may differ within one stack. -/
def ignoredProps : List String :=
  ["pos", "orientation", "mode_data", "amount", "id", "stamp", "mode"]

/-- What entities of one stack share. -/
def stackProperties (entity : Entity) : List (String × Element) :=
  entity.properties.filter fun property => property.1 ∉ ignoredProps

def checkEntitiesStackable (first second : Entity) : Bool :=
  first.parent = second.parent && first.contains = second.contains &&
    first.domainProperty = second.domainProperty &&
    Element.equalEntries (stackProperties first) (stackProperties second)

section Delete

variable (delEntity : World → Nat → World)

/-- `Thing::DeleteOperation`. -/
def thingDeleteOperation (world : World) (id : Nat) : World :=
  match world.parentOf id with
  | none => world
  | some _ => delEntity world id

/-- A Delete, which the domain may block. -/
def deleteOperation (world : World) (id : Nat) (asked : Option Int) : World :=
  let entity := world.entity id
  if entity.stackable then
    let amount := toInt32 (asked.getD 1)
    if amount < 0 then world
    else
      let required := world.setAmount id entity.requireAmount
      if 0 < toInt32 (entity.requireAmount - amount) then
        required.setAmount id (toInt32 (entity.requireAmount - amount))
      else thingDeleteOperation delEntity required id
  else thingDeleteOperation delEntity world id

/-- `AmountProperty::apply`. -/
def applyAmount (world : World) (id : Nat) : World :=
  let entity := world.entity id
  if entity.stackable then
    if entity.requireAmount ≤ 0 then deleteOperation delEntity world id none else world
  else world.setAmount id 1

/-- After an entity has joined it. -/
def mergedAmount (world : World) (stack id : Nat) : Int :=
  toInt32 ((world.entity stack).requireAmount + (world.entity id).requireAmount)

/-- Join an entity to a stack, and delete it. -/
def merge (world : World) (stack id : Nat) : World :=
  let applied := applyAmount delEntity (world.setAmount stack (world.mergedAmount stack id)) stack
  applyAmount delEntity (applied.setAmount id 0) id

/-- Can the entity join this stack? -/
def joins (world : World) (id stack : Nat) : Bool :=
  stack ≠ id && (world.entity stack).type = (world.entity id).type &&
    (world.entity stack).stackable &&
    checkEntitiesStackable (world.entity stack) (world.entity id)

def stackIfPossible (world : World) (domainEntity id : Nat) : Option World :=
  if (world.entity id).stackable then
    ((world.childrenOf domainEntity).find? (world.joins id)).map fun stack =>
      merge delEntity world stack id
  else none

variable (rules : Ruleset)

/-- A domain lets the entity in. -/
def receive (world : World) (kind : DomainKind) (id : Nat) : World :=
  world.modify id fun entity =>
    { entity with properties := rules.received kind entity.properties }

/-- `Domain::addEntity` of its domain. -/
def domainAddEntity (world : World) (domainEntity id : Nat) : World :=
  match (world.entity domainEntity).domain with
  | none => world
  | some .physical => receive rules world .physical id
  | some .void => receive rules world .void id
  | some .stackable =>
    if (world.entity domainEntity).stackable &&
        (world.entity domainEntity).type = (world.entity id).type &&
        checkEntitiesStackable (world.entity domainEntity) (world.entity id) then
      merge delEntity world domainEntity id
    else receive rules world .stackable id
  | some .inventory =>
    (stackIfPossible delEntity world domainEntity id).getD (receive rules world .inventory id)
  | some .container =>
    (stackIfPossible delEntity world domainEntity id).getD (receive rules world .container id)

def addChild (world : World) (parent child : Nat) : World :=
  domainAddEntity delEntity rules (linkChild rules world parent child) parent child

def changeContainer (world : World) (id newLoc : Nat) : World :=
  addChild delEntity rules (detach rules world id) newLoc id

/-- `EntityFactoryBase::initializeEntity`. -/
def newEntity (attributes : EntityAttributes) : Entity :=
  let domain := attributes.domain.or (rules.typeDomain attributes.type)
  { type := attributes.type
    parent := none
    contains := none
    destroyed := false
    domainProperty := attributes.domain
    domain := domain
    stackable := domain = some .stackable
    amount := attributes.amount.map fun amount =>
      if rules.typeDomain attributes.type = some .stackable then toInt32 amount else 1
    properties := attributes.properties }

/-- Not yet registered, with the next id. -/
def allocate (world : World) (attributes : EntityAttributes) : World :=
  { world with
    entity := Function.update world.entity world.nextId (newEntity rules attributes)
    nextId := world.nextId + 1 }

mutual

/-- `ArchetypeFactory::createEntity`. -/
def createEntity (world : World) : EntityTree → World × Nat
  | .node attributes contained =>
    (createContained (allocate rules world attributes) world.nextId contained, world.nextId)

/-- Loop over an archetype's entities. -/
def createContained (world : World) (id : Nat) : List EntityTree → World
  | [] => world
  | tree :: rest =>
    let created := createEntity world tree
    createContained (changeContainer delEntity rules created.1 created.2 id) id rest

end

/-- Enter an entity into the registry. -/
def register (world : World) (id : Nat) : World :=
  { world with eobjects := insert id world.eobjects }

/-- `WorldRouter::addEntity`, up to a height. -/
def addEntity : Nat → World → Nat → Nat → World
  | 0, world, _, _ => world
  | height + 1, world, id, parent =>
    let added := changeContainer delEntity rules (world.register id) id parent
    (added.childrenOf id).foldl (fun current child => addEntity height current child id) added

def addNewEntity (world : World) (tree : EntityTree) (loc : Nat) : World :=
  let created := createEntity delEntity rules world tree
  if loc ∈ created.1.eobjects then
    addEntity delEntity rules created.1.nextId created.1 created.2 loc
  else created.1

/-- The attributes set before the move. -/
def setMoveAttributes (world : World) (id : Nat) (argument : MoveArgument) : World :=
  let sets := argument.attributes.filter fun attr =>
    attr.1 = "mode_data" || attr.1 = "planted_offset" || attr.1 = "_propel" ||
      attr.1 = "mode" && attr.2.getType = .string
  world.modify id fun entity =>
    { entity with
      properties := sets.foldl (fun current set => mapAssign set.1 set.2 current)
        entity.properties }

/-- `Thing::moveOurselves`, which may refuse. -/
def moveOurselves (world : World) (id : Nat) (argument : MoveArgument) : World :=
  match argument.loc with
  | none => setMoveAttributes world id argument
  | some newLoc =>
    if world.parentOf id = some newLoc then setMoveAttributes world id argument
    else if newLoc ∉ world.eobjects then world
    else if meets world.parentOf world.eobjects.card newLoc id then world
    else changeContainer delEntity rules (setMoveAttributes world id argument) id newLoc

/-- How much is moved; one by default. -/
def movedAmount (data : Int) (asked : Option Int) : Int :=
  max 0 (min data (toInt32 (asked.getD 1)))

/-- The attributes of the new entity when a stack is split. -/
def splitAttributes (owner : Entity) (amount : Int) : EntityAttributes :=
  { type := owner.type
    domain := owner.domainProperty
    amount := some amount
    properties := owner.properties }

/-- A part becomes a new one in the base. -/
def split (world : World) (id : Nat) (amount : Int) : World :=
  let owner := world.entity id
  let created := addNewEntity delEntity rules world (.node (splitAttributes owner amount) []) baseId
  created.setAmount id (owner.requireAmount - amount)

variable (moveNew : World → Nat → MoveArgument → World)

/-- `StackableDomain::MoveOperation`: does it block? -/
def stackableMoveOperation (world : World) (id : Nat) (argument : MoveArgument) : World × Bool :=
  let data := (world.entity id).requireAmount
  let required := world.setAmount id data
  let amount := movedAmount data argument.amount
  if amount = 0 then (required, true)
  else if amount = data then (required, false)
  else
    (moveNew (split delEntity rules required id amount) required.nextId
      { argument with id := required.nextId, amount := some amount }, true)

/-- `Entity::operation` for its own Move. -/
def moveOperationWith (world : World) (id : Nat) (argument : MoveArgument) : World :=
  if (world.entity id).stackable then
    match stackableMoveOperation delEntity rules moveNew world id argument with
    | (blocked, true) => blocked
    | (passed, false) => moveOurselves delEntity rules passed id argument
  else moveOurselves delEntity rules world id argument

/-- Moving an entity, in two levels at most. -/
def moveSelf (world : World) (id : Nat) (argument : MoveArgument) : World :=
  moveOperationWith delEntity rules
    (moveOperationWith delEntity rules fun unsplit _ _ => unsplit) world id argument

/-- `LocatedEntity::destroy`. -/
def locatedEntityDestroy (world : World) (id : Nat) : World :=
  (detach rules world id).modify id fun entity =>
    { entity with parent := none, domain := none, destroyed := true }

/-- What `Entity::destroy` sends to a child. -/
def rehomeArgument (world : World) (id child : Nat) : MoveArgument :=
  { id := child
    loc := world.parentOf id
    amount := none
    attributes := [("mode_data", .none)] }

/-- A child of a destroyed entity is moved. -/
def rehome (id : Nat) (world : World) (child : Nat) : World :=
  moveSelf delEntity rules world child (rehomeArgument world id child)

/-- Set the flag `entity_destroyed`. -/
def markDestroyed (world : World) (id : Nat) : World :=
  world.modify id fun entity => { entity with destroyed := true }

/-- `Entity::destroy`: children go to the parent. -/
def destroy (world : World) (id : Nat) : World :=
  let marked := world.markDestroyed id
  let emptied := (marked.childrenOf id).foldl (rehome delEntity rules id) marked
  locatedEntityDestroy rules emptied id

/-- The entity is struck off the registry. -/
def unregister (world : World) (id : Nat) : World :=
  { world with eobjects := world.eobjects.erase id }

end Delete

/-- `WorldRouter::delEntity`, with a bound. -/
def delEntity (rules : Ruleset) : Nat → World → Nat → World
  | 0, world, _ => world
  | depth + 1, world, id =>
    if id = baseId then world
    else (destroy (delEntity rules depth) rules world id).unregister id

section Operations

variable (rules : Ruleset) (depth : Nat)

/-- `Entity::operation` for its own Move. -/
def moveTarget (world : World) (argument : MoveArgument) : World :=
  if argument.id = baseId then world
  else moveSelf (delEntity rules depth) rules world argument.id argument

/-- `Thing::moveOtherEntity`. -/
def moveOtherEntity (sendOn : Nat → World) (world : World) (id : Nat) (argument : MoveArgument) :
    World :=
  if argument.id ∈ world.eobjects then
    match argument.loc with
    | none =>
      if argument.id ∈ world.childrenOf id then moveTarget rules depth world argument
      else world
    | some newLoc =>
      if newLoc = id then moveTarget rules depth world argument
      else if argument.id ∈ world.childrenOf id ∧ newLoc ∈ world.eobjects then sendOn newLoc
      else world
  else world

/-- The `MoveOperation` that is sent no further. -/
def moveOperationOn (world : World) (argument : MoveArgument) (id : Nat) : World :=
  if id = baseId then world
  else if id = argument.id then moveTarget rules depth world argument
  else moveOtherEntity rules depth (fun _ => world) world id argument

/-- Delivered to an entity by the world. -/
def moveOperation (world : World) (id : Nat) (argument : MoveArgument) : World :=
  if id ∈ world.eobjects ∧ (world.entity id).destroyed = false ∧ id ≠ baseId then
    if id = argument.id then moveTarget rules depth world argument
    else moveOtherEntity rules depth (moveOperationOn rules depth world argument) world id argument
  else world

/-- Operations that change what contains what. -/
inductive Operation where
  | addNewEntity (tree : EntityTree) (loc : Nat)
  | move (id : Nat) (argument : MoveArgument)
  | delete (id : Nat) (amount : Option Int)
  | forceDelete (id : Nat)

/-- Perform an operation. -/
def perform (world : World) : Operation → World
  | .addNewEntity tree loc => addNewEntity (delEntity rules depth) rules world tree loc
  | .move id argument => moveOperation rules depth world id argument
  | .delete id amount =>
    if id ∈ world.eobjects ∧ (world.entity id).destroyed = false ∧ id ≠ baseId then
      deleteOperation (delEntity rules depth) world id amount
    else world
  | .forceDelete id => if id ∈ world.eobjects then delEntity rules depth world id else world

end Operations

end World

end Cyphesis.Simulation
