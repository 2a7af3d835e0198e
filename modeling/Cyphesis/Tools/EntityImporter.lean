import Cyphesis.Tools.EntityExporter

/-!
# The entity importer

`EntityImporterBase` walks over the tree of a file and updates the entities that the server has, or
creates them. References that cannot be given at once are set when the walk is over.
-/

namespace Cyphesis.Tools

open Cyphesis.Atlas Cyphesis.Foundation Std

/-- A persisted entity and its contents. -/
structure PersistedEntity where
  id : String
  /-- The name of the type. -/
  parent : String
  attributes : List (String × Element)
  contains : List String

structure ReferencedEntry where
  propertyName : String
  referencedEntities : List String

mutual

def extractEntityReferences : Element → List String
  | .map entries => referencesOfEntries entries
  | .list items => referencesOfItems items
  | .none => []
  | .int _ => []
  | .float _ => []
  | .ptr _ => []
  | .string _ => []

/-- References in the entries of a map. -/
def referencesOfEntries : List (String × Element) → List String
  | [] => []
  | (key, value) :: rest =>
    (match reference? key value with
      | some id => [id]
      | none => extractEntityReferences value) ++ referencesOfEntries rest

/-- The references in the items of a list. -/
def referencesOfItems : List Element → List String
  | [] => []
  | item :: rest => extractEntityReferences item ++ referencesOfItems rest

end

/-- `mPersistedEntities` and `mEntitiesWithReferenceAttributes`. -/
structure ImportTables where
  persistedEntities : ExtTreeMap String PersistedEntity compare := ∅
  entitiesWithReferenceAttributes : ExtTreeMap String (List ReferencedEntry) compare := ∅

variable (attributes : List (String × Element))

/-- Attributes that refer to others. -/
def referencedEntries : List ReferencedEntry :=
  attributes.filterMap fun entry =>
    if entry.1 ∈ ["id", "parent", "contains", "~contains"] then none
    else
      let references := extractEntityReferences entry.2
      if references.isEmpty then none else some ⟨entry.1, references⟩

def registerEntityReferences (tables : ImportTables) (id : String)
    (attributes : List (String × Element)) : ImportTables :=
  let entries := referencedEntries attributes
  if entries.isEmpty then tables
  else
    { tables with
      entitiesWithReferenceAttributes := tables.entitiesWithReferenceAttributes.insert id
        (tables.entitiesWithReferenceAttributes.getD id [] ++ entries) }

/-- The entities an entity lists. -/
def listedContains : List String :=
  match attributes.lookup "contains" with
  | some (.list items) => items.filterMap fun item => match item with
      | .string id => some id
      | _ => none
  | _ => []

mutual

/-- One entity of `extractChildEntities`. -/
def extractEntity (tables : ImportTables) : ExportedEntity → ImportTables × List String
  | .mk message contains =>
    match message.id with
    | none => (tables, [])
    | some id =>
      let nested := extractChildEntities (registerEntityReferences tables id
        message.attributes) contains
      let entity : PersistedEntity :=
        { id := id
          parent := message.parent.getD ""
          attributes := message.attributes
          contains := listedContains message.attributes ++ nested.2 }
      ({ nested.1 with
          persistedEntities := nested.1.persistedEntities.insertIfNew id entity }, [id])

def extractChildEntities (tables : ImportTables) : List ExportedEntity → ImportTables × List String
  | [] => (tables, [])
  | entity :: rest =>
    let first := extractEntity tables entity
    let others := extractChildEntities first.1 rest
    (others.1, first.2 ++ others.2)

end

/-- States of the importer. -/
inductive ImportState where
  | init
  | walkStart
  | updating
  | creating
  | walking
  | refResolving
  | cancel
  | cancelled
  deriving DecidableEq

structure StackEntry where
  obj : PersistedEntity
  /-- The identifier on the server, once restored. -/
  restoredId : String := ""
  /-- The children behind the current one, if any. -/
  childrenLeft : Option (List String) := none

/-- The operations the importer sends. -/
inductive Request where
  | look
  | get (id : String)
  | create (id loc parent : String) (attributes : List (String × Element))
  | update (id : String) (attributes : List (String × Element))
  | resolve (id createdId : String) (attributes : List (String × Element))

/-- The importer, with the operations it has sent and the responses it awaits. -/
structure EntityImporterBase extends ImportTables where
  alwaysCreateNewEntities : Bool
  state : ImportState := .init
  treeStack : List StackEntry := []
  newIds : List String := []
  entityIdMap : List (String × String) := []
  createEntityMapping : List (Nat × String) := []
  setOpsInTransit : Int := 0
  serialno : Nat := 0
  sent : List Request := []
  awaited : Option Nat := none
  awaitedSets : Nat := 0
  completions : Nat := 0
  faulted : Bool := false

namespace EntityImporterBase

mutual

def resolveEntityReferences (mapping : String → Option String) : Element → Element
  | .map entries => .map (resolveEntries mapping entries)
  | .list items => .list (resolveItems mapping items)
  | .none => .none
  | .int value => .int value
  | .float value => .float value
  | .ptr address => .ptr address
  | .string value => .string value

/-- Entries of a map. -/
def resolveEntries (mapping : String → Option String) :
    List (String × Element) → List (String × Element)
  | [] => []
  | (key, value) :: rest =>
    (match reference? key value with
      | some id => (key, .string ((mapping id).getD id))
      | none => (key, resolveEntityReferences mapping value)) :: resolveEntries mapping rest

/-- The items of a list. -/
def resolveItems (mapping : String → Option String) : List Element → List Element
  | [] => []
  | item :: rest => resolveEntityReferences mapping item :: resolveItems mapping rest

end

variable (importer : EntityImporterBase) (id : String)

/-- What a persisted entity was created as. -/
def created? : Option String :=
  importer.entityIdMap.lookup id

/-- `sendOperation`, with a new serial number. -/
def sendOperation (request : Request) : EntityImporterBase :=
  { importer with
    sent := importer.sent ++ [request]
    serialno := importer.serialno + 1
    awaited := some (importer.serialno + 1) }

def complete : EntityImporterBase :=
  { importer with completions := importer.completions + 1 }

/-- Setting the references of one entity. -/
def sendResolved (entry : String × List ReferencedEntry) :
    EntityImporterBase :=
  match importer.created? entry.1 with
  | none => importer
  | some createdId =>
    match importer.persistedEntities[entry.1]? with
    | none => { importer with faulted := true }
    | some persistedEntity =>
      { importer with
        sent := importer.sent ++ [.resolve entry.1 createdId
          (entry.2.map fun referenceEntry => (referenceEntry.propertyName,
            resolveEntityReferences importer.created?
              ((persistedEntity.attributes.lookup referenceEntry.propertyName).getD .none)))]
        serialno := importer.serialno + 1
        setOpsInTransit := importer.setOpsInTransit + 1
        awaitedSets := importer.awaitedSets + 1 }

def sendResolvedEntityReferences : EntityImporterBase :=
  let resolving := { importer with state := .refResolving }
  if importer.entitiesWithReferenceAttributes.isEmpty then resolving.complete
  else importer.entitiesWithReferenceAttributes.toList.foldl sendResolved resolving

/-- Is what an attribute refers to created? -/
def isResolved (entry : ReferencedEntry) : Bool :=
  entry.referencedEntities.all fun id => (importer.created? id).isSome

variable (obj : PersistedEntity)

/-- What the Create operation carries. -/
def createAttributes : List (String × Element) :=
  let entries := importer.entitiesWithReferenceAttributes.getD obj.id []
  obj.attributes.filterMap fun property =>
    if property.1 = "contains" ∨ property.1 = "velocity" then none
    else match entries.find? fun entry => entry.propertyName == property.1 with
      | none => some property
      | some entry =>
        if importer.isResolved entry then
          some (property.1, resolveEntityReferences importer.created? property.2)
        else none

/-- References that are left for later. -/
def unresolvedReferences : ExtTreeMap String (List ReferencedEntry) compare :=
  match importer.entitiesWithReferenceAttributes[id]? with
  | none => importer.entitiesWithReferenceAttributes
  | some entries =>
    let unresolved := entries.filter fun entry => !importer.isResolved entry
    if unresolved.isEmpty then importer.entitiesWithReferenceAttributes.erase id
    else importer.entitiesWithReferenceAttributes.insert id unresolved

def createEntity : EntityImporterBase :=
  match importer.treeStack with
  | _ :: above :: _ =>
    sendOperation
      { importer with
        state := .creating
        entitiesWithReferenceAttributes := importer.unresolvedReferences obj.id
        createEntityMapping := (importer.serialno + 1, obj.id) :: importer.createEntityMapping }
      (.create obj.id above.restoredId obj.parent (importer.createAttributes obj))
  | _ => { importer with faulted := true }

/-- `getEntity`, of one in the file. -/
def getEntity : Option EntityImporterBase :=
  match importer.persistedEntities[id]? with
  | none => none
  | some obj =>
    some (sendOperation
      { importer with state := .walking, treeStack := { obj := obj } :: importer.treeStack }
      (.get id))

def getOrCreateEntity : Option EntityImporterBase :=
  if importer.alwaysCreateNewEntities && id != "0" then
    match importer.persistedEntities[id]? with
    | none => none
    | some obj =>
      some (createEntity
        { importer with state := .walking, treeStack := { obj := obj } :: importer.treeStack }
        obj)
  else
    importer.getEntity id

/-- Loop over the children on the stack. -/
def walkChildren (importer : EntityImporterBase) (entry : StackEntry) (above : List StackEntry) :
    List String → Option EntityImporterBase
  | [] => none
  | id :: rest =>
    match getOrCreateEntity
        { importer with treeStack := { entry with childrenLeft := some rest } :: above } id with
    | some walked => some walked
    | none => walkChildren importer entry above rest

/-- Pops until a child is left. -/
def walkParents (importer : EntityImporterBase) : List StackEntry → EntityImporterBase
  | [] => sendResolvedEntityReferences { importer with treeStack := [] }
  | entry :: above =>
    match entry.childrenLeft with
    | none => { importer with faulted := true }
    | some rest =>
      match walkChildren importer entry above rest with
      | some walked => walked
      | none => walkParents importer above

def walkEntities : EntityImporterBase :=
  match importer.treeStack with
  | [] => importer.sendResolvedEntityReferences
  | current :: above =>
    if current.obj.contains.isEmpty then walkParents importer above
    else
      match walkChildren importer current above current.obj.contains with
      | some walked => walked
      | none =>
        { importer with treeStack := { current with childrenLeft := some [] } :: above }

/-- Argument of an Info. -/
structure InfoArgument where
  id : String := ""
  parent : String := ""
  isEntity : Bool := true
  hasLoc : Bool := true

/-- Argument of a Sight. -/
inductive SightArgument where
  | object (id : Option String)
  | operation (isUpdate : Bool)

/-- A response to an operation. -/
inductive Answer where
  | info (args : List InfoArgument)
  | error
  | sight (args : List SightArgument)
  | other

def errorArrived : EntityImporterBase :=
  match importer.state with
  | .walking =>
    match importer.treeStack with
    | [] => { importer with faulted := true }
    | current :: _ => importer.createEntity current.obj
  | .creating => importer.walkEntities
  | _ => importer

variable (refno : Nat)

/-- Bookkeeping for an entity that was created. -/
def recordCreated (id : String)
    (current : StackEntry) (above : List StackEntry) : EntityImporterBase :=
  let entered := { importer with
    newIds := id :: importer.newIds
    treeStack := { current with restoredId := id } :: above }
  match importer.createEntityMapping.lookup refno with
  | none => entered
  | some persistedId =>
    { entered with
      entityIdMap := if (importer.created? persistedId).isSome then importer.entityIdMap
        else (persistedId, id) :: importer.entityIdMap
      createEntityMapping := importer.createEntityMapping.filter fun entry => entry.1 ≠ refno }

/-- Is an entity created that the server knows? -/
def createsAnew (arg : InfoArgument) (obj : PersistedEntity) :
    Bool :=
  importer.newIds.contains arg.id || (importer.treeStack.length != 1 && !arg.hasLoc) ||
    arg.parent != obj.parent

/-- Attributes of a Set for an update. -/
def updateAttributes : List (String × Element) :=
  obj.attributes.filter fun property => property.1 ≠ "contains" ∧ property.1 ≠ "stamp"

def infoArrived : List InfoArgument → EntityImporterBase
  | [] => importer
  | arg :: _ =>
    match importer.state, importer.treeStack with
    | .creating, [] => { importer with faulted := true }
    | .creating, current :: above =>
      (importer.recordCreated refno arg.id current above).walkEntities
    | .walking, stack =>
      if !arg.isEntity then importer
      else match stack with
        | [] => { importer with faulted := true }
        | current :: above =>
          if arg.id ≠ current.obj.id then { importer with faulted := true }
          else if importer.createsAnew arg current.obj then
            importer.createEntity current.obj
          else
            sendOperation
              { importer with
                state := .updating
                treeStack := { current with restoredId := arg.id } :: above }
              (.update current.obj.id (updateAttributes current.obj))
    | _, _ => importer

def sightArrived : List SightArgument → EntityImporterBase
  | [] => importer
  | arg :: _ =>
    match importer.state, arg with
    | .walkStart, .object none => { importer with state := .cancel }
    | .walkStart, .object (some id) => (importer.getEntity id).getD importer
    | .updating, .operation true => importer.walkEntities
    | _, _ => importer

def operation (answer : Answer) :
    EntityImporterBase :=
  match importer.state with
  | .cancel => { importer with state := .cancelled }
  | .cancelled => importer
  | _ =>
    match answer with
    | .info args => importer.infoArrived refno args
    | .error => importer.errorArrived
    | .sight args => importer.sightArrived args
    | .other => importer

def operationSetResult : EntityImporterBase :=
  let answered := { importer with setOpsInTransit := importer.setOpsInTransit - 1 }
  if importer.state = .refResolving ∧ answered.setOpsInTransit = 0 then answered.complete
  else answered

/-- Answers that arrive in the walk, or later for the references. -/
inductive ImportEvent where
  | answered (answer : Answer)
  | setAnswered

def step : ImportEvent → EntityImporterBase
  | .answered answer =>
    match importer.awaited with
    | none => importer
    | some refno => operation { importer with awaited := none } refno answer
  | .setAnswered =>
    if importer.awaitedSets = 0 then importer
    else operationSetResult { importer with awaitedSets := importer.awaitedSets - 1 }

/-- `start`, up to the Look of `startEntityWalking`. -/
def started (alwaysCreateNewEntities : Bool) (entities : List ExportedEntity) :
    EntityImporterBase :=
  sendOperation
    { (extractChildEntities {} entities).1 with
      alwaysCreateNewEntities := alwaysCreateNewEntities, state := .walkStart }
    .look

end EntityImporterBase

end Cyphesis.Tools
