import Std.Data.ExtTreeMap
import Cyphesis.Server.Sessions

/-!
# The entity exporter

`EntityExporterBase` asks for an entity and everything in it, and writes a file with numbers for
identifiers. Identifier, type and nested entities, kept under `~contains` in the source, are kept
apart from the other attributes.
-/

namespace Cyphesis.Tools

open Cyphesis.Atlas Cyphesis.Foundation Std
open Cyphesis.Server (integerId)

/-- An entity as an Info operation carries it. -/
structure RootEntity where
  id : String
  /-- The name of the type. -/
  parent : String
  /-- Empty for the default location. -/
  loc : String := ""
  contains : List String := []
  attributes : List (String × Element) := []

/-- Attribute map of an exported entity. -/
structure EntityMessage where
  id : Option String := none
  parent : Option String := none
  attributes : List (String × Element) := []

/-- An entity of the file, with its `~contains`. -/
inductive ExportedEntity where
  | mk (message : EntityMessage) (contains : List ExportedEntity)

structure EntityEntry where
  loc : String := ""
  children : List String := []
  entity : EntityMessage := {}
  contains : List ExportedEntity := []

/-- `mEntityMap`. -/
abbrev EntityTable := ExtTreeMap String EntityEntry compare

def ignoredProperties : List String :=
  ["_modifiers", "_minds", "velocity", "loc", "stamp", "contains"]

/-- Last place of an item, or 0. -/
def lastMatch (items : List Element) (item : Element) : Nat → Nat
  | 0 => 0
  | place + 1 =>
    if items.getD (place + 1) .none == item then place + 1 else lastMatch items item place

/-- `extractListPrependAppend` -/
def extractListPrependAppend (typeList entityList : List Element) : List Element × List Element :=
  if entityList.length ≤ typeList.length then ([], [])
  else
    let last := entityList.length - 1
    let entityPrependIndex := match typeList.head? with
      | none => 0
      | some front => entityList.findIdx (· == front)
    let entityAppendIndex := match typeList.getLast? with
      | none => last
      | some back => lastMatch entityList back last
    let sublist := (entityList.take (entityAppendIndex + 1)).drop entityPrependIndex
    if (entityAppendIndex ≠ last ∨ entityPrependIndex ≠ 0) ∧
        entityPrependIndex ≤ entityAppendIndex ∧ Element.equalItems sublist typeList = true then
      (entityList.take entityPrependIndex, entityList.drop (entityAppendIndex + 1))
    else
      ([], [])

def extractMapPrepend (typeMap entityMap : List (String × Element)) : List (String × Element) :=
  if entityMap.length ≤ typeMap.length then []
  else if typeMap.all fun entry => match entityMap.lookup entry.1 with
      | none => false
      | some value => value == entry.2 then
    entityMap.filter fun entry => (typeMap.lookup entry.1).isNone
  else
    []

/-- Is a property left out, and what is added for it? -/
def comparedWithType (typeElement : Element) (entry : String × Element) :
    Bool × List (String × Element) :=
  if typeElement == entry.2 then (true, [])
  else match entry.2, typeElement with
    | .list entityList, .list typeList =>
      let result := extractListPrependAppend typeList entityList
      if result.1.isEmpty && result.2.isEmpty then (false, [])
      else
        (true, (if result.1.isEmpty then [] else [(entry.1 ++ "!prepend", .list result.1)]) ++
          if result.2.isEmpty then [] else [(entry.1 ++ "!append", .list result.2)])
    | .map entityMap, .map _ =>
      -- The source takes the map of the entity for the one of the type as well.
      let result := extractMapPrepend entityMap entityMap
      if result.isEmpty then (false, [])
      else (true, [(entry.1 ++ "!prepend", .map result)])
    | _, _ => (false, [])

/-- Nothing, an empty map or an empty list. -/
def isBlank : Element → Bool
  | .none => true
  | .map entries => entries.isEmpty
  | .list items => items.isEmpty
  | _ => false

/-- Nothing, or a vector that is zero. -/
def isZeroVector : Element → Bool
  | .none => true
  | .list items => Element.equalItems items [.float 0, .float 0, .float 0]
  | _ => false

/-- `map.insert`: an entry that exists stays. -/
def mapInsert (entries : List (String × Element)) (entry : String × Element) :
    List (String × Element) :=
  if (entries.lookup entry.1).isSome then entries else mapAssign entry.1 entry.2 entries

/-- A property of an entity of a known type. -/
def pruned (typeProperties : List (String × Element)) (entry : String × Element) :
    Bool × List (String × Element) :=
  match typeProperties.lookup entry.1 with
  | some typeElement => comparedWithType typeElement entry
  | none => (isBlank entry.2, [])

/-- Attributes that `dumpEntity` records. -/
def persistedAttributes (typeProperties : Option (List (String × Element)))
    (attributes : List (String × Element)) : List (String × Element) :=
  let changes : List (String × Bool × List (String × Element)) := match typeProperties with
    | none => []
    | some properties => attributes.map fun entry => (entry.1, pruned properties entry)
  let attributesToRemove := ignoredProperties ++ (changes.filter fun change => change.2.1).map (·.1)
  let kept := attributes.filter fun entry =>
    entry.1 ∉ attributesToRemove ∧
      ¬ ((entry.1 = "angular" ∨ entry.1 = "_propel") ∧ isZeroVector entry.2 = true)
  (changes.flatMap fun change => change.2.2).foldl mapInsert kept

/-- A non-empty map or list. -/
def hasElements : Element → Bool
  | .map entries => !entries.isEmpty
  | .list items => !items.isEmpty
  | _ => false

/-- An empty map or list. -/
def hasNoElements : Element → Bool
  | .map entries => entries.isEmpty
  | .list items => items.isEmpty
  | _ => false

/-- Was everything taken out of it? -/
def emptied (before after : Element) : Bool :=
  hasElements before && hasNoElements after

/-- The string under `$eid` in a reference. -/
def reference? (key : String) (value : Element) : Option String :=
  if key = "$eid" then
    match value with
    | .string id => some id
    | _ => none
  else none

mutual

/-- `EntityExporterBase::resolveEntityReferences` -/
def resolveEntityReferences (mapping : String → Option String) : Element → Element
  | .map entries => .map (resolveEntries mapping entries)
  | .list items => .list (resolveItems mapping items)
  | .none => .none
  | .int value => .int value
  | .float value => .float value
  | .ptr address => .ptr address
  | .string value => .string value

/-- Entries of a map. -/
def resolveEntries (mapping : String → Option String) :
    List (String × Element) → List (String × Element)
  | [] => []
  | (key, value) :: rest =>
    match reference? key value with
    | some id =>
      match mapping id with
      | some persistedId => (key, .string persistedId) :: resolveEntries mapping rest
      | none => resolveEntries mapping rest
    | none =>
      if emptied value (resolveEntityReferences mapping value) then
        resolveEntries mapping rest
      else (key, resolveEntityReferences mapping value) :: resolveEntries mapping rest

/-- The items of a list. -/
def resolveItems (mapping : String → Option String) : List Element → List Element
  | [] => []
  | item :: rest =>
    if emptied item (resolveEntityReferences mapping item) then resolveItems mapping rest
    else resolveEntityReferences mapping item :: resolveItems mapping rest

end

/-- After `adjustReferencedEntities`. -/
def adjustedAttributes (mapping : String → Option String) (attributes : List (String × Element)) :
    List (String × Element) :=
  attributes.filterMap fun entry =>
    let resolved := resolveEntityReferences mapping entry.2
    if emptied entry.2 resolved then none else some (entry.1, resolved)

/-- A rule as an Info operation carries it. -/
structure Rule where
  id : String
  parent : Option String := none
  children : List String := []
  properties : Option (List (String × Element)) := none

/-- The exporter, with the requests it awaits and what it has written. -/
structure EntityExporterBase where
  exportTransient : Bool := false
  preserveIds : Bool := false
  rootEntityId : String
  typeProperties : List (String × List (String × Element)) := []
  transientTypes : List String := []
  outstandingGetRequestCounter : Int := 0
  entityQueue : List String := []
  idMapping : List (String × String) := []
  entityMap : EntityTable := ∅
  cancelled : Bool := false
  complete : Bool := false
  awaitedRules : List String := []
  awaitedEntities : List String := []
  exports : List (List ExportedEntity) := []

/-- `mEntityMap[id]`, which is made if missing. -/
def EntityTable.edit (table : EntityTable) (id : String) (change : EntityEntry → EntityEntry) :
    EntityTable :=
  table.insert id (change (table.getD id {}))

namespace EntityExporterBase

variable (exporter : EntityExporterBase)

/-- The identifier an entity gets in the file. -/
def persistedId (id : String) : String :=
  if !exporter.preserveIds && id != "0" then toString exporter.entityMap.size else id

/-- Identifier in `mIdMapping`. -/
def mapped? (id : String) : Option String :=
  exporter.idMapping.lookup id

def dumpEntity (ent : RootEntity) : EntityExporterBase :=
  let persistedId := exporter.persistedId ent.id
  let message : EntityMessage :=
    { id := some persistedId
      parent := some ent.parent
      attributes := persistedAttributes (exporter.typeProperties.lookup ent.parent) ent.attributes }
  let entered := exporter.entityMap.edit ent.id fun entry =>
    { entry with entity := message, loc := ent.loc }
  { exporter with
    -- `emplace` keeps the first number of an entity that is dumped again.
    idMapping := if (exporter.mapped? ent.id).isSome then exporter.idMapping
      else (ent.id, persistedId) :: exporter.idMapping
    entityMap := if ent.loc = "" then entered
      else entered.edit ent.loc fun entry => { entry with children := entry.children ++ [ent.id] } }

def adjustReferencedEntities : EntityTable :=
  exporter.entityMap.map fun _ entry =>
    { entry with
      entity := { entry.entity with
        attributes := adjustedAttributes exporter.mapped? entry.entity.attributes } }

/-- One child in `populateChildEntities`. -/
def populateChild
    (populate : EntityTable → List ExportedEntity → List String →
      Option (EntityTable × List ExportedEntity))
    (result : EntityTable × List ExportedEntity) (childId : String) :
    Option (EntityTable × List ExportedEntity) :=
  match result.1[childId]? with
  | none => none
  | some child =>
    if child.children.isEmpty then
      some (result.1, result.2 ++ [.mk child.entity child.contains])
    else
      match populate result.1 child.contains child.children with
      | none => none
      | some (table, contains) =>
        some (table.modify childId fun entry => { entry with contains := contains },
          result.2 ++ [.mk child.entity contains])

/-- `populateChildEntities`, if it ends. -/
def populateChildEntities : Nat → EntityTable → List ExportedEntity → List String →
    Option (EntityTable × List ExportedEntity)
  | 0, _, _, _ => none
  | depth + 1, table, contains, children =>
    children.foldlM (populateChild (populateChildEntities depth)) (table, contains)

/-- Written with its contents. -/
def writeTopLevel (depth : Nat) (result : EntityTable × List ExportedEntity) (id : String) :
    Option (EntityTable × List ExportedEntity) :=
  match result.1[id]? with
  | none => some result
  | some entry =>
    if entry.loc = "" then
      match populateChildEntities depth result.1 entry.contains entry.children with
      | none => none
      | some (table, contains) =>
        some (table.modify id fun entry => { entry with entity := {}, contains := [] },
          result.2 ++ [.mk entry.entity contains])
    else
      some result

/-- The written entities as a tree, given a bound on the nesting. -/
def writeEntities (table : EntityTable) : Option (List ExportedEntity) :=
  (table.keys.foldlM (writeTopLevel (table.size + 1)) (table, [])).map (·.2)

/-- `EntityExporterBase::complete`. -/
def completed : EntityExporterBase :=
  match writeEntities exporter.adjustReferencedEntities with
  | none => exporter
  | some entities =>
    { exporter with entityMap := ∅, complete := true, exports := exporter.exports ++ [entities] }

/-- Loop of `pollQueue`. -/
def requestQueued (exporter : EntityExporterBase) : List String → EntityExporterBase
  | [] => { exporter with entityQueue := [] }
  | id :: rest =>
    if exporter.outstandingGetRequestCounter < 5 then
      requestQueued
        { exporter with
          outstandingGetRequestCounter := exporter.outstandingGetRequestCounter + 1
          awaitedEntities := exporter.awaitedEntities ++ [id] } rest
    else
      { exporter with entityQueue := id :: rest }

def pollQueue : EntityExporterBase :=
  if exporter.entityQueue = [] ∧ exporter.outstandingGetRequestCounter = 0 then
    exporter.completed
  else
    exporter.requestQueued exporter.entityQueue

/-- Is the entity left out, being transient? -/
def shouldSkip (ent : RootEntity) : Bool :=
  !exporter.exportTransient &&
    match ent.attributes.lookup "transient" with
    | some value => value.isNum && value.asNum != 0
    | none => exporter.transientTypes.contains ent.parent

/-- Argument of an operation. -/
inductive Argument where
  | entity (ent : RootEntity)
  | other

/-- Response to a request for an entity. -/
inductive Response where
  | info (args : List Argument)
  | error
  | other

def infoArrived : List Argument → EntityExporterBase
  | [] => exporter
  | .other :: _ => exporter
  | .entity ent :: _ =>
    if exporter.shouldSkip ent then exporter.pollQueue
    else
      let contains := ent.contains.insertionSort fun left right => integerId left ≤ integerId right
      let dumped := exporter.dumpEntity { ent with contains := contains }
      pollQueue { dumped with entityQueue := dumped.entityQueue ++ contains }

def operationGetResult (response : Response) :
    EntityExporterBase :=
  let answered := { exporter with
    outstandingGetRequestCounter := exporter.outstandingGetRequestCounter - 1 }
  if exporter.cancelled then answered
  else match response with
    | .info args => answered.infoArrived args
    | .error => answered
    | .other => answered

def startRequestingEntities : EntityExporterBase :=
  { exporter with
    outstandingGetRequestCounter := exporter.outstandingGetRequestCounter + 1
    awaitedEntities := exporter.awaitedEntities ++ [exporter.rootEntityId] }

def requestRule (rule : String) : EntityExporterBase :=
  { exporter with
    outstandingGetRequestCounter := exporter.outstandingGetRequestCounter + 1
    awaitedRules := exporter.awaitedRules ++ [rule] }

def cancel : EntityExporterBase :=
  { exporter with cancelled := true }

variable (rule : Rule)

/-- Does the rule make its entities transient? -/
def ruleTransient? : Option Bool :=
  match (rule.properties.getD []).lookup "transient" with
  | some (.int value) => some (value != 0)
  | _ => none

/-- Are the entities of a rule transient? -/
def isTransientRule : Bool :=
  match ruleTransient? rule with
  | some isTransient => isTransient
  | none => match rule.parent with
    | some parent => exporter.transientTypes.contains parent
    | none => false

/-- Recording a rule. -/
def recordRule : EntityExporterBase :=
  { exporter with
    typeProperties := match rule.properties with
      | some properties => (rule.id, properties) :: exporter.typeProperties
      | none => exporter.typeProperties
    transientTypes := if exporter.isTransientRule rule then rule.id :: exporter.transientTypes
      else exporter.transientTypes }

def operationGetRuleResult : Option Rule → EntityExporterBase
  | none => if exporter.cancelled then exporter else exporter.cancel
  | some rule =>
    if exporter.cancelled then exporter
    else
      let requested := rule.children.foldl requestRule (exporter.recordRule rule)
      let answered := { requested with
        outstandingGetRequestCounter := requested.outstandingGetRequestCounter - 1 }
      if answered.outstandingGetRequestCounter = 0 then answered.startRequestingEntities
      else answered

def start (entityId : String) : EntityExporterBase :=
  if exporter.complete || exporter.cancelled then exporter
  else requestRule { exporter with rootEntityId := entityId } "root"

/-- A response to a request, by its place. -/
inductive Arrival where
  | rule (place : Nat) (answer : Option Rule)
  | entity (place : Nat) (response : Response)

def step : Arrival → EntityExporterBase
  | .rule place answer =>
    if place < exporter.awaitedRules.length then
      operationGetRuleResult
        { exporter with awaitedRules := exporter.awaitedRules.eraseIdx place } answer
    else exporter
  | .entity place response =>
    if place < exporter.awaitedEntities.length then
      operationGetResult
        { exporter with awaitedEntities := exporter.awaitedEntities.eraseIdx place } response
    else exporter

/-- A new exporter that was started. -/
def started (exportTransient preserveIds : Bool) (rootEntityId : String) : EntityExporterBase :=
  start
    { exportTransient := exportTransient, preserveIds := preserveIds,
      rootEntityId := rootEntityId } rootEntityId

end EntityExporterBase

end Cyphesis.Tools
