import Cyphesis.Ruleset.TypeNode

/-!
# Factories of entity types

The factory of a class has the attributes of its instances: those of the parent with its own class
attributes combined into them. A change is carried over to the type node and the factories below.
`RuleBook` is the state that rules work on.
-/

namespace Cyphesis.Ruleset

open Std (ExtTreeMap)
open Cyphesis.Atlas
open Cyphesis.Foundation

/-- What a rule says about one attribute. -/
structure ClassAttribute where
  defaultValue : Element
  append : Element
  prepend : Element
  subtract : Element
  addFraction : Element

def ClassAttribute.combine (classAttribute : ClassAttribute) (existing : Element) : Element :=
  let existing :=
    if classAttribute.defaultValue.isNone then existing else classAttribute.defaultValue
  let existing :=
    if classAttribute.addFraction.isNone then existing
    else Rules.AddFractionModifier.process classAttribute.addFraction existing existing
  let existing :=
    if classAttribute.subtract.isNone then existing
    else Rules.SubtractModifier.process classAttribute.subtract existing existing
  let existing :=
    if classAttribute.prepend.isNone then existing
    else Rules.PrependModifier.process classAttribute.prepend existing existing
  if classAttribute.append.isNone then existing
  else Rules.AppendModifier.process classAttribute.append existing existing

/-- What a map of a rule describes. -/
def ClassAttribute.ofMap (attr : List (String × Element)) : ClassAttribute :=
  { defaultValue := (attr.lookup "default").getD .none
    append := (attr.lookup "append").getD .none
    prepend := (attr.lookup "prepend").getD .none
    subtract := (attr.lookup "subtract").getD .none
    addFraction := (attr.lookup "add_fraction").getD .none }

abbrev ClassAttributes : Type :=
  ExtTreeMap String ClassAttribute compare

/-- Combine one with what is inherited. -/
def combineInto (attributes : MapType) (name : String) (classAttribute : ClassAttribute) :
    MapType :=
  attributes.insert name (classAttribute.combine (attributes[name]?.getD .none))

/-- The attributes of a class, its own and with those of its parent, and its children. -/
structure EntityFactory where
  classAttributes : ClassAttributes
  attributes : MapType
  parent : Option String
  children : List String

structure ArchetypeFactory where
  entities : ExtTreeMap String MapType compare
  thoughts : List Element
  classEntities : ExtTreeMap String MapType compare
  classThoughts : List Element
  parent : Option String
  children : List String

/-- The two classes derived from `EntityKit`. -/
inductive EntityKit where
  | entity (factory : EntityFactory)
  | archetype (factory : ArchetypeFactory)

variable (factory : EntityFactory)

/-- `populateEntityFactory`, for an attribute. -/
def EntityFactory.populateEntry (name : String) (value : Element) :
    EntityFactory :=
  match value with
  | .map attr =>
    let classAttribute := ClassAttribute.ofMap attr
    { factory with
      attributes := combineInto factory.attributes name classAttribute
      classAttributes := factory.classAttributes.insert name classAttribute }
  -- An attribute that is not a map is reported and skipped.
  | _ => factory

/-- `EntityRuleHandler::populateEntityFactory` -/
def EntityFactory.populate (description : Description) : EntityFactory :=
  match description.attributes with
  | some attributes => attributes.foldl EntityFactory.populateEntry factory
  | none => factory

/-- What a child takes in `updateProperties`. -/
def EntityFactory.inherit (attributes : MapType) : EntityFactory :=
  { factory with attributes := factory.classAttributes.foldl combineInto attributes }

/-- `populateArchetypeFactory`, for an entity. -/
def ArchetypeFactory.populateEntity (factory : ArchetypeFactory) (entity : Element) :
    ArchetypeFactory :=
  match entity with
  | .map entries =>
    let id :=
      match entries.lookup "id" with
      | some (.string id) => id
      | _ => ""
    let assign := fun (map : MapType) =>
      entries.foldl (fun map entry => map.insert entry.1 entry.2) map
    { factory with
      entities := factory.entities.insert id (assign (factory.entities[id]?.getD ∅))
      classEntities :=
        factory.classEntities.insert id (assign (factory.classEntities[id]?.getD ∅)) }
  | _ => factory

/-- `populateArchetypeFactory`. -/
def ArchetypeFactory.populate (factory : ArchetypeFactory) (description : Description) :
    ArchetypeFactory :=
  let factory := (description.entities.getD []).foldl ArchetypeFactory.populateEntity factory
  let thoughts := description.thoughts.getD []
  { factory with
    thoughts := factory.thoughts ++ thoughts
    classThoughts := factory.classThoughts ++ thoughts }

/-- Attributes of an archetype's type. -/
def ArchetypeFactory.attributes (factory : ArchetypeFactory) : MapType :=
  ((∅ : MapType).insert "entities"
      (.list (factory.entities.toList.map fun entry => .map entry.2.toList))).insert
    "thoughts" (.list factory.thoughts)

/-- A rule that waits for another one. -/
structure RuleWaiting where
  desc : Description
  reason : String

/-- What the server knows of types: their nodes, their factories and the rules that wait. -/
structure RuleBook where
  atlasObjects : ExtTreeMap String TypeNode compare
  entityFactories : ExtTreeMap String EntityKit compare
  propertyFactories : PropertyManager
  /-- The awaited rule, and the waiting. -/
  waitingRules : List (String × RuleWaiting)

/-- The updates made by a batch. -/
abbrev Changes : Type :=
  ExtTreeMap String PropertiesUpdate compare

namespace RuleBook

variable (book : RuleBook) (name : String)

/-- `getClassFactory`, for an entity class. -/
def entityFactory : Option EntityFactory :=
  match book.entityFactories[name]? with
  | some (.entity factory) => some factory
  | _ => none

/-- `getClassFactory`, for an archetype. -/
def archetypeFactory : Option ArchetypeFactory :=
  match book.entityFactories[name]? with
  | some (.archetype factory) => some factory
  | _ => none

def setEntityFactory (factory : EntityFactory) : RuleBook :=
  { book with entityFactories := book.entityFactories.insert name (.entity factory) }

def setType (node : TypeNode) : RuleBook :=
  { book with atlasObjects := book.atlasObjects.insert name node }

def hasClass : Bool :=
  book.atlasObjects.contains name

/-- `Inheritance::addChild`, which may fail. -/
def addChild (obj : Description) : Option RuleBook :=
  if book.hasClass obj.id then none
  else
    match book.atlasObjects[obj.parent]? with
    | none => none
    | some parentNode =>
      let description := parentNode.privateDescription
      let description :=
        { description with children := some (description.children.getD [] ++ [obj.id]) }
      let book := book.setType obj.parent (parentNode.setDescription description)
      some (book.setType obj.id { TypeNode.create obj.id obj with parent := some obj.parent })

/-- `Inheritance::updateClass`, which may fail. -/
def updateClass (description : Description) : RuleBook :=
  match book.atlasObjects[name]? with
  | none => book
  | some node =>
    if node.privateDescription.parent ≠ description.parent then book
    else book.setType name (node.setDescription description)

/-- `m_type->updateProperties`, noted once. -/
def updateType (changes : Changes) (name : String) (attributes : MapType) : RuleBook × Changes :=
  match book.atlasObjects[name]? with
  | none => (book, changes)
  | some node =>
    let updated := node.updateProperties attributes book.propertyFactories
    (book.setType name updated.1, changes.insertIfNew name updated.2)

def updateProperties : Nat → RuleBook × Changes → String → RuleBook × Changes
  | 0, result, _ => result
  | depth + 1, (book, changes), name =>
    match book.entityFactory name with
    | none => (book, changes)
    | some factory =>
      factory.children.foldl
        (fun (result : RuleBook × Changes) child =>
          match result.1.entityFactory child with
          | none => result
          | some childFactory =>
            updateProperties depth
              (result.1.setEntityFactory child (childFactory.inherit factory.attributes),
                result.2) child)
        (book.updateType changes name factory.attributes)

/-- No deeper than factories are many. -/
def depthBound : Nat :=
  book.entityFactories.size

end RuleBook

end Cyphesis.Ruleset
