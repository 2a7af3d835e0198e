import Cyphesis.Ruleset.EntityFactory

/-!
# Installing and modifying single rules

A rule handler for each kind of rule: operations, entity classes, property types and archetypes.
-/

namespace Cyphesis.Ruleset

open Std (ExtTreeMap)
open Cyphesis.Foundation

/-- Zero, less, or what is awaited and why. -/
inductive InstallResult where
  | installed (result : RuleBook × Changes)
  | failed
  | waits (dependent reason : String)

namespace RuleBook

variable (book : RuleBook)

def installFactory (description : Description) (kit : EntityKit) :
    Option RuleBook :=
  (book.addChild description).map fun book =>
    { book with entityFactories := book.entityFactories.insertIfNew description.id kit }

/-- `m_type->addProperties` -/
def addProperties (book : RuleBook) (name : String) (attributes : MapType) : RuleBook :=
  match book.atlasObjects[name]? with
  | none => book
  | some node => book.setType name (node.addProperties attributes book.propertyFactories)

/-- Classes with factories, `mFactories`. -/
def predefinedFactories : List String :=
  ["world", "thing"]

/-- A new factory, or why there is none. -/
def newEntityFactory (name parent : String) : EntityFactory ⊕ String :=
  let fresh : EntityFactory :=
    { classAttributes := ∅, attributes := ∅, parent := none, children := [] }
  if parent = "game_entity" then
    if name ∈ predefinedFactories then .inl fresh
    else .inr ("Entity rule \"" ++ name ++ "\" has parent 'game_entity' and requires a " ++
      "pre-defined entity factory, which could not be found.")
  else
    match book.entityFactory parent with
    | none => .inr ("Entity rule \"" ++ name ++ "\" has parent \"" ++ parent ++
        "\" which does not exist.")
    | some parentFactory =>
      if name ∈ predefinedFactories then .inl { fresh with parent := some parent }
      else .inl { fresh with parent := some parent, attributes := parentFactory.attributes }

variable (changes : Changes)

/-- Enter the new class, and update the parent. -/
def joinParent (name parent : String) : RuleBook × Changes :=
  match book.entityFactory parent with
  | none => (book, changes)
  | some parentFactory =>
    let book := book.setEntityFactory parent
      { parentFactory with children := parentFactory.children ++ [name] }
    updateProperties book.depthBound (book, changes) parent

variable (description : Description)

def installEntityClass :
    InstallResult :=
  match book.newEntityFactory description.id description.parent with
  | .inr reason => .waits description.parent reason
  | .inl factory =>
    let factory := factory.populate description
    match book.installFactory description (.entity factory) with
    | none => .failed
    | some book =>
      .installed ((book.addProperties description.id factory.attributes).joinParent changes
        description.id description.parent)

/-- `none` without a factory. -/
def modifyEntityClass : Option (RuleBook × Changes) :=
  match book.entityFactory description.id with
  | none => none
  | some factory =>
    let inherited :=
      match factory.parent.bind book.entityFactory with
      | some parentFactory => parentFactory.attributes
      | none => ∅
    let factory :=
      { factory with attributes := inherited, classAttributes := ∅ }.populate description
    let book := book.setEntityFactory description.id factory
    some (updateProperties book.depthBound (book, changes) description.id)

def installOpDefinition :
    InstallResult :=
  if !book.hasClass description.parent then
    .waits description.parent ("Operation \"" ++ description.id ++ "\" has parent \"" ++
      description.parent ++ "\" which does not exist.")
  else
    match book.addChild description with
    | none => .failed
    | some book => .installed (book, changes)

/-- `PropertyRuleHandler::install`; a failure is ignored. -/
def installPropertyType :
    InstallResult :=
  if book.propertyFactories.contains description.id then .failed
  else
    match book.propertyFactories[description.parent]? with
    | none => .waits description.parent ("Property rule \"" ++ description.id ++
        "\" has parent \"" ++ description.parent ++ "\" which does not exist.")
    | some kit =>
      match book.addChild description with
      | none => .installed (book, changes)
      | some book =>
        .installed
          ({ book with
             propertyFactories := book.propertyFactories.insertIfNew description.id kit },
            changes)

def installArchetypeClass :
    InstallResult :=
  match book.archetypeFactory description.parent with
  | none => .waits description.parent ("Entity rule \"" ++ description.id ++ "\" has parent \"" ++
      description.parent ++ "\" which does not exist.")
  | some parentFactory =>
    let factory :=
      { parentFactory with
        classEntities := ∅
        classThoughts := []
        parent := some description.parent
        children := [] : ArchetypeFactory }.populate description
    match book.installFactory description (.archetype factory) with
    | none => .failed
    | some book =>
      let book := book.addProperties description.id factory.attributes
      match book.archetypeFactory description.parent with
      | none => .installed (book, changes)
      | some parentFactory =>
        .installed
          ({ book with
             entityFactories := book.entityFactories.insert description.parent
               (.archetype
                 { parentFactory with
                   children := parentFactory.children ++ [description.id] }) },
            changes)

/-- Longest name of a rule, `consts::id_len`. -/
def idLen : Nat := 32

def installRuleInner :
    InstallResult :=
  if idLen < description.id.utf8ByteSize then .failed
  else if description.parent = "" then .failed
  else
    match description.objtype with
    | .opDefinition => book.installOpDefinition changes description
    | .entityClass => book.installEntityClass changes description
    | .propertyType => book.installPropertyType changes description
    | .archetype => book.installArchetypeClass changes description
    | .other => .failed

/-- `none` is the error return. -/
def modifyRuleInner : Option (RuleBook × Changes) :=
  match book.atlasObjects[description.id]? with
  | none => none
  | some node =>
    if description.parent = "" then none
    else if description.parent ≠ node.privateDescription.parent then none
    else
      match description.objtype with
      -- There is nothing to be modified in operations and property types.
      | .opDefinition => some (book, changes)
      | .entityClass => book.modifyEntityClass changes description
      | .propertyType => some (book, changes)
      | .archetype => none
      | .other => none

end RuleBook

end Cyphesis.Ruleset
