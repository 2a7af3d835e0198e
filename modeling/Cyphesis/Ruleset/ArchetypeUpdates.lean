import Cyphesis.Foundation.Lineage
import Cyphesis.Ruleset.Batch

/-!
# Changes of archetypes

An archetype holds its own entities and thoughts, and those of the archetypes above it.
-/

namespace Cyphesis.Ruleset

open Std (ExtTreeMap)
open Cyphesis.Atlas Option Std.ExtTreeMap
open Cyphesis.Common
open Cyphesis.Foundation

/-- Attributes of each entity. -/
abbrev Entities : Type :=
  ExtTreeMap String MapType compare

/-- What a child takes in `updateProperties`. -/
def ArchetypeFactory.inherit (factory parent : ArchetypeFactory) : ArchetypeFactory :=
  { factory with
    thoughts := parent.thoughts ++ factory.classThoughts
    entities := parent.entities }

namespace RuleBook

variable (book : RuleBook)

def setArchetypeFactory (name : String) (factory : ArchetypeFactory) : RuleBook :=
  { book with entityFactories := book.entityFactories.insert name (.archetype factory) }

/-- `ArchetypeFactory::updateProperties`. -/
def updateArchetype : Nat → RuleBook × Changes → String → RuleBook × Changes
  | 0, result, _ => result
  | depth + 1, (book, changes), name =>
    match book.archetypeFactory name with
    | none => (book, changes)
    | some factory =>
      factory.children.foldl
        (fun (result : RuleBook × Changes) child =>
          match result.1.archetypeFactory child with
          | none => result
          | some childFactory =>
            updateArchetype depth
              (result.1.setArchetypeFactory child (childFactory.inherit factory), result.2)
              child)
        (book.updateType changes name factory.attributes)

/-- What an archetype takes from its parent. -/
def inheritedContents (factory : ArchetypeFactory) : Entities × List Element :=
  match factory.parent.bind book.archetypeFactory with
  | some parentFactory => (parentFactory.entities, parentFactory.thoughts)
  -- This is reported, and not fatal.
  | none => (∅, [])

/-- `none` without a factory. -/
def modifyArchetypeClass (changes : Changes) (description : Description) :
    Option (RuleBook × Changes) :=
  match book.archetypeFactory description.id with
  | none => none
  | some factory =>
    let factory :=
      { factory with
        entities := (book.inheritedContents factory).1
        thoughts := (book.inheritedContents factory).2
        classEntities := ∅
        classThoughts := [] : ArchetypeFactory }.populate description
    let book := book.setArchetypeFactory description.id factory
    some (updateArchetype book.depthBound (book, changes) description.id)

end RuleBook

/-- Value of an attribute of an entity. -/
def Entities.attribute (entities : Entities) (id name : String) : Option Element :=
  entities[id]?.bind fun entity => entity[name]?

/-- Attributes with others entered over them. -/
def overlayEntity (inherited own : MapType) : MapType :=
  own.foldl (fun merged name value => merged.insert name value) inherited

/-- Entities with others entered over them. -/
def overlay (inherited own : Entities) : Entities :=
  own.foldl (fun merged id entity => merged.insert id (overlayEntity (merged[id]?.getD ∅) entity))
    inherited

theorem overlayEntity_getElem? (inherited own : MapType) (name : String) :
    (overlayEntity inherited own)[name]? = own[name]?.or inherited[name]? := by
  have slot := foldl_map_slot (fun map name => (map : MapType)[name]?)
    (fun (merged : MapType) name value => merged.insert name value) (fun _ value _ => some value)
    (by simp) (by
      intro map name value other different
      simp [getElem?_insert, Ne.symm different]) own inherited name
  rw [overlayEntity, slot]
  cases own[name]? <;> rfl

variable (inherited own : Entities)

theorem overlay_getElem? (id : String) :
    (overlay inherited own)[id]? = own[id]?.elim inherited[id]? fun entity =>
      some (overlayEntity (inherited[id]?.getD ∅) entity) := by
  exact foldl_map_slot (fun map id => (map : Entities)[id]?)
    (fun (merged : Entities) id entity =>
      merged.insert id (overlayEntity (merged[id]?.getD ∅) entity))
    (fun _ entity held => some (overlayEntity (held.getD ∅) entity)) (by simp) (by
      intro map id entity other different
      simp [getElem?_insert, Ne.symm different]) own inherited id

theorem attribute_overlay (id name : String) :
    (overlay inherited own).attribute id name =
      (own.attribute id name).or (inherited.attribute id name) := by
  unfold Entities.attribute
  rw [overlay_getElem?]
  cases own[id]? with
  | none => rfl
  | some entity =>
    rw [elim_some, bind_some, bind_some, overlayEntity_getElem?]
    cases inherited[id]? with
    | none => simp
    | some old => rfl

@[simp]
theorem overlay_empty : overlay inherited ∅ = inherited := by
  apply ext_getElem?
  intro id
  rw [overlay_getElem?]
  simp

theorem overlayEntity_insert (inherited own : MapType) (name : String) (value : Element) :
    overlayEntity inherited (own.insert name value) =
      (overlayEntity inherited own).insert name value := by
  apply ext_getElem?
  intro other
  rw [overlayEntity_getElem?, getElem?_insert, getElem?_insert, overlayEntity_getElem?]
  split_ifs <;> rfl

theorem overlayEntity_foldl_insert (inherited own : MapType) (entries : List (String × Element)) :
    overlayEntity inherited (entries.foldl (fun map entry => map.insert entry.1 entry.2) own) =
      entries.foldl (fun map entry => map.insert entry.1 entry.2)
        (overlayEntity inherited own) := by
  induction entries generalizing own with
  | nil => rfl
  | cons entry rest ih => rw [List.foldl_cons, ih, overlayEntity_insert, List.foldl_cons]

@[simp]
theorem overlayEntity_empty (inherited : MapType) : overlayEntity inherited ∅ = inherited := by
  apply ext_getElem?
  intro name
  rw [overlayEntity_getElem?]
  simp

/-- Enter an entity of a rule over entities. -/
def enterEntity (entities : Entities) (entity : Element) : Entities :=
  match entity with
  | .map entries =>
    let id :=
      match entries.lookup "id" with
      | some (.string id) => id
      | _ => ""
    entities.insert id
      (entries.foldl (fun map entry => map.insert entry.1 entry.2) (entities[id]?.getD ∅))
  | _ => entities

variable (description : Description)

/-- The entities a rule defines itself. -/
def Description.ownEntities : Entities :=
  (description.entities.getD []).foldl enterEntity ∅

/-- The thoughts a rule defines itself. -/
def Description.ownThoughts : List Element :=
  description.thoughts.getD []

theorem overlay_enterEntity (entity : Element) :
    overlay inherited (enterEntity own entity) = enterEntity (overlay inherited own) entity := by
  cases entity with
  | map entries =>
    apply ext_getElem?
    intro other
    rw [overlay_getElem?, enterEntity, enterEntity, getElem?_insert, getElem?_insert]
    split_ifs with same
    · rw [Std.LawfulEqCmp.compare_eq_iff_eq] at same
      rw [same, elim_some, overlayEntity_foldl_insert, overlay_getElem?]
      cases own[other]? with
      | none => simp
      | some entity => rfl
    · rw [overlay_getElem?]
  | _ => rfl

theorem overlay_foldl_enterEntity (entities : List Element) :
    overlay inherited (entities.foldl enterEntity own) =
      entities.foldl enterEntity (overlay inherited own) := by
  induction entities generalizing own with
  | nil => rfl
  | cons entity rest ih => rw [List.foldl_cons, ih, overlay_enterEntity, List.foldl_cons]

namespace ArchetypeFactory

variable (factory : ArchetypeFactory)

theorem populateEntity_eq (entity : Element) :
    factory.populateEntity entity =
      { factory with
        entities := enterEntity factory.entities entity
        classEntities := enterEntity factory.classEntities entity } := by
  cases entity <;> rfl

theorem populateEntities_eq (entities : List Element) :
    entities.foldl populateEntity factory =
      { factory with
        entities := entities.foldl enterEntity factory.entities
        classEntities := entities.foldl enterEntity factory.classEntities } := by
  induction entities generalizing factory with
  | nil => rfl
  | cons entity rest ih => rw [List.foldl_cons, ih, populateEntity_eq]; rfl

theorem populate_eq (description : Description)
    (noEntities : factory.classEntities = ∅) (noThoughts : factory.classThoughts = []) :
    factory.populate description =
      { factory with
        entities := overlay factory.entities description.ownEntities
        classEntities := description.ownEntities
        thoughts := factory.thoughts ++ description.ownThoughts
        classThoughts := description.ownThoughts } := by
  unfold populate
  rw [populateEntities_eq, noEntities, noThoughts, Description.ownEntities,
    overlay_foldl_enterEntity, overlay_empty]
  rfl

/-- Place of an archetype in the forest. -/
def place : Option String × List String :=
  (factory.parent, factory.children)

/-- The place stays, and the own rule. -/
def frame : (Option String × List String) × Entities × List Element :=
  (factory.place, factory.classEntities, factory.classThoughts)

end ArchetypeFactory

/-- A property that holds what it was given last. -/
def Property.Plain (property : Property) : Prop :=
  ∀ held value, property.store held value = value

variable (node : TypeNode)

/-- A default property with this value. -/
def TypeNode.Publishes (name : String) (value : Element) : Prop :=
  ∃ property, node.defaults[name]? = some property ∧
    (property.get = value ∨ (property.get == value) = true)

/-- The type has what the archetype has. -/
def TypeNode.PublishesContents (factory : ArchetypeFactory) : Prop :=
  node.Publishes "entities" (.list (factory.entities.toList.map fun entry => .map entry.2.toList)) ∧
    node.Publishes "thoughts" (.list factory.thoughts)

/-- The two attributes have no property class. -/
def PropertyManager.NoContents (manager : PropertyManager) : Prop :=
  manager["entities"]? = none ∧ manager["thoughts"]? = none

/-- The two attributes are plain. -/
def TypeNode.PlainContents : Prop :=
  ∀ name property, (name = "entities" ∨ name = "thoughts") →
    node.defaults[name]? = some property → property.Plain

theorem ArchetypeFactory.attributes_getElem? (factory : ArchetypeFactory) :
    factory.attributes["entities"]? =
        some (.list (factory.entities.toList.map fun entry => .map entry.2.toList)) ∧
      factory.attributes["thoughts"]? = some (.list factory.thoughts) := by
  have different : ¬ "thoughts" = "entities" := by decide
  unfold attributes
  constructor
  · rw [getElem?_insert, if_neg (by simp [different]), getElem?_insert_self]
  · rw [getElem?_insert_self]

section Contents

variable {manager : PropertyManager} {name : String}
  (isContents : name = "entities" ∨ name = "thoughts")

include isContents

theorem canBeDefault_of_contents : PropertyUtil.isValidName name = true := by
  rcases isContents with rfl | rfl
  · decide +kernel
  · decide +kernel

variable (noContents : manager.NoContents)

include noContents

theorem addProperty_contents :
    (manager.addProperty name).hasFlags propFlagInstance = false ∧
      (manager.addProperty name).store = fun _ value => value := by
  have noKit : manager[name]? = none := by
    rcases isContents with rfl | rfl
    · exact noContents.1
    · exact noContents.2
  unfold PropertyManager.addProperty
  rw [noKit]
  refine ⟨?_, rfl⟩
  rcases isContents with rfl | rfl
  · decide +kernel
  · decide +kernel

theorem updateProperties_publishes {node : TypeNode} (plain : node.PlainContents)
    {attributes : MapType} {value : Element} (isAttribute : attributes[name]? = some value) :
    ∃ property, (node.updateProperties attributes manager).1.defaults[name]? = some property ∧
      property.Plain ∧ (property.get = value ∨ (property.get == value) = true) := by
  obtain ⟨notInstance, store⟩ := addProperty_contents isContents noContents
  rw [TypeNode.updateProperties_default_of_attribute manager isAttribute]
  unfold TypeNode.updatedDefault
  rw [canBeDefault_of_contents isContents, notInstance]
  simp only [Bool.not_true, Bool.false_eq_true, if_false]
  cases held : node.defaults[name]? with
  | none =>
    refine ⟨_, rfl, fun _ _ => ?_, Or.inl ?_⟩
    · change (manager.addProperty name).store _ _ = _
      rw [store]
    · change (manager.addProperty name).store _ _ = _
      rw [store]
  | some property =>
    have isPlain := plain name property isContents held
    by_cases differs : (property.get != value) = true
    · refine ⟨property.set value, if_pos differs, isPlain, Or.inl ?_⟩
      exact isPlain _ _
    · refine ⟨property, if_neg differs, isPlain, Or.inr ?_⟩
      simpa [bne] using differs

theorem madeDefault_publishes (value : Element) :
    ∃ property, TypeNode.madeDefault manager name value = some property ∧ property.Plain ∧
      (property.get = value ∨ (property.get == value) = true) := by
  obtain ⟨notInstance, store⟩ := addProperty_contents isContents noContents
  unfold TypeNode.madeDefault
  rw [canBeDefault_of_contents isContents, notInstance]
  refine ⟨_, rfl, fun _ _ => ?_, Or.inl ?_⟩
  · change (manager.addProperty name).store _ _ = _
    rw [store]
  · change (manager.addProperty name).store _ _ = _
    rw [store]

end Contents

namespace RuleBook

/-- Links agree and ranks rise. -/
structure ArchetypeForest (book : RuleBook) (rank : String → Nat) : Prop where
  listed : ∀ {name factory parent}, book.archetypeFactory name = some factory →
    factory.parent = some parent →
    ∃ parentFactory, book.archetypeFactory parent = some parentFactory ∧
      name ∈ parentFactory.children
  child : ∀ {name factory child}, book.archetypeFactory name = some factory →
    child ∈ factory.children →
    ∃ childFactory, book.archetypeFactory child = some childFactory ∧
      childFactory.parent = some name
  rank_lt : ∀ {name factory parent}, book.archetypeFactory name = some factory →
    factory.parent = some parent → rank parent < rank name
  rank_bound : ∀ {name factory}, book.archetypeFactory name = some factory →
    rank name < book.depthBound
  typed : ∀ {name factory}, book.archetypeFactory name = some factory →
    ∃ node, book.atlasObjects[name]? = some node ∧ node.PlainContents

/-- Only merged and published parts differ. -/
structure SameFrame (book changed : RuleBook) : Prop where
  frames : ∀ name, (changed.archetypeFactory name).map ArchetypeFactory.frame =
    (book.archetypeFactory name).map ArchetypeFactory.frame
  kits : ∀ name : String, changed.entityFactories[name]?.isSome = book.entityFactories[name]?.isSome
  types : ∀ name, changed.hasClass name = book.hasClass name
  depthBound : changed.depthBound = book.depthBound
  manager : changed.propertyFactories = book.propertyFactories

theorem SameFrame.trans {first second third : RuleBook} (left : SameFrame first second)
    (right : SameFrame second third) : SameFrame first third where
  frames name := (right.frames name).trans (left.frames name)
  kits name := (right.kits name).trans (left.kits name)
  types name := (right.types name).trans (left.types name)
  depthBound := right.depthBound.trans left.depthBound
  manager := right.manager.trans left.manager

/-- Parent of an archetype. -/
def archetypeParent (book : RuleBook) (name : String) : Option String :=
  (book.archetypeFactory name).bind ArchetypeFactory.parent

theorem archetypeParent_of_known {book : RuleBook} {name : String} {factory : ArchetypeFactory}
    (known : book.archetypeFactory name = some factory) :
    book.archetypeParent name = factory.parent := by
  rw [archetypeParent, known, bind_some]

theorem archetypeParent_eq_some {book : RuleBook} {name parent : String} :
    book.archetypeParent name = some parent ↔
      ∃ factory, book.archetypeFactory name = some factory ∧ factory.parent = some parent :=
  bind_eq_some_iff

section Places

variable {book changed : RuleBook}
  (places : ∀ name, (changed.archetypeFactory name).map ArchetypeFactory.place =
    (book.archetypeFactory name).map ArchetypeFactory.place)

include places

theorem archetypeParent_of_places : changed.archetypeParent = book.archetypeParent := by
  funext name
  have parents := congrArg (Option.bind · Prod.fst) (places name)
  simp only [bind_map] at parents
  exact parents

theorem exists_of_places {name : String} {factory : ArchetypeFactory}
    (known : changed.archetypeFactory name = some factory) :
    ∃ before, book.archetypeFactory name = some before ∧ before.parent = factory.parent ∧
      before.children = factory.children := by
  have place := places name
  rw [known, map_some, eq_comm, map_eq_some_iff] at place
  obtain ⟨before, isBefore, same⟩ := place
  simp only [ArchetypeFactory.place, Prod.mk.injEq] at same
  exact ⟨before, isBefore, same⟩

theorem ArchetypeForest.of_places {rank : String → Nat} (forest : book.ArchetypeForest rank)
    (depthBound : changed.depthBound = book.depthBound)
    (plain : ∀ {name factory}, changed.archetypeFactory name = some factory →
      ∃ node, changed.atlasObjects[name]? = some node ∧ node.PlainContents) :
    changed.ArchetypeForest rank where
  listed := by
    intro name factory parent known isParent
    obtain ⟨before, isBefore, sameParent, -⟩ := exists_of_places places known
    obtain ⟨parentBefore, isParentBefore, listed⟩ :=
      forest.listed isBefore (sameParent.trans isParent)
    obtain ⟨parentFactory, isParentFactory, -, sameChildren⟩ :=
      exists_of_places (fun name => (places name).symm) isParentBefore
    exact ⟨parentFactory, isParentFactory, sameChildren ▸ listed⟩
  child := by
    intro name factory child known isChild
    obtain ⟨before, isBefore, -, sameChildren⟩ := exists_of_places places known
    obtain ⟨childBefore, isChildBefore, isParent⟩ := forest.child isBefore (sameChildren ▸ isChild)
    obtain ⟨childFactory, isChildFactory, sameParent, -⟩ :=
      exists_of_places (fun name => (places name).symm) isChildBefore
    exact ⟨childFactory, isChildFactory, sameParent.trans isParent⟩
  rank_lt := by
    intro name factory parent known isParent
    obtain ⟨before, isBefore, sameParent, -⟩ := exists_of_places places known
    exact forest.rank_lt isBefore (sameParent.trans isParent)
  rank_bound := by
    intro name factory known
    obtain ⟨before, isBefore, -⟩ := exists_of_places places known
    rw [depthBound]
    exact forest.rank_bound isBefore
  typed := plain

end Places

section

variable {book changed : RuleBook} (same : SameFrame book changed)

include same

theorem SameFrame.places (name : String) :
    (changed.archetypeFactory name).map ArchetypeFactory.place =
      (book.archetypeFactory name).map ArchetypeFactory.place := by
  have frames := congrArg (Option.map Prod.fst) (same.frames name)
  rw [Option.map_map, Option.map_map] at frames
  exact frames

theorem SameFrame.archetypeFactory
    {name : String} {factory : ArchetypeFactory}
    (known : changed.archetypeFactory name = some factory) :
    ∃ before, book.archetypeFactory name = some before ∧ before.frame = factory.frame := by
  have frames := same.frames name
  rw [known, map_some, eq_comm, map_eq_some_iff] at frames
  exact frames

end

theorem archetypeFactory_setArchetypeFactory (book : RuleBook) (name other : String)
    (factory : ArchetypeFactory) :
    (book.setArchetypeFactory name factory).archetypeFactory other =
      if name = other then some factory else book.archetypeFactory other := by
  unfold archetypeFactory setArchetypeFactory
  by_cases same : name = other <;> simp [getElem?_insert, same]

section

variable {book : RuleBook} {name : String}

theorem isSome_kit_of_archetypeFactory
    {factory : ArchetypeFactory} (known : book.archetypeFactory name = some factory) :
    book.entityFactories[name]? = some (.archetype factory) := by
  unfold archetypeFactory at known
  split at known
  case h_1 isKit =>
      rw [isKit, Option.some.inj known]
  case h_2 => contradiction

theorem depthBound_setArchetypeFactory {old : ArchetypeFactory}
    (known : book.archetypeFactory name = some old) (factory : ArchetypeFactory) :
    (book.setArchetypeFactory name factory).depthBound = book.depthBound := by
  have isKey : name ∈ book.entityFactories := by
    rw [mem_iff_isSome_getElem?, isSome_kit_of_archetypeFactory known]
    rfl
  unfold depthBound setArchetypeFactory
  rw [size_insert, if_pos (ExtTreeMap.contains_iff_mem.mpr isKey)]

theorem sameFrame_setArchetypeFactory
    {old factory : ArchetypeFactory} (known : book.archetypeFactory name = some old)
    (same : factory.frame = old.frame) :
      SameFrame book (book.setArchetypeFactory name factory) where
  frames other := by
    rw [archetypeFactory_setArchetypeFactory]
    split_ifs with isName
    · rw [← isName, known, map_some, map_some, same]
    · rfl
  kits other := by
    change (book.entityFactories.insert name _)[other]?.isSome = _
    rw [getElem?_insert]
    split_ifs with isName
    · rw [Std.LawfulEqCmp.compare_eq_iff_eq] at isName
      rw [← isName, isSome_kit_of_archetypeFactory known]
      rfl
    · rfl
  types _ := rfl
  depthBound := depthBound_setArchetypeFactory known factory
  manager := rfl

end

@[simp]
theorem archetypeFactory_updateType (book : RuleBook) (changes : Changes) (name other : String)
    (attributes : MapType) :
    (book.updateType changes name attributes).1.archetypeFactory other =
      book.archetypeFactory other := by
  unfold updateType
  cases book.atlasObjects[name]? <;> rfl

theorem sameFrame_updateType {book : RuleBook} {name : String} {node : TypeNode}
    (known : book.atlasObjects[name]? = some node) (changes : Changes) (attributes : MapType) :
    SameFrame book (book.updateType changes name attributes).1 where
  frames other := by rw [archetypeFactory_updateType]
  kits other := by
    unfold updateType
    rw [known]
    rfl
  types other := (sameShape_updateType known changes attributes).hasClass other
  depthBound := (sameShape_updateType known changes attributes).depthBound
  manager := propertyFactories_updateType book changes name attributes

/-- Own thoughts come later; own entities win. -/
def Joined (lost : Set String) (book : RuleBook) (name : String) : Prop :=
  ∀ factory parent parentFactory, book.archetypeFactory name = some factory →
    factory.parent = some parent → book.archetypeFactory parent = some parentFactory →
    factory.thoughts = parentFactory.thoughts ++ factory.classThoughts ∧
      (name ∈ lost → factory.entities = parentFactory.entities) ∧
      (name ∉ lost → factory.entities = overlay parentFactory.entities factory.classEntities)

/-- The type publishes the contents. -/
def Published (book : RuleBook) (name : String) : Prop :=
  ∀ factory, book.archetypeFactory name = some factory →
    ∃ node, book.atlasObjects[name]? = some node ∧ node.PublishesContents factory

/-- One child in the loop of `updateArchetype`. -/
def handDownArchetype (depth : Nat) (factory : ArchetypeFactory) (result : RuleBook × Changes)
    (child : String) : RuleBook × Changes :=
  match result.1.archetypeFactory child with
  | none => result
  | some childFactory =>
    updateArchetype depth
      (result.1.setArchetypeFactory child (childFactory.inherit factory), result.2) child

theorem updateArchetype_succ {book : RuleBook} {name : String} {factory : ArchetypeFactory}
    (known : book.archetypeFactory name = some factory) (depth : Nat) (changes : Changes) :
    updateArchetype (depth + 1) (book, changes) name =
      factory.children.foldl (handDownArchetype depth factory)
        (book.updateType changes name factory.attributes) := by
  rw [updateArchetype, known]
  rfl

/-- What an update of one archetype achieves. -/
structure Settled (rank : String → Nat) (lost pending : Set String) (book changed : RuleBook)
    (name : String) : Prop where
  forest : changed.ArchetypeForest rank
  frame : SameFrame book changed
  kept : ∀ other, rank other ≤ rank name →
    changed.archetypeFactory other = book.archetypeFactory other
  outside : ∀ other, other ∉ lost → changed.archetypeFactory other = book.archetypeFactory other
  joined : ∀ other, other ∉ pending → changed.Joined lost other
  published : ∀ other, other ∉ pending → changed.Published other

section

variable {rank : String → Nat} {book : RuleBook} (forest : book.ArchetypeForest rank)

include forest

theorem settled_updateType {lost pending : Set String}
    {name : String} {factory : ArchetypeFactory}
    (noContents : book.propertyFactories.NoContents)
    (known : book.archetypeFactory name = some factory) (changes : Changes)
    (joined : ∀ other, other ∉ pending → book.Joined lost other)
    (published : ∀ other, other ∉ pending → other ≠ name → book.Published other) :
    Settled rank lost pending book (book.updateType changes name factory.attributes).1 name := by
  obtain ⟨node, isNode, plain⟩ := forest.typed known
  have frame := sameFrame_updateType isNode changes factory.attributes
  have nodes := atlasObjects_updateType isNode changes factory.attributes
  obtain ⟨isEntities, isThoughts⟩ := factory.attributes_getElem?
  refine ⟨forest.of_places frame.places frame.depthBound ?_, frame,
    fun other _ => archetypeFactory_updateType .., fun other _ => archetypeFactory_updateType ..,
    ?_, ?_⟩
  · intro other otherFactory otherKnown
    rw [archetypeFactory_updateType] at otherKnown
    rw [nodes]
    split_ifs with same
    · refine ⟨_, rfl, fun key property isContents held => ?_⟩
      have present : ∃ value, factory.attributes[key]? = some value := by
        rcases isContents with rfl | rfl
        · exact ⟨_, isEntities⟩
        · exact ⟨_, isThoughts⟩
      obtain ⟨value, isAttribute⟩ := present
      obtain ⟨made, isMade, isPlain, -⟩ :=
        updateProperties_publishes isContents noContents plain isAttribute
      rw [isMade] at held
      exact Option.some.inj held ▸ isPlain
    · exact forest.typed otherKnown
  · intro other notPending otherFactory parent parentFactory otherKnown isParent parentKnown
    rw [archetypeFactory_updateType] at otherKnown parentKnown
    exact joined other notPending otherFactory parent parentFactory otherKnown isParent parentKnown
  · intro other notPending otherFactory otherKnown
    rw [archetypeFactory_updateType] at otherKnown
    rw [nodes]
    split_ifs with same
    · subst same
      rw [known] at otherKnown
      obtain rfl := Option.some.inj otherKnown
      obtain ⟨first, isFirst, -, firstShows⟩ :=
        updateProperties_publishes (.inl rfl) noContents plain isEntities
      obtain ⟨second, isSecond, -, secondShows⟩ :=
        updateProperties_publishes (.inr rfl) noContents plain isThoughts
      exact ⟨_, rfl, ⟨first, isFirst, firstShows⟩, ⟨second, isSecond, secondShows⟩⟩
    · exact published other notPending (Ne.symm same) otherFactory otherKnown

/-- It takes over before its update. -/
theorem joined_setArchetypeFactory {lost : Set String} {name child : String}
    {factory childFactory : ArchetypeFactory} (known : book.archetypeFactory name = some factory)
    (childKnown : book.archetypeFactory child = some childFactory)
    (isParent : childFactory.parent = some name) (isLost : child ∈ lost)
    {other : String} (joined : other ≠ child → book.Joined lost other)
    (notBelow : ∀ otherFactory, book.archetypeFactory other = some otherFactory →
      otherFactory.parent ≠ some child) :
    (book.setArchetypeFactory child (childFactory.inherit factory)).Joined lost other := by
  intro otherFactory parent parentFactory otherKnown isOtherParent parentKnown
  rw [archetypeFactory_setArchetypeFactory] at otherKnown parentKnown
  by_cases same : child = other
  · subst same
    rw [if_pos rfl] at otherKnown
    obtain rfl := Option.some.inj otherKnown
    have isName : name = parent := Option.some.inj (isParent.symm.trans isOtherParent)
    subst isName
    have different : child ≠ name := by
      rintro rfl
      exact absurd (forest.rank_lt childKnown isParent) (lt_irrefl _)
    rw [if_neg different, known] at parentKnown
    obtain rfl := Option.some.inj parentKnown
    exact ⟨rfl, fun _ => rfl, fun notLost => absurd isLost notLost⟩
  · rw [if_neg same] at otherKnown
    have parentIsNot : child ≠ parent := by
      rintro rfl
      exact notBelow otherFactory otherKnown isOtherParent
    rw [if_neg parentIsNot] at parentKnown
    exact joined (Ne.symm same) otherFactory parent parentFactory otherKnown isOtherParent
      parentKnown

end

/-- Members of a list, and all below. -/
def Subtrees (book : RuleBook) (names : List String) : Set String :=
  {other | ∃ name ∈ names, other = name ∨ Descends book.archetypeParent name other}

theorem not_mem_subtrees_cons {book : RuleBook} {name other : String} {rest : List String}
    (notRest : other ∉ book.Subtrees rest) (different : other ≠ name)
    (notBelow : ¬ Descends book.archetypeParent name other) :
    other ∉ book.Subtrees (name :: rest) := by
  rintro ⟨found, isMember, isIn⟩
  rcases List.mem_cons.mp isMember with rfl | isRest
  · exact isIn.elim different notBelow
  · exact notRest ⟨found, isRest, isIn⟩

theorem not_descends_of_not_mem_subtrees {rank : String → Nat} {book : RuleBook} {name : String}
    {factory : ArchetypeFactory} (forest : book.ArchetypeForest rank)
    (known : book.archetypeFactory name = some factory) {other : String}
    (notListed : other ∉ book.Subtrees factory.children) :
    ¬ Descends book.archetypeParent name other := by
  intro isBelow
  rcases isBelow.through_child with ⟨child, isChild, isIn⟩
  rcases archetypeParent_eq_some.mp isChild with ⟨childFactory, childKnown, isParent⟩
  rcases forest.listed childKnown isParent with ⟨parentFactory, parentKnown, listed⟩
  obtain rfl := Option.some.inj (known.symm.trans parentKnown)
  exact notListed ⟨child, listed, isIn⟩

namespace Settled

variable {rank : String → Nat} {lost pending : Set String} {book before : RuleBook}
  {name child : String} {rest : List String} {factory childFactory : ArchetypeFactory}
  (settled : Settled rank lost (pending ∪ book.Subtrees (child :: rest)) book before name)

include settled

theorem joined_child (knownNow : before.archetypeFactory name = some factory)
    (childKnown : before.archetypeFactory child = some childFactory)
    (isParent : childFactory.parent = some name) (isLost : child ∈ lost) {other : String}
    (notPending : other ∉ pending ∪ book.Subtrees rest)
    (notBelow : ¬ Descends book.archetypeParent child other) :
    (before.setArchetypeFactory child (childFactory.inherit factory)).Joined lost other := by
  refine joined_setArchetypeFactory settled.forest knownNow childKnown isParent isLost
    (fun different => settled.joined other ?_) ?_
  · rw [Set.mem_union, not_or] at notPending ⊢
    exact ⟨notPending.1, not_mem_subtrees_cons notPending.2 different notBelow⟩
  · intro otherFactory otherKnown isOtherParent
    apply notBelow
    rw [← archetypeParent_of_places settled.frame.places]
    exact .child (archetypeParent_eq_some.mpr ⟨_, otherKnown, isOtherParent⟩)

theorem published_child {other : String} (notPending : other ∉ pending ∪ book.Subtrees rest)
    (different : other ≠ child) (notBelow : ¬ Descends book.archetypeParent child other) :
    (before.setArchetypeFactory child (childFactory.inherit factory)).Published other := by
  intro otherFactory otherKnown
  rw [archetypeFactory_setArchetypeFactory, if_neg (Ne.symm different)] at otherKnown
  apply settled.published other ?_ otherFactory otherKnown
  rw [Set.mem_union, not_or] at notPending ⊢
  exact ⟨notPending.1, not_mem_subtrees_cons notPending.2 different notBelow⟩

theorem turn {after : RuleBook} {later : Set String}
    (whole : SameFrame book (before.setArchetypeFactory child (childFactory.inherit factory)))
    (isLost : child ∈ lost) (higher : rank name < rank child)
    (step : Settled rank lost later
      (before.setArchetypeFactory child (childFactory.inherit factory)) after child) :
    Settled rank lost later book after name := by
  refine ⟨step.forest, whole.trans step.frame, ?_, ?_, step.joined, step.published⟩
  · intro other lower
    have notChild : child ≠ other := by
      rintro rfl
      omega
    rw [step.kept other (by omega), archetypeFactory_setArchetypeFactory, if_neg notChild,
      settled.kept other lower]
  · intro other notLost
    have notChild : child ≠ other := by
      rintro rfl
      exact notLost isLost
    rw [step.outside other notLost, archetypeFactory_setArchetypeFactory, if_neg notChild,
      settled.outside other notLost]

end Settled

/-- With enough depth all below is settled. -/
theorem updateArchetype_settled {rank : String → Nat} {lost : Set String} {depth : Nat} :
    ∀ {book : RuleBook} {name : String} {factory : ArchetypeFactory} {pending : Set String}
      (changes : Changes), book.ArchetypeForest rank → book.propertyFactories.NoContents →
      book.archetypeFactory name = some factory → book.depthBound ≤ depth + rank name →
      (∀ other, Descends book.archetypeParent name other → other ∈ lost) →
      (∀ other, other ∉ pending → ¬ Descends book.archetypeParent name other →
        book.Joined lost other) →
      (∀ other, other ∉ pending → other ≠ name → ¬ Descends book.archetypeParent name other →
        book.Published other) →
      Settled rank lost pending book (updateArchetype depth (book, changes) name).1 name := by
  induction depth with
  | zero =>
    intro book name factory pending changes forest noContents known enough
    have bounded := forest.rank_bound known
    omega
  | succ depth ih =>
    intro book name factory pending changes forest noContents known enough below joined published
    rw [updateArchetype_succ known]
    -- The children in the list are still to come.
    have loop : ∀ (rest : List String), (∀ child ∈ rest, child ∈ factory.children) →
        ∀ (result : RuleBook × Changes),
        Settled rank lost (pending ∪ book.Subtrees rest) book result.1 name →
        Settled rank lost pending book
          (rest.foldl (handDownArchetype depth factory) result).1 name := by
      intro rest
      induction rest with
      | nil =>
        intro _ result settled
        simpa [Subtrees] using settled
      | cons child rest loop =>
        intro areChildren result settled
        rw [List.foldl_cons]
        apply loop fun other isRest => areChildren other (List.mem_cons_of_mem _ isRest)
        have knownNow : result.1.archetypeFactory name = some factory :=
          (settled.kept name le_rfl).trans known
        obtain ⟨childFactory, childKnown, isParent⟩ :=
          settled.forest.child knownNow (areChildren child List.mem_cons_self)
        have higher := settled.forest.rank_lt childKnown isParent
        have frame := sameFrame_setArchetypeFactory childKnown
          (show (childFactory.inherit factory).frame = childFactory.frame from rfl)
        have whole := settled.frame.trans frame
        have sameParents := archetypeParent_of_places whole.places
        have isChild : book.archetypeParent child = some name := by
          rw [← archetypeParent_of_places settled.frame.places]
          exact archetypeParent_eq_some.mpr ⟨childFactory, childKnown, isParent⟩
        have isLost : child ∈ lost := below child (.child isChild)
        have setKnown : (result.1.setArchetypeFactory child
            (childFactory.inherit factory)).archetypeFactory child =
              some (childFactory.inherit factory) := by
          rw [archetypeFactory_setArchetypeFactory, if_pos rfl]
        have forestSet : (result.1.setArchetypeFactory child
            (childFactory.inherit factory)).ArchetypeForest rank := by
          apply settled.forest.of_places frame.places frame.depthBound
          intro other otherFactory otherKnown
          obtain ⟨before, isBefore, -⟩ := frame.archetypeFactory otherKnown
          exact settled.forest.typed isBefore
        have isStep : handDownArchetype depth factory result child =
            updateArchetype depth (result.1.setArchetypeFactory child
              (childFactory.inherit factory), result.2) child := by
          rw [handDownArchetype, childKnown]
        have manager : (result.1.setArchetypeFactory child
            (childFactory.inherit factory)).propertyFactories.NoContents := by
          rw [whole.manager]
          exact noContents
        have bound : (result.1.setArchetypeFactory child
            (childFactory.inherit factory)).depthBound ≤ depth + rank child := by
          rw [whole.depthBound]
          omega
        rw [isStep]
        have step := @ih _ _ _ (pending ∪ book.Subtrees rest) result.2 forestSet manager
          setKnown bound
          (by
            intro other isBelow
            rw [sameParents] at isBelow
            exact below other (isBelow.through isChild))
          (by
            intro other notPending notBelow
            rw [sameParents] at notBelow
            exact settled.joined_child knownNow childKnown isParent isLost notPending notBelow)
          (by
            intro other notPending different notBelow
            rw [sameParents] at notBelow
            exact settled.published_child notPending different notBelow)
        exact settled.turn whole isLost higher step
    have notBelow : ∀ other, other ∉ book.Subtrees factory.children →
        ¬ Descends book.archetypeParent name other := fun other =>
      not_descends_of_not_mem_subtrees forest known
    apply loop factory.children (fun _ isChild => isChild)
    apply settled_updateType forest noContents known
    · intro other notPending
      rw [Set.mem_union, not_or] at notPending
      exact joined other notPending.1 (notBelow other notPending.2)
    · intro other notPending different
      rw [Set.mem_union, not_or] at notPending
      exact published other notPending.1 different (notBelow other notPending.2)

end RuleBook

end Cyphesis.Ruleset
