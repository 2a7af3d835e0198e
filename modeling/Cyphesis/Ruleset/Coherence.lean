import Cyphesis.Ruleset.RuleHandlers

/-!
# Factories agree with their ancestors

The factories of a rule book form a forest.
-/

namespace Cyphesis.Ruleset

open Std (ExtTreeMap)
open Cyphesis.Atlas Option Std.ExtTreeMap
open Cyphesis.Common
open Cyphesis.Foundation

/-- Valid, and not for instances only. -/
def CanBeDefault (manager : PropertyManager) (name : String) : Prop :=
  PropertyUtil.isValidName name = true ∧
    (manager.addProperty name).hasFlags propFlagInstance = false

variable (property : Property) (value : Element)

/-- The property has a value that is equal to this one. -/
def Property.Holds : Prop :=
  (∃ held, property.data = property.store held value) ∨ (property.get == value) = true

/-- Defaults have names they can have. -/
def TypeNode.Lawful (manager : PropertyManager) (node : TypeNode) : Prop :=
  ∀ name property, node.defaults[name]? = some property → CanBeDefault manager name

/-- The defaults agree with the attributes. -/
structure TypeNode.Agrees (manager : PropertyManager) (attributes : MapType) (node : TypeNode) :
    Prop where
  lawful : node.Lawful manager
  holds : ∀ name value, attributes[name]? = some value → CanBeDefault manager name →
    ∃ property, node.defaults[name]? = some property ∧ property.Holds value
  gone : ∀ (name : String) (property : Property), attributes[name]? = none →
    node.defaults[name]? = some property →
    property.hasFlags propFlagPersistenceEphem = true

theorem Property.holds_set : (property.set value).Holds value :=
  Or.inl ⟨property.data, rfl⟩

namespace TypeNode

variable {manager : PropertyManager}

section

variable {name : String} {held : Option Property}

theorem isSome_updatedDefault {value : Element}
    (lawful : ∀ property, held = some property → CanBeDefault manager name) :
    (∃ property, updatedDefault manager name value held = some property) ↔
      CanBeDefault manager name := by
  unfold updatedDefault CanBeDefault
  cases valid : PropertyUtil.isValidName name with
  | false =>
    cases held with
    | none => simp
    | some property => exact absurd (lawful property rfl).1 (by simp [valid])
  | true =>
    cases held with
    | none =>
      simp only [Bool.not_true, Bool.false_eq_true, if_false, true_and]
      split_ifs with instanceOnly <;> simp [instanceOnly]
    | some property =>
      have canBe := lawful property rfl
      simp only [Bool.not_true, Bool.false_eq_true, if_false, true_and, canBe.2]
      split_ifs <;> simp

theorem holds_updatedDefault {value : Element}
    {property : Property} (canBe : CanBeDefault manager name)
    (updated : updatedDefault manager name value held = some property) : property.Holds value := by
  unfold updatedDefault at updated
  simp only [canBe.1, canBe.2, Bool.not_true, Bool.false_eq_true, if_false] at updated
  cases held with
  | none =>
    rw [← Option.some.inj updated]
    exact Property.holds_set _ value
  | some old =>
    dsimp only at updated
    split_ifs at updated with differs
    · rw [← Option.some.inj updated]
      exact Property.holds_set _ value
    · rw [← Option.some.inj updated]
      right
      simpa [bne] using differs

end

theorem updateProperties_agrees {node : TypeNode} (lawful : node.Lawful manager)
    (attributes : MapType) :
    (node.updateProperties attributes manager).1.Agrees manager attributes := by
  constructor
  · intro name property held
    cases isAttribute : attributes[name]? with
    | none =>
      rw [updateProperties_default_of_gone manager isAttribute, filter_eq_some_iff] at held
      exact lawful name property held.1
    | some value =>
      rw [updateProperties_default_of_attribute manager isAttribute] at held
      exact (isSome_updatedDefault (lawful name)).mp ⟨property, held⟩
  · intro name value isAttribute canBe
    rw [updateProperties_default_of_attribute manager isAttribute]
    obtain ⟨property, updated⟩ := (isSome_updatedDefault (lawful name)).mpr canBe
    exact ⟨property, updated, holds_updatedDefault canBe updated⟩
  · intro name property isGone held
    rw [updateProperties_default_of_gone manager isGone, filter_eq_some_iff] at held
    exact held.2

theorem Agrees.congr {attributes : MapType} {node other : TypeNode}
    (agrees : node.Agrees manager attributes) (same : other.defaults = node.defaults) :
    other.Agrees manager attributes := by
  constructor
  · intro name property held
    exact agrees.lawful name property (same ▸ held)
  · intro name value isAttribute canBe
    rw [same]
    exact agrees.holds name value isAttribute canBe
  · intro name property isGone held
    exact agrees.gone name property isGone (same ▸ held)

theorem addProperties_agrees {node : TypeNode} (noDefaults : node.defaults = ∅)
    (manager : PropertyManager) (attributes : MapType) :
    (node.addProperties attributes manager).Agrees manager attributes := by
  have empty : ∀ name : String, node.defaults[name]? = none := by
    intro name
    rw [noDefaults]
    exact getElem?_empty
  constructor
  · intro name property held
    rw [addProperties_getElem?, empty] at held
    cases isAttribute : attributes[name]? with
    | none => simp [isAttribute] at held
    | some value =>
      simp only [isAttribute, elim_some, madeDefault, or_none] at held
      split_ifs at held with canBe
      simpa [CanBeDefault] using canBe
  · intro name value isAttribute canBe
    rw [addProperties_getElem?, empty, isAttribute]
    refine ⟨((manager.addProperty name).set value).addFlags propFlagClass, ?_, ?_⟩
    · simp [madeDefault, canBe.1, canBe.2]
    · exact Or.inl ⟨(manager.addProperty name).data, rfl⟩
  · intro name property isGone held
    rw [addProperties_getElem?, empty, isGone] at held
    contradiction

end TypeNode

namespace RuleBook

/-- Links agree, and ranks rise. -/
structure Forest (book : RuleBook) (rank : String → Nat) : Prop where
  listed : ∀ {name factory parent}, book.entityFactory name = some factory →
    factory.parent = some parent →
    ∃ parentFactory, book.entityFactory parent = some parentFactory ∧ name ∈ parentFactory.children
  child : ∀ {name factory child}, book.entityFactory name = some factory →
    child ∈ factory.children →
    ∃ childFactory, book.entityFactory child = some childFactory ∧ childFactory.parent = some name
  rank_lt : ∀ {name factory parent}, book.entityFactory name = some factory →
    factory.parent = some parent → rank parent < rank name
  rank_bound : ∀ {name factory}, book.entityFactory name = some factory →
    rank name < book.depthBound
  nodup : ∀ {name factory}, book.entityFactory name = some factory → factory.children.Nodup
  typed : ∀ {name factory}, book.entityFactory name = some factory →
    ∃ node, book.atlasObjects[name]? = some node

/-- The types of all classes are lawful. -/
def LawfulTypes (book : RuleBook) : Prop :=
  ∀ name factory node, book.entityFactory name = some factory →
    book.atlasObjects[name]? = some node → node.Lawful book.propertyFactories

/-- What comes from the parent. -/
def inherited (book : RuleBook) (factory : EntityFactory) : MapType :=
  match factory.parent.bind book.entityFactory with
  | some parentFactory => parentFactory.attributes
  | none => ∅

/-- Attributes of the parent and the own. -/
def Consistent (book : RuleBook) (name : String) : Prop :=
  ∀ factory, book.entityFactory name = some factory →
    factory.attributes = factory.classAttributes.foldl combineInto (book.inherited factory)

/-- Default properties agree with attributes. -/
def TypeAgrees (book : RuleBook) (name : String) : Prop :=
  ∀ factory node, book.entityFactory name = some factory → book.atlasObjects[name]? = some node →
    node.Agrees book.propertyFactories factory.attributes

/-- Attributes and defaults are right. -/
def Clean (book : RuleBook) (name : String) : Prop :=
  book.Consistent name ∧ book.TypeAgrees name

section Read

variable (book : RuleBook)

variable (name other : String)

theorem entityFactory_setEntityFactory (factory : EntityFactory) :
    (book.setEntityFactory name factory).entityFactory other =
      if name = other then some factory else book.entityFactory other := by
  unfold entityFactory setEntityFactory
  by_cases same : name = other <;> simp [getElem?_insert, same]

section

variable (factory : EntityFactory)

@[simp]
theorem atlasObjects_setEntityFactory :
    (book.setEntityFactory name factory).atlasObjects = book.atlasObjects :=
  rfl

end

theorem depthBound_setEntityFactory {name : String} {factory old : EntityFactory}
    (known : book.entityFactory name = some old) :
    (book.setEntityFactory name factory).depthBound = book.depthBound := by
  have isKey : name ∈ book.entityFactories := by
    rw [mem_iff_isSome_getElem?]
    unfold entityFactory at known
    cases found : book.entityFactories[name]? <;> simp_all
  unfold depthBound setEntityFactory
  rw [size_insert, if_pos (ExtTreeMap.contains_iff_mem.mpr isKey)]

theorem atlasObjects_setType (node : TypeNode) :
    (book.setType name node).atlasObjects[other]? =
      if name = other then some node else book.atlasObjects[other]? := by
  unfold setType
  by_cases same : name = other <;> simp [getElem?_insert, same]

end Read

/-- Place of a factory in the forest. -/
def shape (factory : EntityFactory) : Option String × List String :=
  (factory.parent, factory.children)

/-- The place stays, and it is lawful. -/
structure Follows (manager : PropertyManager) (node changed : TypeNode) : Prop where
  name : changed.name = node.name
  parent : changed.parent = node.parent
  described : changed.privateDescription.parent = node.privateDescription.parent
  lawful : node.Lawful manager → changed.Lawful manager

variable {node : TypeNode} (manager : PropertyManager)

theorem Follows.refl (node : TypeNode) : Follows manager node node :=
  ⟨rfl, rfl, rfl, id⟩

theorem Follows.trans {manager : PropertyManager} {first second third : TypeNode}
    (left : Follows manager first second) (right : Follows manager second third) :
    Follows manager first third :=
  { name := right.name.trans left.name
    parent := right.parent.trans left.parent
    described := right.described.trans left.described
    lawful := right.lawful ∘ left.lawful }

theorem follows_updateProperties (node : TypeNode) (attributes : MapType) :
    Follows manager node (node.updateProperties attributes manager).1 :=
  ⟨rfl, rfl, rfl, fun lawful => (TypeNode.updateProperties_agrees lawful attributes).lawful⟩

/-- Only attributes and defaults differ. -/
structure SameShape (book changed : RuleBook) : Prop where
  factories : ∀ name, (changed.entityFactory name).map shape = (book.entityFactory name).map shape
  archetypes : ∀ name, changed.archetypeFactory name = book.archetypeFactory name
  types : ∀ name : String, Option.Rel (Follows book.propertyFactories) book.atlasObjects[name]?
    changed.atlasObjects[name]?
  manager : changed.propertyFactories = book.propertyFactories
  waiting : changed.waitingRules = book.waitingRules
  depthBound : changed.depthBound = book.depthBound

theorem optionRel_refl {α : Type} {relation : α → α → Prop} (refl : ∀ value, relation value value) :
    ∀ value : Option α, Option.Rel relation value value
  | none => .none
  | some value => .some (refl value)

theorem optionRel_trans {α : Type} (relation : α → α → Prop)
    (trans : ∀ first second third, relation first second → relation second third →
      relation first third) {first second third : Option α}
    (left : Option.Rel relation first second) (right : Option.Rel relation second third) :
    Option.Rel relation first third := by
  cases left with
  | none =>
    cases right
    exact .none
  | some left =>
    cases right with
    | some right => exact .some (trans _ _ _ left right)

theorem SameShape.trans {first second third : RuleBook} (left : SameShape first second)
    (right : SameShape second third) : SameShape first third where
  factories name := (right.factories name).trans (left.factories name)
  archetypes name := (right.archetypes name).trans (left.archetypes name)
  types name := by
    have after := right.types name
    rw [left.manager] at after
    exact optionRel_trans (Follows _) (fun _ _ _ => Follows.trans) (left.types name) after
  manager := right.manager.trans left.manager
  waiting := right.waiting.trans left.waiting
  depthBound := right.depthBound.trans left.depthBound

section

variable {book changed : RuleBook} (same : SameShape book changed) {name : String}
  {factory : EntityFactory}

include same

theorem SameShape.entityFactory (known : book.entityFactory name = some factory) :
    ∃ changedFactory, changed.entityFactory name = some changedFactory ∧
      changedFactory.parent = factory.parent ∧ changedFactory.children = factory.children := by
  have shapes := same.factories name
  rw [known] at shapes
  obtain ⟨changedFactory, isChanged, eq⟩ := Option.map_eq_some_iff.mp shapes
  simp only [shape, Prod.mk.injEq] at eq
  exact ⟨changedFactory, isChanged, eq.1, eq.2⟩

theorem SameShape.entityFactory_before (known : changed.entityFactory name = some factory) :
    ∃ before, book.entityFactory name = some before ∧
      factory.parent = before.parent ∧ factory.children = before.children := by
  have shapes := same.factories name
  rw [known] at shapes
  obtain ⟨before, isBefore, eq⟩ := Option.map_eq_some_iff.mp shapes.symm
  simp only [shape, Prod.mk.injEq] at eq
  exact ⟨before, isBefore, eq.1.symm, eq.2.symm⟩

end

theorem Forest.sameShape {book changed : RuleBook} {rank : String → Nat}
    (forest : book.Forest rank) (same : SameShape book changed) : changed.Forest rank where
  listed {name factory parent} known isParent := by
    obtain ⟨before, isBefore, sameParent, -⟩ := same.entityFactory_before known
    obtain ⟨parentBefore, isParentBefore, isChild⟩ := forest.listed isBefore (sameParent ▸ isParent)
    obtain ⟨parentFactory, isParentFactory, -, sameChildren⟩ := same.entityFactory isParentBefore
    exact ⟨parentFactory, isParentFactory, sameChildren ▸ isChild⟩
  child {name factory child} known isChild := by
    obtain ⟨before, isBefore, -, sameChildren⟩ := same.entityFactory_before known
    obtain ⟨childBefore, isChildBefore, isParent⟩ := forest.child isBefore (sameChildren ▸ isChild)
    obtain ⟨childFactory, isChildFactory, sameParent, -⟩ := same.entityFactory isChildBefore
    exact ⟨childFactory, isChildFactory, sameParent ▸ isParent⟩
  rank_lt {name factory parent} known isParent := by
    obtain ⟨before, isBefore, sameParent, -⟩ := same.entityFactory_before known
    exact forest.rank_lt isBefore (sameParent ▸ isParent)
  rank_bound {name factory} known := by
    obtain ⟨before, isBefore, -⟩ := same.entityFactory_before known
    rw [same.depthBound]
    exact forest.rank_bound isBefore
  nodup {name factory} known := by
    obtain ⟨before, isBefore, -, sameChildren⟩ := same.entityFactory_before known
    rw [sameChildren]
    exact forest.nodup isBefore
  typed {name factory} known := by
    obtain ⟨before, isBefore, -⟩ := same.entityFactory_before known
    obtain ⟨node, isNode⟩ := forest.typed isBefore
    have follows := same.types name
    rw [isNode] at follows
    cases after : changed.atlasObjects[name]? with
    | none =>
      rw [after] at follows
      cases follows
    | some changedNode => exact ⟨changedNode, rfl⟩

theorem LawfulTypes.sameShape {book changed : RuleBook} (lawful : book.LawfulTypes)
    (same : SameShape book changed) : changed.LawfulTypes := by
  intro name factory changedNode known isChanged
  obtain ⟨before, isBefore, -⟩ := same.entityFactory_before known
  have follows := same.types name
  rw [isChanged] at follows
  cases isNode : book.atlasObjects[name]? with
  | none =>
    rw [isNode] at follows
    cases follows
  | some node =>
    rw [isNode] at follows
    cases follows with
    | some follows =>
      rw [same.manager]
      exact follows.lawful (lawful name before node isBefore isNode)

section

variable {book : RuleBook} {name : String}

theorem archetypeFactory_setEntityFactory {old : EntityFactory}
    (known : book.entityFactory name = some old) (factory : EntityFactory) (other : String) :
    (book.setEntityFactory name factory).archetypeFactory other = book.archetypeFactory other := by
  unfold entityFactory at known
  unfold archetypeFactory setEntityFactory
  by_cases same : name = other
  · subst same
    cases found : book.entityFactories[name]? with
    | none => simp [found] at known
    | some kit =>
      cases kit with
      | entity => simp
      | archetype => simp [found] at known
  · simp [getElem?_insert, same]

theorem sameShape_setEntityFactory {factory old : EntityFactory}
    (known : book.entityFactory name = some old) (sameShape : shape factory = shape old) :
    SameShape book (book.setEntityFactory name factory) where
  factories other := by
    rw [entityFactory_setEntityFactory]
    split_ifs with same
    · subst same
      rw [known, map_some, map_some, sameShape]
    · rfl
  archetypes := archetypeFactory_setEntityFactory known factory
  types _ := optionRel_refl (Follows.refl _) _
  manager := rfl
  waiting := rfl
  depthBound := book.depthBound_setEntityFactory known

theorem atlasObjects_updateType
    (known : book.atlasObjects[name]? = some node) (changes : Changes) (attributes : MapType)
    (other : String) :
    (book.updateType changes name attributes).1.atlasObjects[other]? =
      if name = other then some (node.updateProperties attributes book.propertyFactories).1
      else book.atlasObjects[other]? := by
  unfold updateType
  rw [known]
  exact book.atlasObjects_setType name other _

end

section

variable (book : RuleBook) (changes : Changes)

@[simp]
theorem entityFactory_updateType (name other : String)
    (attributes : MapType) :
    (book.updateType changes name attributes).1.entityFactory other = book.entityFactory other := by
  unfold updateType
  cases book.atlasObjects[name]? <;> rfl

@[simp]
theorem propertyFactories_updateType (name : String)
    (attributes : MapType) :
    (book.updateType changes name attributes).1.propertyFactories = book.propertyFactories := by
  unfold updateType
  cases book.atlasObjects[name]? <;> rfl

end

theorem sameShape_updateType {book : RuleBook} {name : String}
    (known : book.atlasObjects[name]? = some node) (changes : Changes) (attributes : MapType) :
    SameShape book (book.updateType changes name attributes).1 := by
  refine
    { factories := fun other => by rw [entityFactory_updateType]
      archetypes := ?_
      types := ?_
      manager := propertyFactories_updateType book changes name attributes
      waiting := ?_
      depthBound := ?_ }
  · intro other
    unfold updateType
    rw [known]
    rfl
  · intro other
    rw [atlasObjects_updateType known]
    split_ifs with same
    · subst same
      rw [known]
      exact .some (follows_updateProperties _ node attributes)
    · exact optionRel_refl (Follows.refl _) _
  · unfold updateType
    rw [known]
    rfl
  · unfold updateType
    rw [known]
    rfl

/-- One child in the loop of `updateProperties`. -/
def handDown (depth : Nat) (attributes : MapType) (result : RuleBook × Changes) (child : String) :
    RuleBook × Changes :=
  match result.1.entityFactory child with
  | none => result
  | some childFactory =>
    updateProperties depth
      (result.1.setEntityFactory child (childFactory.inherit attributes), result.2) child

theorem updateProperties_succ {book : RuleBook} {name : String} {factory : EntityFactory}
    (known : book.entityFactory name = some factory) (depth : Nat) (changes : Changes) :
    updateProperties (depth + 1) (book, changes) name =
      factory.children.foldl (handDown depth factory.attributes)
        (book.updateType changes name factory.attributes) := by
  rw [updateProperties, known]
  rfl

theorem Clean.congr {book changed : RuleBook} {name : String} (clean : book.Clean name)
    (sameFactory : changed.entityFactory name = book.entityFactory name)
    (sameDefaults : changed.atlasObjects[name]?.map TypeNode.defaults =
      book.atlasObjects[name]?.map TypeNode.defaults)
    (sameInherited : ∀ factory, book.entityFactory name = some factory →
      changed.inherited factory = book.inherited factory)
    (sameManager : changed.propertyFactories = book.propertyFactories) : changed.Clean name := by
  constructor
  · intro factory known
    rw [sameFactory] at known
    rw [sameInherited factory known]
    exact clean.1 factory known
  · intro factory node known isNode
    rw [sameFactory] at known
    rw [isNode, map_some] at sameDefaults
    obtain ⟨before, isBefore, same⟩ := Option.map_eq_some_iff.mp sameDefaults.symm
    rw [sameManager]
    exact (clean.2 factory before known isBefore).congr same.symm

theorem Clean.setEntityFactory {book : RuleBook} {name other : String} (clean : book.Clean other)
    (different : other ≠ name) (factory : EntityFactory)
    (notChild : ∀ otherFactory, book.entityFactory other = some otherFactory →
      otherFactory.parent ≠ some name) :
    (book.setEntityFactory name factory).Clean other := by
  have apart : name ≠ other := Ne.symm different
  refine clean.congr ?_ rfl ?_ rfl
  · rw [entityFactory_setEntityFactory, if_neg apart]
  · intro otherFactory known
    unfold inherited
    cases isParent : otherFactory.parent with
    | none => rfl
    | some parent =>
      have notName : name ≠ parent := by
        rintro rfl
        exact notChild otherFactory known isParent
      rw [bind_some, bind_some, entityFactory_setEntityFactory, if_neg notName]

theorem clean_updateType_self {book : RuleBook} {name : String} {factory : EntityFactory}
    (isNode : book.atlasObjects[name]? = some node) (lawful : node.Lawful book.propertyFactories)
    (known : book.entityFactory name = some factory) (consistent : book.Consistent name)
    (changes : Changes) :
    (book.updateType changes name factory.attributes).1.Clean name := by
  constructor
  · intro current isCurrent
    rw [entityFactory_updateType] at isCurrent
    have same : (book.updateType changes name factory.attributes).1.inherited current =
        book.inherited current := by
      unfold inherited
      cases current.parent with
      | none => rfl
      | some parent => rw [bind_some, bind_some, entityFactory_updateType]
    rw [same]
    exact consistent current isCurrent
  · intro current changed isCurrent isChanged
    rw [entityFactory_updateType, known] at isCurrent
    obtain rfl := Option.some.inj isCurrent
    rw [atlasObjects_updateType isNode, if_pos rfl] at isChanged
    obtain rfl := Option.some.inj isChanged
    rw [propertyFactories_updateType]
    exact TypeNode.updateProperties_agrees lawful factory.attributes

theorem Clean.updateType {book : RuleBook} {name other : String} (clean : book.Clean other)
    (isNode : book.atlasObjects[name]? = some node) (different : other ≠ name) (changes : Changes)
    (attributes : MapType) :
    (book.updateType changes name attributes).1.Clean other := by
  refine clean.congr (entityFactory_updateType book changes name other attributes) ?_ ?_
    (propertyFactories_updateType book changes name attributes)
  · rw [atlasObjects_updateType isNode, if_neg (Ne.symm different)]
  · intro factory isFactory
    unfold inherited
    cases factory.parent with
    | none => rfl
    | some parent => rw [bind_some, bind_some, entityFactory_updateType]

/-- An update cleans what is below. -/
structure Cleaned (rank : String → Nat) (book changed : RuleBook) (name : String) : Prop where
  sameShape : SameShape book changed
  frame : ∀ other, rank other ≤ rank name → changed.entityFactory other = book.entityFactory other
  own : ∀ other, (changed.entityFactory other).map EntityFactory.classAttributes =
    (book.entityFactory other).map EntityFactory.classAttributes
  cleans : book.LawfulTypes → ∀ dirty : Set String, book.Consistent name →
    (∀ other, book.Clean other ∨ other = name ∨
      (∃ factory, book.entityFactory name = some factory ∧ other ∈ factory.children) ∨
      other ∈ dirty) →
    ∀ other, changed.Clean other ∨ other ∈ dirty

/-- Children to come may be dirty. -/
structure HandedDown (rank : String → Nat) (book changed : RuleBook) (name : String)
    (rest : List String) (dirty : Set String) : Prop where
  sameShape : SameShape book changed
  frame : ∀ other, rank other ≤ rank name → changed.entityFactory other = book.entityFactory other
  own : ∀ other, (changed.entityFactory other).map EntityFactory.classAttributes =
    (book.entityFactory other).map EntityFactory.classAttributes
  clean : book.LawfulTypes → ∀ other, changed.Clean other ∨ other ∈ rest ∨ other ∈ dirty

section HandDown

variable {rank : String → Nat} {book : RuleBook} {name : String} {factory : EntityFactory}
  (forest : book.Forest rank) (known : book.entityFactory name = some factory)

include forest known

theorem HandedDown.step {depth : Nat} {child : String} {rest : List String} {dirty : Set String}
    {result : RuleBook × Changes} (isChild : child ∈ factory.children)
    (updates : ∀ (other : RuleBook) (changes : Changes) (childFactory : EntityFactory),
      other.Forest rank → other.depthBound = book.depthBound →
      other.entityFactory child = some childFactory →
      Cleaned rank other (updateProperties depth (other, changes) child).1 child)
    (handed : HandedDown rank book result.1 name (child :: rest) dirty) :
    HandedDown rank book (handDown depth factory.attributes result child).1 name rest dirty := by
  obtain ⟨childBefore, isChildBefore, isParentBefore⟩ := forest.child known isChild
  obtain ⟨childFactory, isChildFactory, sameParent, sameChildren⟩ :=
    handed.sameShape.entityFactory isChildBefore
  have isParent : childFactory.parent = some name := sameParent.trans isParentBefore
  have higher : rank name < rank child := forest.rank_lt isChildBefore isParentBefore
  have notName : child ≠ name := by
    rintro rfl
    exact lt_irrefl _ higher
  have nameKnown : result.1.entityFactory name = some factory :=
    (handed.frame name (Nat.le_refl _)).trans known
  have shapeSet := sameShape_setEntityFactory isChildFactory
    (show RuleBook.shape (childFactory.inherit factory.attributes) = RuleBook.shape childFactory
      from rfl)
  have forestSet := (forest.sameShape handed.sameShape).sameShape shapeSet
  have childKnown : (result.1.setEntityFactory child
      (childFactory.inherit factory.attributes)).entityFactory child =
      some (childFactory.inherit factory.attributes) := by
    rw [entityFactory_setEntityFactory, if_pos rfl]
  have cleaned := updates _ result.2 _ forestSet
    (shapeSet.depthBound.trans handed.sameShape.depthBound) childKnown
  have handDown_eq : handDown depth factory.attributes result child =
      updateProperties depth
        (result.1.setEntityFactory child (childFactory.inherit factory.attributes), result.2)
        child := by
    rw [handDown, isChildFactory]
  rw [handDown_eq]
  refine ⟨(handed.sameShape.trans shapeSet).trans cleaned.sameShape, ?_, ?_, ?_⟩
  · intro other low
    have lower : rank other ≤ rank child := le_of_lt (lt_of_le_of_lt low higher)
    have notChild : child ≠ other := by
      rintro rfl
      exact absurd low (not_le_of_gt higher)
    rw [cleaned.frame other lower, entityFactory_setEntityFactory, if_neg notChild,
      handed.frame other low]
  · intro other
    rw [cleaned.own, entityFactory_setEntityFactory, ← handed.own]
    split_ifs with isChildName
    · rw [← isChildName, isChildFactory]
      rfl
    · rfl
  · intro lawful other
    have consistent : (result.1.setEntityFactory child
        (childFactory.inherit factory.attributes)).Consistent child := by
      intro current isCurrent
      rw [childKnown] at isCurrent
      obtain rfl := Option.some.inj isCurrent
      have inheritedFrom : (result.1.setEntityFactory child
          (childFactory.inherit factory.attributes)).inherited
            (childFactory.inherit factory.attributes) = factory.attributes := by
        unfold inherited
        rw [show (childFactory.inherit factory.attributes).parent = some name from isParent,
          bind_some, entityFactory_setEntityFactory, if_neg notName, nameKnown]
      rw [inheritedFrom]
      rfl
    have lawfulSet := (lawful.sameShape handed.sameShape).sameShape shapeSet
    have status := cleaned.cleans lawfulSet ({other | other ∈ rest} ∪ dirty) consistent ?_ other
    · rcases status with clean | isRest | isDirty
      · exact Or.inl clean
      · exact Or.inr (Or.inl isRest)
      · exact Or.inr (Or.inr isDirty)
    · intro other
      by_cases isSame : other = child
      · exact Or.inr (Or.inl isSame)
      by_cases grandchild : other ∈ childFactory.children
      · exact Or.inr (Or.inr (Or.inl ⟨_, childKnown, grandchild⟩))
      rcases handed.clean lawful other with clean | isRest | isDirty
      · left
        refine clean.setEntityFactory isSame _ ?_
        intro otherFactory isOther isOtherParent
        obtain ⟨parentFactory, isParentFactory, listed⟩ :=
          (forest.sameShape handed.sameShape).listed isOther isOtherParent
        rw [isChildFactory] at isParentFactory
        obtain rfl := Option.some.inj isParentFactory
        exact grandchild listed
      · rcases List.mem_cons.mp isRest with rfl | isRest
        · exact absurd rfl isSame
        · exact Or.inr (Or.inr (Or.inr (Or.inl isRest)))
      · exact Or.inr (Or.inr (Or.inr (Or.inr isDirty)))

end HandDown

/-- A deep update cleans a class. -/
theorem updateProperties_cleaned {rank : String → Nat} {book : RuleBook} {name : String}
    {factory : EntityFactory} (forest : book.Forest rank)
    (known : book.entityFactory name = some factory) (changes : Changes) {depth : Nat}
    (enough : book.depthBound ≤ depth + rank name) :
    Cleaned rank book (updateProperties depth (book, changes) name).1 name := by
  induction depth generalizing book name factory changes with
  | zero =>
    have bounded := forest.rank_bound known
    omega
  | succ depth ih =>
    obtain ⟨node, isNode⟩ := forest.typed known
    have shapeType := sameShape_updateType isNode changes factory.attributes
    -- The loop runs over the children, starting after the update of the type.
    have loop : ∀ (children : List String), children ⊆ factory.children →
        ∀ (dirty : Set String) (result : RuleBook × Changes),
        HandedDown rank book result.1 name children dirty →
        HandedDown rank book
          (children.foldl (handDown depth factory.attributes) result).1 name [] dirty := by
      intro children isSuffix dirty
      induction children with
      | nil =>
        intro result handed
        exact handed
      | cons child rest loop =>
        intro result handed
        rw [List.foldl_cons]
        apply loop fun other isRest => isSuffix (List.mem_cons_of_mem _ isRest)
        refine HandedDown.step forest known (isSuffix List.mem_cons_self) ?_ handed
        intro other otherChanges childFactory otherForest sameBound isChild
        obtain ⟨childBefore, isChildBefore, isParent⟩ :=
          forest.child known (isSuffix List.mem_cons_self)
        have higher := forest.rank_lt isChildBefore isParent
        exact ih otherForest isChild otherChanges (by omega)
    rw [updateProperties_succ known]
    have started : ∀ dirty : Set String,
        (book.LawfulTypes → ∀ other,
          (book.updateType changes name factory.attributes).1.Clean other ∨
            other ∈ factory.children ∨ other ∈ dirty) →
        HandedDown rank book (book.updateType changes name factory.attributes).1 name
          factory.children dirty := by
      intro dirty clean
      refine ⟨shapeType, ?_, ?_, clean⟩
      · intro other _
        exact entityFactory_updateType book changes name other _
      · intro other
        rw [entityFactory_updateType]
    have whole := loop factory.children (List.Subset.refl _) Set.univ _
      (started Set.univ fun _ other => Or.inr (Or.inr (Set.mem_univ other)))
    refine ⟨whole.sameShape, whole.frame, whole.own, ?_⟩
    intro lawful dirty consistent before other
    have result :=
      (loop factory.children (List.Subset.refl _) dirty _ (started dirty ?_)).clean lawful other
    · simpa using result
    intro _ other
    by_cases isName : other = name
    · subst isName
      exact Or.inl
        (clean_updateType_self isNode (lawful _ factory node known isNode) known consistent
        changes)
    · rcases before other with clean | same | ⟨_, isFactory, isChild⟩ | isDirty
      · exact Or.inl (clean.updateType isNode isName changes factory.attributes)
      · exact absurd same isName
      · rw [known] at isFactory
        obtain rfl := Option.some.inj isFactory
        exact Or.inr (Or.inl isChild)
      · exact Or.inr (Or.inr isDirty)

end RuleBook

end Cyphesis.Ruleset
