import Cyphesis.Ruleset.Batch
import Cyphesis.Ruleset.InheritedAttributes

/-!
# What an installed type looks like

The default properties of a type that was not modified are given by its rule and its parent.
-/

namespace Cyphesis.Ruleset

open Std (ExtTreeMap)
open Cyphesis.Atlas Option Std.ExtTreeMap
open Cyphesis.Common
open Cyphesis.Foundation

/-- Setting a property twice is setting it once. -/
def PropertyManager.Idempotent (manager : PropertyManager) : Prop :=
  ∀ (name : String) kit, manager[name]? = some kit → ∀ held value,
    kit.prototype.store (kit.prototype.store held value) value = kit.prototype.store held value

theorem PropertyManager.Idempotent.addProperty {manager : PropertyManager}
    (idempotent : manager.Idempotent) (name : String) (held value : Element) :
    (manager.addProperty name).store ((manager.addProperty name).store held value) value =
      (manager.addProperty name).store held value := by
  unfold PropertyManager.addProperty
  cases isKit : manager[name]? with
  | none => rfl
  | some kit => exact idempotent name kit isKit held value

namespace TypeNode

/-- What an update makes of a default property. -/
def redefault (manager : PropertyManager) (attributes : MapType) (name : String)
    (held : Option Property) : Option Property :=
  attributes[name]?.elim (held.filter fun property => property.hasFlags propFlagPersistenceEphem)
    fun value => updatedDefault manager name value held

theorem updateProperties_getElem? (node : TypeNode) (attributes : MapType)
    (manager : PropertyManager) (name : String) :
    (node.updateProperties attributes manager).1.defaults[name]? =
      redefault manager attributes name node.defaults[name]? := by
  unfold redefault
  cases isAttribute : attributes[name]? with
  | none => exact updateProperties_default_of_gone manager isAttribute
  | some value => exact updateProperties_default_of_attribute manager isAttribute

section Idempotent

variable {manager : PropertyManager} (idempotent : manager.Idempotent) (name : String)
  (value : Element)

include idempotent

variable {property : Property}

section

variable (made : property.store = (manager.addProperty name).store)

include made

theorem set_set : (property.set value).set value = property.set value := by
  unfold Property.set
  rw [made, idempotent.addProperty name]

theorem updatedDefault_set :
    updatedDefault manager name value (some (property.set value)) = some (property.set value) := by
  unfold updatedDefault
  cases PropertyUtil.isValidName name with
  | false => rfl
  | true =>
    simp only [Bool.not_true, Bool.false_eq_true, set_set idempotent name value made, ite_self]

end

theorem updatedDefault_updatedDefault {held : Option Property}
    (made : ∀ property, held = some property → property.store = (manager.addProperty name).store) :
    updatedDefault manager name value (updatedDefault manager name value held) =
      updatedDefault manager name value held := by
  cases valid : PropertyUtil.isValidName name with
  | false => simp [updatedDefault, valid]
  | true =>
    cases held with
    | none =>
      cases instanceOnly : (manager.addProperty name).hasFlags propFlagInstance with
      | true => simp [updatedDefault, valid, instanceOnly]
      | false =>
        have first : updatedDefault manager name value none =
            some (((manager.addProperty name).addFlags propFlagClass).set value) := by
          simp [updatedDefault, valid, instanceOnly]
        rw [first]
        exact updatedDefault_set idempotent name value rfl
    | some property =>
      cases differs : property.get != value with
      | true =>
        have first : updatedDefault manager name value (some property) =
            some (property.set value) := by
          simp [updatedDefault, valid, differs]
        rw [first]
        exact updatedDefault_set idempotent name value (made property rfl)
      | false =>
        have first : updatedDefault manager name value (some property) = some property := by
          simp [updatedDefault, valid, differs]
        rw [first, first]

theorem updatedDefault_madeDefault :
    updatedDefault manager name value (madeDefault manager name value) =
      madeDefault manager name value := by
  unfold madeDefault
  cases valid : PropertyUtil.isValidName name with
  | false => simp [updatedDefault, valid]
  | true =>
    cases instanceOnly : (manager.addProperty name).hasFlags propFlagInstance with
    | true => simp [updatedDefault, valid, instanceOnly]
    | false =>
      rw [if_pos (by simp)]
      exact updatedDefault_set idempotent name value
        (show ((manager.addProperty name).addFlags propFlagClass).store = _ from rfl)

end Idempotent

theorem store_madeDefault {manager : PropertyManager} {name : String} {value : Element}
    {property : Property} (made : madeDefault manager name value = some property) :
    property.store = (manager.addProperty name).store := by
  unfold madeDefault at made
  split_ifs at made
  rw [← Option.some.inj made]
  rfl

end TypeNode

/-- Class attributes of a rule. -/
def ownAttributes (rule : Description) : ClassAttributes :=
  ({ classAttributes := ∅, attributes := ∅, parent := none, children := [] :
    EntityFactory }.populate rule).classAttributes

theorem populate_classAttributes {factory : EntityFactory} (fresh : factory.classAttributes = ∅)
    (rule : Description) : (factory.populate rule).classAttributes = ownAttributes rule := by
  apply ext_getElem?
  intro name
  have given : ∀ factory : EntityFactory, factory.classAttributes = ∅ →
      (factory.populate rule).classAttributes[name]? = EntityFactory.ruleAttribute rule name := by
    intro factory fresh
    have both := factory.populate_getElem? rule name
    rw [fresh, getElem?_empty] at both
    cases isGiven : EntityFactory.ruleAttribute rule name with
    | none =>
      rw [isGiven, elim_none, Prod.mk.injEq] at both
      exact both.2
    | some classAttribute =>
      rw [isGiven, elim_some, Prod.mk.injEq] at both
      exact both.2
  rw [given factory fresh, ownAttributes, given _ rfl]

/-- Attributes of a class that inherits some. -/
def finalAttributes (rule : Description) (inherited : MapType) : MapType :=
  (ownAttributes rule).foldl combineInto inherited

/-- They do not start with parental attributes. -/
def startAttributes (rule : Description) (inherited : MapType) : MapType :=
  finalAttributes rule (if rule.id ∈ RuleBook.predefinedFactories then ∅ else inherited)

/-- Defaults of the first attributes. -/
def classDefault (manager : PropertyManager) (rule : Description) (inherited : MapType)
    (name : String) : Option Property :=
  TypeNode.redefault manager (finalAttributes rule inherited) name
    ((startAttributes rule inherited)[name]?.bind (TypeNode.madeDefault manager name))

theorem finalAttributes_of_start {rule : Description} {inherited : MapType} {name : String}
    (gone : (finalAttributes rule inherited)[name]? = none) :
    (startAttributes rule inherited)[name]? = none := by
  unfold startAttributes
  unfold finalAttributes at gone ⊢
  rw [getElem?_foldl_combineInto] at gone ⊢
  cases own : (ownAttributes rule)[name]? with
  | some classAttribute => simp [own] at gone
  | none =>
    rw [own, elim_none] at gone
    rw [elim_none]
    split_ifs
    · exact getElem?_empty
    · exact gone

section

variable {manager : PropertyManager} (idempotent : manager.Idempotent) (rule : Description)

include idempotent

theorem redefault_classDefault (inherited : MapType) (name : String) :
    TypeNode.redefault manager (finalAttributes rule inherited) name
      (classDefault manager rule inherited name) = classDefault manager rule inherited name := by
  unfold classDefault TypeNode.redefault
  cases isAttribute : (finalAttributes rule inherited)[name]? with
  | none =>
    rw [finalAttributes_of_start isAttribute]
    rfl
  | some value =>
    apply TypeNode.updatedDefault_updatedDefault idempotent
    intro property isMade
    obtain ⟨start, -, isMade⟩ := Option.bind_eq_some_iff.mp isMade
    exact TypeNode.store_madeDefault isMade

theorem classDefault_root (name : String) :
    classDefault manager rule ∅ name =
      (finalAttributes rule ∅)[name]?.bind (TypeNode.madeDefault manager name) := by
  unfold classDefault startAttributes TypeNode.redefault
  rw [ite_self]
  cases (finalAttributes rule ∅)[name]? with
  | none => rfl
  | some value => exact TypeNode.updatedDefault_madeDefault idempotent name value

end

namespace ArchetypeFactory

/-- A factory with given contents. -/
def ofContents (contents : ExtTreeMap String MapType compare × List Element) : ArchetypeFactory :=
  { entities := contents.1
    thoughts := contents.2
    classEntities := ∅
    classThoughts := []
    parent := none
    children := [] }

section

variable {factory other : ArchetypeFactory} (same : factory.contents = other.contents)

include same

theorem foldl_populateEntity (entities : List Element) :
    (entities.foldl populateEntity factory).contents =
      (entities.foldl populateEntity other).contents := by
  induction entities generalizing factory other with
  | nil => exact same
  | cons entity rest ih =>
    apply ih
    obtain ⟨sameEntities, sameThoughts⟩ := Prod.mk.inj same
    unfold populateEntity
    cases entity with
    | map entries => simp only [contents, sameEntities, sameThoughts]
    | _ => exact same

theorem contents_populate (rule : Description) :
    (factory.populate rule).contents = (other.populate rule).contents := by
  obtain ⟨sameEntities, sameThoughts⟩ :=
    Prod.mk.inj (foldl_populateEntity same (rule.entities.getD []))
  simp only [populate, contents, sameEntities, sameThoughts]

theorem attributes_eq_of_contents : factory.attributes = other.attributes := by
  obtain ⟨sameEntities, sameThoughts⟩ := Prod.mk.inj same
  unfold attributes
  rw [sameEntities, sameThoughts]

end

end ArchetypeFactory

/-- Contents of an archetype below another. -/
def derivedContents (rule : Description)
    (contents : ExtTreeMap String MapType compare × List Element) :
    ExtTreeMap String MapType compare × List Element :=
  ((ArchetypeFactory.ofContents contents).populate rule).contents

/-- Default properties of an archetype. -/
def archetypeDefault (manager : PropertyManager)
    (contents : ExtTreeMap String MapType compare × List Element) (name : String) :
    Option Property :=
  (ArchetypeFactory.ofContents contents).attributes[name]?.bind (TypeNode.madeDefault manager name)

namespace RuleBook

/-- The type is as rule and parent determine it. -/
def Stands (book : RuleBook) (rule : Description) : Prop :=
  match rule.objtype with
  | .entityClass =>
    ∃ factory, book.entityFactory rule.id = some factory ∧
      factory.parent = (if rule.parent = "game_entity" then none else some rule.parent) ∧
      factory.classAttributes = ownAttributes rule ∧
      ∀ name, book.defaultOf rule.id name =
        classDefault book.propertyFactories rule (book.inherited factory) name
  | .archetype =>
    ∃ contents,
      (book.archetypeFactory rule.parent).map ArchetypeFactory.contents = some contents ∧
      (book.archetypeFactory rule.id).map ArchetypeFactory.contents =
        some (derivedContents rule contents) ∧
      ∀ name, book.defaultOf rule.id name =
        archetypeDefault book.propertyFactories (derivedContents rule contents) name
  | _ => book.entityFactory rule.id = none ∧ ∀ name, book.defaultOf rule.id name = none

/-- What nothing below changes. -/
def core (factory : EntityFactory) : Option String × ClassAttributes × MapType :=
  (factory.parent, factory.classAttributes, factory.attributes)

/-- Left by the installation of another. -/
structure Undisturbed (book changed : RuleBook) (type : String) : Prop where
  factory : (changed.entityFactory type).map core = (book.entityFactory type).map core
  archetype : (changed.archetypeFactory type).map ArchetypeFactory.contents =
    (book.archetypeFactory type).map ArchetypeFactory.contents
  defaults : (∀ name, changed.defaultOf type name = book.defaultOf type name) ∨
    ∃ factory, book.entityFactory type = some factory ∧ ∀ name, changed.defaultOf type name =
      TypeNode.redefault book.propertyFactories factory.attributes name (book.defaultOf type name)

section

variable {book changed : RuleBook} {type : String} (undisturbed : Undisturbed book changed type)

include undisturbed

theorem Undisturbed.entityFactory {factory : EntityFactory}
    (known : book.entityFactory type = some factory) :
    ∃ changedFactory, changed.entityFactory type = some changedFactory ∧
      changedFactory.parent = factory.parent ∧
      changedFactory.classAttributes = factory.classAttributes ∧
      changedFactory.attributes = factory.attributes := by
  have same := undisturbed.factory
  rw [known, map_some] at same
  obtain ⟨changedFactory, isChanged, sameCore⟩ := Option.map_eq_some_iff.mp same
  simp only [core, Prod.mk.injEq] at sameCore
  exact ⟨changedFactory, isChanged, sameCore.1, sameCore.2.1, sameCore.2.2⟩

theorem Undisturbed.entityFactory_eq_none (unknown : book.entityFactory type = none) :
    changed.entityFactory type = none := by
  have same := undisturbed.factory
  rw [unknown, map_none, map_eq_none_iff] at same
  exact same

theorem Undisturbed.defaultOf (unknown : book.entityFactory type = none) (name : String) :
    changed.defaultOf type name = book.defaultOf type name := by
  rcases undisturbed.defaults with same | ⟨factory, known, -⟩
  · exact same name
  · rw [unknown] at known
    contradiction

end

theorem entityFactory_eq_none_of_archetype {book : RuleBook} {type : String}
    {contents : ExtTreeMap String MapType compare × List Element}
    (known : (book.archetypeFactory type).map ArchetypeFactory.contents = some contents) :
    book.entityFactory type = none := by
  unfold archetypeFactory at known
  unfold entityFactory
  cases found : book.entityFactories[type]? with
  | none => rfl
  | some kit =>
    cases kit with
    | archetype factory => rfl
    | entity factory => simp [found] at known

section

variable {book changed : RuleBook}

/-- A class that is installed stays so while its rule is left alone. -/
theorem Stands.undisturbed {rule : Description}
    (stands : book.Stands rule) (idempotent : book.propertyFactories.Idempotent)
    (consistent : book.Consistent rule.id)
    (manager : changed.propertyFactories = book.propertyFactories)
    (own : Undisturbed book changed rule.id) (above : Undisturbed book changed rule.parent) :
    changed.Stands rule := by
  unfold Stands at stands ⊢
  cases isKind : rule.objtype with
  | entityClass =>
    simp only [isKind] at stands ⊢
    obtain ⟨factory, known, isParent, isOwn, defaults⟩ := stands
    obtain ⟨changedFactory, isChanged, sameParent, sameOwn, -⟩ := own.entityFactory known
    have sameInherited : changed.inherited changedFactory = book.inherited factory := by
      unfold inherited
      rw [sameParent, isParent]
      split_ifs with isRoot
      · rfl
      · rw [bind_some, bind_some]
        cases parentKnown : book.entityFactory rule.parent with
        | none => rw [above.entityFactory_eq_none parentKnown]
        | some parentFactory =>
          obtain ⟨parentChanged, isParentChanged, -, -, sameAttributes⟩ :=
            above.entityFactory parentKnown
          rw [isParentChanged]
          exact sameAttributes
    refine ⟨changedFactory, isChanged, sameParent.trans isParent, sameOwn.trans isOwn, ?_⟩
    intro name
    rw [manager, sameInherited]
    rcases own.defaults with same | ⟨again, isAgain, updated⟩
    · rw [same, defaults]
    · rw [known] at isAgain
      obtain rfl := Option.some.inj isAgain
      have isFinal : factory.attributes = finalAttributes rule (book.inherited factory) := by
        rw [consistent factory known, isOwn, finalAttributes]
      rw [updated, defaults, isFinal, redefault_classDefault idempotent]
  | archetype =>
    simp only [isKind] at stands ⊢
    obtain ⟨contents, isParent, isContents, defaults⟩ := stands
    refine ⟨contents, above.archetype.trans isParent, own.archetype.trans isContents, ?_⟩
    intro name
    rw [own.defaultOf (entityFactory_eq_none_of_archetype isContents), defaults, manager]
  | _ =>
    simp only [isKind] at stands ⊢
    refine ⟨own.entityFactory_eq_none stands.1, ?_⟩
    intro name
    rw [own.defaultOf stands.1, stands.2]

theorem Sound.frame (sound : book.Sound) (planted : changed.Planted)
    (factories : ∀ type, changed.entityFactory type = book.entityFactory type)
    (defaults : ∀ type factory, book.entityFactory type = some factory →
      changed.atlasObjects[type]?.map TypeNode.defaults =
        book.atlasObjects[type]?.map TypeNode.defaults)
    (manager : changed.propertyFactories = book.propertyFactories) : changed.Sound := by
  refine { planted with lawful := ?_, clean := ?_ }
  · intro type factory node known isNode
    rw [factories] at known
    have same := defaults type factory known
    rw [isNode, map_some] at same
    obtain ⟨before, isBefore, sameDefaults⟩ := Option.map_eq_some_iff.mp same.symm
    rw [manager]
    intro name property isDefault
    exact sound.lawful type factory before known isBefore name property (sameDefaults ▸ isDefault)
  · intro type
    cases known : book.entityFactory type with
    | none =>
      constructor
      · intro factory isFactory
        rw [factories, known] at isFactory
        contradiction
      · intro factory node isFactory
        rw [factories, known] at isFactory
        contradiction
    | some factory =>
      refine (sound.clean type).congr (factories type) (defaults type factory known) ?_ manager
      intro other _
      unfold inherited
      cases other.parent with
      | none => rfl
      | some parent => rw [bind_some, bind_some, factories]

theorem attributes_eq_of_classAttributes {rank : String → Nat}
    (forest : book.Forest rank) (consistent : ∀ type, book.Consistent type)
    (consistentLater : ∀ type, changed.Consistent type)
    (same : ∀ type factory, book.entityFactory type = some factory →
      ∃ later, changed.entityFactory type = some later ∧ later.parent = factory.parent ∧
        later.classAttributes = factory.classAttributes)
    {type : String} {factory later : EntityFactory}
    (known : book.entityFactory type = some factory)
    (isLater : changed.entityFactory type = some later) :
    later.attributes = factory.attributes := by
  induction height : rank type using Nat.strong_induction_on generalizing type factory later with
  | _ height' ih =>
    obtain ⟨again, isAgain, sameParent, sameOwn⟩ := same type factory known
    rw [isLater] at isAgain
    obtain rfl := Option.some.inj isAgain
    rw [consistent type factory known, consistentLater type later isLater, sameOwn]
    suffices inherit : changed.inherited later = book.inherited factory by rw [inherit]
    unfold inherited
    rw [sameParent]
    cases isParent : factory.parent with
    | none => rfl
    | some parent =>
      obtain ⟨parentFactory, isParentFactory, -⟩ := forest.listed known isParent
      obtain ⟨parentLater, isParentLater, -⟩ := same parent parentFactory isParentFactory
      rw [bind_some, bind_some, isParentFactory, isParentLater]
      exact ih (rank parent) (height ▸ forest.rank_lt known isParent) isParentFactory
        isParentLater rfl

end

/-- Installed, and types are right. -/
structure InstalledAs (book changed : RuleBook) (rule : Description) : Prop where
  sound : changed.Sound
  manager : changed.propertyFactories = book.propertyFactories
  undisturbed : ∀ type, type ≠ rule.id → Undisturbed book changed type
  stands : changed.Stands rule

section Handlers

variable {book : RuleBook} {rule : Description} {changes : Changes} (sound : book.Sound)

include sound

theorem Entered.installedAs {changed : RuleBook} (entered : Entered book changed rule)
    (isOperation : rule.objtype = .opDefinition) : InstalledAs book changed rule := by
  have factories : ∀ type, changed.entityFactory type = book.entityFactory type := by
    intro type
    rw [entityFactory, entered.factories, entityFactory]
  have unknown : book.entityFactory rule.id = none := by
    unfold entityFactory
    cases found : book.entityFactories[rule.id]? with
    | none => rfl
    | some kit =>
      obtain ⟨node, isNode⟩ := getElem?_of_hasClass (sound.typed _ _ found)
      rw [entered.new] at isNode
      contradiction
  have known_ne : ∀ type factory, book.entityFactory type = some factory → type ≠ rule.id := by
    rintro type factory known rfl
    rw [unknown] at known
    contradiction
  refine
    { sound := sound.frame (sound.toPlanted.entered entered) factories
        (fun type factory known => entered.defaults (known_ne type factory known)) entered.manager
      manager := entered.manager
      undisturbed := ?_
      stands := ?_ }
  · intro type notNew
    refine ⟨by rw [factories], ?_, Or.inl (defaultOf_congr (entered.defaults notNew))⟩
    rw [archetypeFactory, entered.factories, archetypeFactory]
  · unfold Stands
    simp only [isOperation]
    refine ⟨(factories _).trans unknown, ?_⟩
    intro name
    rw [defaultOf, entered.type, bind_some]
    exact getElem?_empty

/-- An archetype. -/
theorem installedAs_archetype {result : RuleBook × Changes}
    (isArchetype : rule.objtype = .archetype)
    (installed : book.installArchetypeClass changes rule = .installed result) :
    InstalledAs book result.1 rule := by
  have planted : result.1.Planted := by
    obtain ⟨factory, entered, newClass, sameChanges, types, factories, bound, typed, -⟩ :=
      installArchetypeClass_eq sound.toPlanted installed
    have step : SmallStep (book, changes) (.install rule) result :=
      .archetype isArchetype newClass sameChanges types factories bound typed
    exact Planted.smallStep (show (book, changes).1.Planted from sound.toPlanted) step
  obtain ⟨factory, entered, newClass, -, types, factories, -, -,
    ⟨parentFactory, isParent, populated⟩,
    manager, contents⟩ := installArchetypeClass_eq sound.toPlanted installed
  have derived : factory.contents = derivedContents rule parentFactory.contents := by
    rw [populated]
    apply ArchetypeFactory.contents_populate
    rfl
  have archetypes : ∀ type, type ≠ rule.id →
      entered.archetypeFactory type = book.archetypeFactory type := by
    intro type notNew
    unfold archetypeFactory
    rw [newClass.kits, if_neg (Ne.symm notNew)]
  have known_ne : ∀ type other, book.entityFactory type = some other → type ≠ rule.id := by
    rintro type other known rfl
    unfold entityFactory at known
    cases found : book.entityFactories[rule.id]? with
    | none => simp [found] at known
    | some kit =>
      obtain ⟨node, isNode⟩ := getElem?_of_hasClass (sound.typed _ _ found)
      rw [newClass.new] at isNode
      contradiction
  refine
    { sound := sound.frame planted factories ?_ manager
      manager := manager
      undisturbed := ?_
      stands := ?_ }
  · intro type other known
    rw [types]
    exact newClass.defaults type (known_ne type other known)
  · intro type notNew
    refine ⟨by rw [factories], ?_, Or.inl (defaultOf_congr ?_)⟩
    · rw [contents, archetypes type notNew]
    · rw [types]
      exact newClass.defaults type notNew
  · unfold Stands
    simp only [isArchetype]
    refine ⟨parentFactory.contents, ?_, ?_, ?_⟩
    · rw [contents, archetypes _ (Ne.symm newClass.different), isParent, map_some]
    · rw [contents, archetypeFactory, newClass.kits, if_pos rfl, map_some, derived]
    · intro name
      obtain ⟨node, isNode, -⟩ := newClass.type
      rw [defaultOf, types, isNode, bind_some, newClass.made node isNode, manager, archetypeDefault]
      rw [ArchetypeFactory.attributes_eq_of_contents (show factory.contents =
        (ArchetypeFactory.ofContents (derivedContents rule parentFactory.contents)).contents
        from derived)]

omit sound in
theorem NewClass.defaultOf {entered : RuleBook} {kit : EntityKit} {attributes : MapType}
    (newClass : NewClass book entered rule kit attributes) (name : String) :
    entered.defaultOf rule.id name =
      attributes[name]?.bind (TypeNode.madeDefault book.propertyFactories name) := by
  obtain ⟨node, isNode, -⟩ := newClass.type
  rw [RuleBook.defaultOf, isNode, bind_some, newClass.made node isNode]

theorem NewClass.installedAs_root {entered : RuleBook} {factory : EntityFactory}
    (idempotent : book.propertyFactories.Idempotent) (isClass : rule.objtype = .entityClass)
    (newClass : NewClass book entered rule (.entity factory) factory.attributes)
    (isRoot : rule.parent = "game_entity") (childless : factory.children = [])
    (noParent : factory.parent = none) (isOwn : factory.classAttributes = ownAttributes rule)
    (isFinal : factory.attributes = finalAttributes rule ∅) : InstalledAs book entered rule := by
  refine
    { sound :=
      newClass.sound_root sound childless noParent (by rw [isFinal, isOwn, finalAttributes])
      manager := newClass.manager
      undisturbed := ?_
      stands := ?_ }
  · intro type notNew
    refine ⟨?_, ?_, Or.inl (defaultOf_congr (newClass.defaults type notNew))⟩
    · rw [newClass.entityFactory, if_neg (Ne.symm notNew)]
    · rw [archetypeFactory, newClass.kits, if_neg (Ne.symm notNew), ← archetypeFactory]
  · unfold Stands
    simp only [isClass]
    refine ⟨factory, ?_, ?_, isOwn, ?_⟩
    · rw [newClass.entityFactory, if_pos rfl]
    · rw [noParent, if_pos isRoot]
    · intro name
      rw [newClass.defaultOf, inherited, noParent, bind_none, newClass.manager,
        classDefault_root idempotent, isFinal]

/-- Known to the parent, and updated. -/
structure Joining (book middle : RuleBook) (rule : Description) (changes : Changes)
    (factory parentFactory : EntityFactory) (later : RuleBook × Changes) : Prop where
  known : book.entityFactory rule.parent = some parentFactory
  unknown : book.entityFactory rule.id = none
  different : rule.id ≠ rule.parent
  isParent : factory.parent = some rule.parent
  factories : ∀ type, middle.entityFactory type =
    if rule.parent = type then
      some { parentFactory with children := parentFactory.children ++ [rule.id] }
    else if rule.id = type then some factory else book.entityFactory type
  defaults : ∀ type, type ≠ rule.id → ∀ name, middle.defaultOf type name = book.defaultOf type name
  manager : middle.propertyFactories = book.propertyFactories
  archetypes : ∀ type, type ≠ rule.id → middle.archetypeFactory type = book.archetypeFactory type
  cleaned : ∃ rank, Cleaned rank middle later.1 rule.parent
  visits : Visited middle changes later (Below middle rule.parent)

namespace Joining

variable {middle : RuleBook} {factory parentFactory : EntityFactory} {later : RuleBook × Changes}
  (joining : Joining book middle rule changes factory parentFactory later)

include joining

omit sound in
theorem parentFactory_middle : middle.entityFactory rule.parent =
    some { parentFactory with children := parentFactory.children ++ [rule.id] } :=
  (joining.factories rule.parent).trans (if_pos rfl)

omit sound in
theorem factory_middle : middle.entityFactory rule.id = some factory :=
  (joining.factories rule.id).trans ((if_neg (Ne.symm joining.different)).trans (if_pos rfl))

variable {type : String}

omit sound in
theorem kept {before : EntityFactory}
    (isBefore : book.entityFactory type = some before) :
    ∃ after, later.1.entityFactory type = some after ∧ after.parent = before.parent ∧
      after.classAttributes = before.classAttributes := by
  have inMiddle : ∃ between, middle.entityFactory type = some between ∧
      between.parent = before.parent ∧ between.classAttributes = before.classAttributes := by
    rw [joining.factories]
    split_ifs with isParentName isNewName
    · subst isParentName
      obtain rfl := Option.some.inj (joining.known.symm.trans isBefore)
      exact ⟨_, rfl, rfl, rfl⟩
    · subst isNewName
      rw [joining.unknown] at isBefore
      contradiction
    · exact ⟨before, isBefore, rfl, rfl⟩
  rcases inMiddle with ⟨between, isBetween, betweenParent, betweenOwn⟩
  rcases joining.cleaned with ⟨rank, cleaned⟩
  rcases cleaned.sameShape.entityFactory isBetween with ⟨after, isAfter, afterParent, -⟩
  have afterOwn := cleaned.own type
  rw [isAfter, isBetween, map_some, map_some, Option.some.injEq] at afterOwn
  exact ⟨after, isAfter, afterParent.trans betweenParent, afterOwn.trans betweenOwn⟩

theorem keptAttributes (soundLater : later.1.Sound) {before after : EntityFactory}
    (isBefore : book.entityFactory type = some before)
    (isAfter : later.1.entityFactory type = some after) : after.attributes = before.attributes := by
  rcases sound.forest with ⟨rank, forest⟩
  exact attributes_eq_of_classAttributes forest (fun type => (sound.clean type).1)
    (fun type => (soundLater.clean type).1) (fun type before => joining.kept) isBefore isAfter

omit sound in
theorem entityFactory_eq_none (notNew : type ≠ rule.id)
    (noFactory : book.entityFactory type = none) : later.1.entityFactory type = none := by
  rcases joining.cleaned with ⟨rank, cleaned⟩
  apply cleaned.sameShape.entityFactory_eq_none
  rw [joining.factories, if_neg, if_neg (Ne.symm notNew), noFactory]
  rintro rfl
  rw [joining.known] at noFactory
  contradiction

theorem undisturbed (soundLater : later.1.Sound) (notNew : type ≠ rule.id) :
    Undisturbed book later.1 type := by
  rcases joining.cleaned with ⟨rank, cleaned⟩
  have before := joining.defaults type notNew
  refine ⟨?_, ?_, ?_⟩
  · cases isBefore : book.entityFactory type with
    | none => rw [joining.entityFactory_eq_none notNew isBefore]
    | some before =>
      rcases joining.kept isBefore with ⟨after, isAfter, afterParent, afterOwn⟩
      rw [isAfter, map_some, map_some, core, core, afterParent, afterOwn,
        joining.keptAttributes sound soundLater isBefore isAfter]
  · rw [cleaned.sameShape.archetypes, joining.archetypes type notNew]
  · by_cases isVisited : Below middle rule.parent type
    · right
      rcases joining.visits.inside type isVisited with
        ⟨node, after, isNode, isAfter, isUpdated, -⟩
      cases isBefore : book.entityFactory type with
      | none =>
        rw [joining.entityFactory_eq_none notNew isBefore] at isAfter
        contradiction
      | some factory =>
        refine ⟨factory, rfl, ?_⟩
        intro name
        rw [← joining.keptAttributes sound soundLater isBefore isAfter, ← before,
          RuleBook.defaultOf, isUpdated, bind_some, TypeNode.updateProperties_getElem?,
          joining.manager, RuleBook.defaultOf, isNode, bind_some]
    · left
      intro name
      rw [RuleBook.defaultOf, (joining.visits.outside type isVisited).1, ← before,
        RuleBook.defaultOf]

omit sound in
theorem updated :
    ∃ node after, middle.atlasObjects[rule.id]? = some node ∧
      later.1.entityFactory rule.id = some after ∧
      later.1.atlasObjects[rule.id]? =
        some (node.updateProperties after.attributes middle.propertyFactories).1 ∧
      after.parent = factory.parent ∧ after.classAttributes = factory.classAttributes ∧
      later.1.inherited after = parentFactory.attributes := by
  rcases joining.cleaned with ⟨rank, cleaned⟩
  have below : Below middle rule.parent rule.id :=
    Below.child joining.factory_middle joining.isParent Below.self
  rcases joining.visits.inside _ below with ⟨node, after, isNode, isAfter, isUpdated, -⟩
  rcases cleaned.sameShape.entityFactory joining.factory_middle with
    ⟨again, isAgain, afterParent, -⟩
  obtain rfl := Option.some.inj (isAfter.symm.trans isAgain)
  have afterOwn := cleaned.own rule.id
  rw [isAfter, joining.factory_middle, map_some, map_some, Option.some.injEq] at afterOwn
  refine ⟨node, after, isNode, isAfter, isUpdated, afterParent, afterOwn, ?_⟩
  rw [inherited, afterParent, joining.isParent, bind_some,
    cleaned.frame rule.parent (Nat.le_refl _), joining.parentFactory_middle]

end Joining

section

variable {entered : RuleBook} {factory parentFactory : EntityFactory}

theorem NewClass.joining
    (newClass : NewClass book entered rule (.entity factory) factory.attributes)
    (childless : factory.children = []) (isParent : factory.parent = some rule.parent)
    (known : book.entityFactory rule.parent = some parentFactory) :
    Joining book (entered.setEntityFactory rule.parent
        { parentFactory with children := parentFactory.children ++ [rule.id] })
      rule changes factory parentFactory (entered.joinParent changes rule.id rule.parent) := by
  have parentEntered : entered.entityFactory rule.parent = some parentFactory := by
    rw [newClass.entityFactory, if_neg newClass.different, known]
  have grown := newClass.planted_child sound.toPlanted childless isParent known
  rcases grown.forest with ⟨rank, forest⟩
  have factories := newClass.joined_entityFactory
    { parentFactory with children := parentFactory.children ++ [rule.id] }
  have joined := (factories rule.parent).trans (if_pos rfl)
  refine
    { known := known
      unknown := newClass.unknown sound.typed
      different := newClass.different
      isParent := isParent
      factories := factories
      defaults := fun type notNew => defaultOf_congr (newClass.defaults type notNew)
      manager := newClass.manager
      archetypes := ?_
      cleaned := ⟨rank, ?_⟩
      visits := ?_ }
  · intro type notNew
    rw [archetypeFactory_setEntityFactory parentEntered, archetypeFactory, newClass.kits,
      if_neg (Ne.symm notNew), ← archetypeFactory]
  · rw [joinParent, parentEntered]
    exact updateProperties_cleaned forest joined changes (Nat.le_add_right _ _)
  · rw [joinParent, parentEntered]
    exact updateProperties_visited forest joined changes (Nat.le_add_right _ _)

theorem NewClass.installedAs_child
    (isClass : rule.objtype = .entityClass)
    (newClass : NewClass book entered rule (.entity factory) factory.attributes)
    (childless : factory.children = []) (isParent : factory.parent = some rule.parent)
    (known : book.entityFactory rule.parent = some parentFactory)
    (isOwn : factory.classAttributes = ownAttributes rule)
    (isStart : factory.attributes = startAttributes rule parentFactory.attributes) :
    InstalledAs book (entered.joinParent changes rule.id rule.parent).1 rule := by
  have soundLater := newClass.sound_child sound childless isParent known changes
  have joining := @NewClass.joining _ _ changes sound _ _ _ newClass childless isParent known
  have notRoot : rule.parent ≠ "game_entity" := by
    intro isRoot
    rw [isRoot, sound.noFactory] at known
    contradiction
  rcases joining.cleaned with ⟨rank, cleaned⟩
  refine
    { sound := soundLater
      manager := cleaned.sameShape.manager.trans joining.manager
      undisturbed := fun type notNew => joining.undisturbed sound soundLater notNew
      stands := ?_ }
  rcases joining.updated with
    ⟨node, after, isNode, isAfter, isUpdated, afterParent, afterOwn, isInherited⟩
  have isFinal : after.attributes = finalAttributes rule parentFactory.attributes := by
    rw [(soundLater.clean rule.id).1 after isAfter, isInherited, afterOwn, isOwn, finalAttributes]
  unfold Stands
  simp only [isClass]
  refine ⟨after, isAfter, ?_, afterOwn.trans isOwn, ?_⟩
  · rw [afterParent, isParent, if_neg notRoot]
  · intro name
    have start : node.defaults[name]? = entered.defaultOf rule.id name := by
      have isEntered : entered.atlasObjects[rule.id]? = some node := isNode
      rw [RuleBook.defaultOf, isEntered, bind_some]
    rw [RuleBook.defaultOf, isUpdated, bind_some, TypeNode.updateProperties_getElem?, start,
      newClass.defaultOf, isFinal, isInherited, isStart, cleaned.sameShape.manager,
      joining.manager, classDefault]

end

variable {result : RuleBook × Changes}

theorem installedAs_entityClass
    (idempotent : book.propertyFactories.Idempotent) (isClass : rule.objtype = .entityClass)
    (installed : book.installEntityClass changes rule = .installed result) :
    InstalledAs book result.1 rule := by
  unfold installEntityClass at installed
  cases isNew : book.newEntityFactory rule.id rule.parent with
  | inr reason => simp [isNew] at installed
  | inl fresh =>
    cases isInstalled : book.installFactory rule (.entity (fresh.populate rule)) with
    | none => simp [isNew, isInstalled] at installed
    | some entered =>
      simp only [isNew, isInstalled, InstallResult.installed.injEq] at installed
      subst installed
      have newClass := installFactory_newClass sound.typed isInstalled
        (fresh.populate rule).attributes
      obtain ⟨noClassAttributes, noChildren, place⟩ := newEntityFactory_fresh isNew
      obtain ⟨sameParent, sameChildren⟩ := fresh.populate_parent rule
      have isOwn := populate_classAttributes noClassAttributes rule
      have attributes := EntityFactory.populate_attributes noClassAttributes rule
      rw [isOwn] at attributes
      rcases place with ⟨isRoot, noParent, isEmpty⟩ | ⟨notRoot, isParent, parentFactory, known⟩
      · rw [joinParent, isRoot, newClass.noFactory sound.toPlanted]
        rw [isEmpty] at attributes
        exact newClass.installedAs_root sound idempotent isClass isRoot
          (sameChildren.trans noChildren) (sameParent.trans noParent) isOwn attributes
      · rw [newEntityFactory_attributes isNew notRoot known] at attributes
        exact newClass.installedAs_child sound isClass (sameChildren.trans noChildren)
          (sameParent.trans isParent) known isOwn attributes

theorem installRuleInner_installedAs
    (idempotent : book.propertyFactories.Idempotent) (notProperty : rule.objtype ≠ .propertyType)
    (installed : book.installRuleInner changes rule = .installed result) :
    InstalledAs book result.1 rule := by
  unfold installRuleInner at installed
  split_ifs at installed
  cases isKind : rule.objtype with
  | opDefinition =>
    rw [isKind] at installed
    exact (installOpDefinition_eq installed).1.installedAs sound isKind
  | entityClass =>
    rw [isKind] at installed
    exact installedAs_entityClass sound idempotent isKind installed
  | propertyType => exact absurd isKind notProperty
  | archetype =>
    rw [isKind] at installed
    exact installedAs_archetype sound isKind installed
  | other => simp [isKind] at installed

end Handlers

end RuleBook

end Cyphesis.Ruleset
